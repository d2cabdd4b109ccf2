import Mathlib.Data.List.Sort
import Mathlib.Data.String.Basic
import TrainFactory.Lib.BoundedWalk
import TrainFactory.Lib.Json
import TrainFactory.Lib.Table
import TrainFactory.Lib.Text

/-!
# The lineage graph of a dataset

`get_lineage_graph` and `_traverse` of `storage/services/dataset_lineage_service`, over the rows of
`dataset_lineage_edges`.
-/

namespace Lineage

open Lib

/-- A row of `dataset_lineage_edges`. -/
structure LineageEdge where
  edgeId : String
  /-- `NULL` for root edges. -/
  fromDatasetId : Option String
  toDatasetId : String
  relationType : String
  opTaskType : Option String
  opTaskId : Option String
  opParams : Json
  /-- `created_at.isoformat()`. -/
  createdAt : Option String

instance : Keyed LineageEdge String := ⟨LineageEdge.edgeId⟩

mutual

def publicLineageParams (lower : String → String) : Json → Json
  | .obj kvs => .obj (publicEntries lower kvs)
  | .arr xs => .arr (publicItems lower xs)
  | value => value

def publicItems (lower : String → String) : List Json → List Json
  | [] => []
  | x :: xs => publicLineageParams lower x :: publicItems lower xs

/-- The entries of a dictionary that are no durable worker credentials. -/
def publicEntries (lower : String → String) : List (String × Json) → List (String × Json)
  | [] => []
  | (key, item) :: kvs =>
    if endsWith (lower key) "run_token" then publicEntries lower kvs
    else (key, publicLineageParams lower item) :: publicEntries lower kvs

end

def LineageEdge.toDict (lower : String → String) (edge : LineageEdge) : LineageEdge :=
  { edge with opParams := publicLineageParams lower edge.opParams }

/-- The `direction` of a traversal. -/
inductive Way where
  | upstream
  | downstream
deriving DecidableEq

inductive Direction where
  | upstream
  | downstream
  | both
deriving DecidableEq

/-- The rows of the statement of `_traverse`. -/
def edgesAt (edges : Table LineageEdge) (way : Way) (datasetId : String) : List LineageEdge :=
  match way with
  | .upstream => edges.select fun edge => edge.toDatasetId = datasetId
  | .downstream => edges.select fun edge => edge.fromDatasetId = some datasetId

/-- `neighbor`; a text that is empty is no dataset. -/
def neighbor (way : Way) (edge : LineageEdge) : Option String :=
  match way with
  | .upstream => edge.fromDatasetId.filter fun datasetId => datasetId ≠ ""
  | .downstream => (some edge.toDatasetId).filter fun datasetId => datasetId ≠ ""

/-- `visited` and `edges`. -/
structure Traversal where
  visited : List String
  edges : List LineageEdge

def addEdge (lower : String → String) (edges : List LineageEdge) (edge : LineageEdge) :
    List LineageEdge :=
  if edges.any fun e => e.edgeId = (edge.toDict lower).edgeId then edges
  else edges ++ [edge.toDict lower]

/-- The body of the loop over the rows, with `next_ids`. -/
def visitEdge (lower : String → String) (way : Way) :
    Traversal × List String → LineageEdge → Traversal × List String
  | (st, nextIds), edge =>
    let collected := addEdge lower st.edges edge
    match neighbor way edge with
    | none => (⟨st.visited, collected⟩, nextIds)
    | some datasetId =>
      if datasetId ∈ st.visited then (⟨st.visited, collected⟩, nextIds)
      else (⟨st.visited ++ [datasetId], collected⟩, nextIds ++ [datasetId])

def traverse (lower : String → String) (edges : Table LineageEdge) (way : Way) :
    Nat → Traversal → String → Traversal
  | 0 => fun st _ => st
  | remainingDepth + 1 => fun st datasetId =>
    let (st', nextIds) := (edgesAt edges way datasetId).foldl (visitEdge lower way) (st, [])
    nextIds.foldl (traverse lower edges way remainingDepth) st'

def Direction.ways : Direction → List Way
  | .upstream => [.upstream]
  | .downstream => [.downstream]
  | .both => [.upstream, .downstream]

def Way.direction : Way → Direction
  | .upstream => .upstream
  | .downstream => .downstream

structure LineageGraph where
  nodes : List String
  edges : List LineageEdge

def getLineageGraph (lower : String → String) (edges : Table LineageEdge) (datasetId : String)
    (direction : Direction) (depth : Nat) : LineageGraph :=
  let traversed := direction.ways.foldl
    (fun st way => traverse lower edges way depth st datasetId) ⟨[datasetId], []⟩
  ⟨traversed.visited.insertionSort fun x y => x ≤ y, traversed.edges⟩

/-! ## The neighbourhood of a dataset -/

def neighbours (edges : Table LineageEdge) (way : Way) (datasetId : String) : List String :=
  (edgesAt edges way datasetId).filterMap (neighbor way)

/-- The datasets of the graph are those within the depth, and its edges those of the datasets that
are nearer than the depth, each of them once. -/
structure IsNeighbourhood (lower : String → String) (edges : Table LineageEdge) (start : String)
    (direction : Direction) (depth : Nat) (graph : LineageGraph) : Prop where
  mem_nodes : ∀ v, v ∈ graph.nodes ↔
    ∃ way ∈ direction.ways, ∃ k ≤ depth, StepsTo (neighbours edges way) start k v
  nodup_nodes : graph.nodes.Nodup
  mem_edges : ∀ dict, dict ∈ graph.edges ↔ ∃ way ∈ direction.ways, ∃ v,
    IsNear (neighbours edges way) start depth v ∧
      ∃ edge ∈ edgesAt edges way v, edge.toDict lower = dict
  nodup_edges : (graph.edges.map LineageEdge.edgeId).Nodup

/-- No dataset that has edges and is nearer than the depth is first met, in the order of the ways
without shortcuts that avoid `barred`, at the depth. -/
def IsMetInTime (edges : Table LineageEdge) (way : Way) (start : String) (depth : Nat)
    (barred : List String) : Prop :=
  ∀ e ∈ firstCopiesFrom Prod.fst barred (wayEnds (neighbours edges way) depth start barred),
    e.2 = 0 → IsNear (neighbours edges way) start depth e.1 → edgesAt edges way e.1 = []

/-- The datasets that are walked from, with the way: each traversal passes over what the ones before
it have seen. -/
def walks (edges : Table LineageEdge) (start : String) (depth : Nat) :
    List Way → List String → List (Way × String)
  | [], _ => []
  | way :: ways, seen =>
    (walkedFrom (neighbours edges way) depth start seen).map (fun e => (way, e.1)) ++
      walks edges start depth ways
        (seen ++ (marksFrom (neighbours edges way) depth start seen).map Prod.fst)

/-- Every edge of a dataset that is near enough is an edge of a dataset that is walked from. -/
def IsCovered (edges : Table LineageEdge) (start : String) (direction : Direction) (depth : Nat) :
    Prop :=
  ∀ way ∈ direction.ways, ∀ v, IsNear (neighbours edges way) start depth v →
    ∀ edge ∈ edgesAt edges way v,
      ∃ walk ∈ walks edges start depth direction.ways [start], edge ∈ edgesAt edges walk.1 walk.2

def IsUpstream (edges : Table LineageEdge) (start : String) (depth : Nat) (v : String) : Prop :=
  ∃ k ≤ depth, StepsTo (neighbours edges .upstream) start k v

end Lineage
