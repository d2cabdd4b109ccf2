import TrainFactory.Lineage.Graph

/-!
# The lineage graph and the neighbourhood of a dataset

A traversal marks what `Lib.marksFrom` marks and collects the edges of the datasets it walks from.
The graph is the neighbourhood if and only if every dataset that has edges and is near enough is
met in time.
-/

namespace Lineage

open Lib

variable {lower : String → String} {edges : Table LineageEdge} {way : Way}

/-! ## Collected edges -/

/-- The collected edges are edges of the table, each once. -/
structure IsCollected (lower : String → String) (edges : Table LineageEdge)
    (collected : List LineageEdge) : Prop where
  mem : ∀ dict ∈ collected, ∃ edge ∈ edges, edge.toDict lower = dict
  nodup : (collected.map LineageEdge.edgeId).Nodup

theorem edge_eq_of_edgeId_eq {edge edge' : LineageEdge} (h : edge ∈ edges) (h' : edge' ∈ edges)
    (hid : edge.edgeId = edge'.edgeId) : edge = edge' :=
  List.inj_on_of_nodup_map edges.nodup h h' hid

theorem mem_addEdge {collected : List LineageEdge} {edge : LineageEdge} (hedge : edge ∈ edges)
    (h : IsCollected lower edges collected) (dict : LineageEdge) :
    dict ∈ addEdge lower collected edge ↔ dict ∈ collected ∨ edge.toDict lower = dict := by
  unfold addEdge
  split
  · next hany =>
    refine ⟨Or.inl, fun hdict => hdict.elim id fun heq => ?_⟩
    obtain ⟨dict', hdict', hid⟩ := List.any_eq_true.mp hany
    obtain ⟨edge', hedge', rfl⟩ := h.mem dict' hdict'
    rw [← heq, ← edge_eq_of_edgeId_eq hedge' hedge (of_decide_eq_true hid)]
    exact hdict'
  · rw [List.mem_append, List.mem_singleton, @eq_comm _ dict]

theorem IsCollected.addEdge {collected : List LineageEdge} {edge : LineageEdge}
    (hedge : edge ∈ edges) (h : IsCollected lower edges collected) :
    IsCollected lower edges (addEdge lower collected edge) := by
  refine ⟨fun dict hdict => ?_, ?_⟩
  · rcases (mem_addEdge hedge h dict).mp hdict with hdict | rfl
    · exact h.mem dict hdict
    · exact ⟨edge, hedge, rfl⟩
  · unfold Lineage.addEdge
    split
    · exact h.nodup
    · next hany =>
      rw [List.map_append, List.nodup_append]
      refine ⟨h.nodup, List.nodup_singleton _, fun x hx y hy hxy => hany ?_⟩
      obtain ⟨dict, hdict, rfl⟩ := List.mem_map.mp hx
      rw [List.map_singleton, List.mem_singleton] at hy
      exact List.any_eq_true.mpr ⟨dict, hdict, decide_eq_true (hxy.trans hy)⟩

/-! ## One traversal -/

/-- What a traversal adds: marks, and the edges of the datasets it walks from. -/
structure Traversed (lower : String → String) (edges : Table LineageEdge) (way : Way)
    (st : Traversal) (marks walked : List (String × Nat)) (st' : Traversal) : Prop where
  visited : st'.visited = st.visited ++ marks.map Prod.fst
  mem_edges : ∀ dict, dict ∈ st'.edges ↔ dict ∈ st.edges ∨
    ∃ e ∈ walked, 0 < e.2 ∧ ∃ edge ∈ edgesAt edges way e.1, edge.toDict lower = dict
  collected : IsCollected lower edges st'.edges

theorem mem_of_mem_edgesAt {datasetId : String} {edge : LineageEdge}
    (h : edge ∈ edgesAt edges way datasetId) : edge ∈ edges := by
  cases way with
  | upstream => exact (Table.mem_select.mp h).1
  | downstream => exact (Table.mem_select.mp h).1

/-- The loop over the rows: the neighbours that are new are marked, in order. -/
theorem foldl_visitEdge (way : Way) (rows : List LineageEdge) (hrows : ∀ edge ∈ rows, edge ∈ edges)
    (st : Traversal) (nextIds : List String) (h : IsCollected lower edges st.edges) :
    ∃ st', rows.foldl (visitEdge lower way) (st, nextIds) =
        (st', nextIds ++ firstCopiesFrom id st.visited (rows.filterMap (neighbor way))) ∧
      st'.visited = st.visited ++ firstCopiesFrom id st.visited (rows.filterMap (neighbor way)) ∧
      (∀ dict, dict ∈ st'.edges ↔ dict ∈ st.edges ∨ ∃ edge ∈ rows, edge.toDict lower = dict) ∧
      IsCollected lower edges st'.edges := by
  induction rows generalizing st nextIds with
  | nil => exact ⟨st, by simp [firstCopiesFrom], by simp [firstCopiesFrom], by simp, h⟩
  | cons edge rows ih =>
    have hedge := hrows edge (List.mem_cons_self ..)
    have hrows' := fun e he => hrows e (List.mem_cons_of_mem edge he)
    have hmem := mem_addEdge hedge h
    -- the rest of the rows, after this one
    have hstep : ∀ visited nextIds', ∃ st',
        rows.foldl (visitEdge lower way) (⟨visited, addEdge lower st.edges edge⟩, nextIds') =
          (st', nextIds' ++ firstCopiesFrom id visited (rows.filterMap (neighbor way))) ∧
        st'.visited = visited ++ firstCopiesFrom id visited (rows.filterMap (neighbor way)) ∧
        (∀ dict, dict ∈ st'.edges ↔ dict ∈ st.edges ∨
          ∃ e ∈ edge :: rows, e.toDict lower = dict) ∧
        IsCollected lower edges st'.edges := by
      intro visited nextIds'
      obtain ⟨st', hfold, hvisited, hedges, hcollected⟩ := ih hrows'
        ⟨visited, addEdge lower st.edges edge⟩ nextIds' (h.addEdge hedge)
      refine ⟨st', hfold, hvisited, fun dict => ?_, hcollected⟩
      rw [hedges, hmem, or_assoc]
      simp
    rw [List.foldl_cons]
    cases hneighbor : neighbor way edge with
    | none =>
      simp only [visitEdge, hneighbor, List.filterMap_cons]
      exact hstep st.visited nextIds
    | some datasetId =>
      simp only [visitEdge, hneighbor, List.filterMap_cons, firstCopiesFrom, id]
      split
      · exact hstep st.visited nextIds
      · obtain ⟨st', hfold, hvisited, hrest⟩ := hstep (st.visited ++ [datasetId])
          (nextIds ++ [datasetId])
        refine ⟨st', ?_, ?_, hrest⟩
        · rw [hfold, List.append_assoc, List.singleton_append]
        · rw [hvisited, List.append_assoc, List.singleton_append]

theorem foldl_traverse {remainingDepth : Nat}
    (htraverse : ∀ st datasetId, IsCollected lower edges st.edges →
      Traversed lower edges way st
        (marksFrom (neighbours edges way) remainingDepth datasetId st.visited)
        ((datasetId, remainingDepth) ::
          marksFrom (neighbours edges way) remainingDepth datasetId st.visited)
        (traverse lower edges way remainingDepth st datasetId))
    (nextIds : List String) (st : Traversal) (h : IsCollected lower edges st.edges) :
    Traversed lower edges way st
      (marksOfAll (marksFrom (neighbours edges way) remainingDepth) nextIds st.visited)
      (nextIds.map (fun datasetId => (datasetId, remainingDepth)) ++
        marksOfAll (marksFrom (neighbours edges way) remainingDepth) nextIds st.visited)
      (nextIds.foldl (traverse lower edges way remainingDepth) st) := by
  induction nextIds generalizing st with
  | nil => exact ⟨by simp [marksOfAll], by simp [marksOfAll], h⟩
  | cons datasetId nextIds ih =>
    have hfirst := htraverse st datasetId h
    have hrest := ih (traverse lower edges way remainingDepth st datasetId) hfirst.collected
    rw [hfirst.visited] at hrest
    refine ⟨?_, fun dict => ?_, hrest.collected⟩
    · rw [List.foldl_cons, hrest.visited, hfirst.visited, marksOfAll, List.map_append,
        List.append_assoc]
    · rw [List.foldl_cons, hrest.mem_edges, hfirst.mem_edges, or_assoc]
      refine or_congr_right ?_
      rw [← exists_or]
      refine exists_congr fun e => ?_
      rw [← or_and_right, marksOfAll, List.map_cons, List.cons_append]
      refine and_congr_left fun _ => ?_
      simp only [List.mem_cons, List.mem_append]
      tauto

/-- A traversal marks the datasets of a walk and collects their edges. -/
theorem traverse_traversed (remainingDepth : Nat) (st : Traversal) (datasetId : String)
    (h : IsCollected lower edges st.edges) :
    Traversed lower edges way st
      (marksFrom (neighbours edges way) remainingDepth datasetId st.visited)
      ((datasetId, remainingDepth) ::
        marksFrom (neighbours edges way) remainingDepth datasetId st.visited)
      (traverse lower edges way remainingDepth st datasetId) := by
  induction remainingDepth generalizing st datasetId with
  | zero => exact ⟨by simp [marksFrom, traverse], by simp [marksFrom, traverse], h⟩
  | succ remainingDepth ih =>
    obtain ⟨st', hfold, hvisited, hedges, hcollected⟩ := foldl_visitEdge way
      (edgesAt edges way datasetId) (fun _ hedge => mem_of_mem_edgesAt hedge) st [] h
    have hrest := foldl_traverse ih
      (firstCopiesFrom id st.visited (neighbours edges way datasetId)) st' hcollected
    have htraverse : traverse lower edges way (remainingDepth + 1) st datasetId =
        (firstCopiesFrom id st.visited (neighbours edges way datasetId)).foldl
          (traverse lower edges way remainingDepth) st' := by
      rw [traverse]
      dsimp only
      rw [hfold, List.nil_append]
      rfl
    rw [htraverse]
    refine ⟨?_, fun dict => ?_, hrest.collected⟩
    · rw [hrest.visited, hvisited, marksFrom_succ, List.map_append, map_fst_mark,
        List.append_assoc]
      rfl
    · rw [hrest.mem_edges, hedges, or_assoc, marksFrom_succ, hvisited]
      refine or_congr_right ?_
      refine ⟨?_, ?_⟩
      · rintro (⟨edge, hedge, hdict⟩ | ⟨e, he, hrow⟩)
        · exact ⟨(datasetId, remainingDepth + 1), List.mem_cons_self .., Nat.succ_pos _, edge, hedge,
            hdict⟩
        · exact ⟨e, List.mem_cons_of_mem _ he, hrow⟩
      · rintro ⟨e, he, hpos, edge, hedge, hdict⟩
        rcases List.mem_cons.mp he with rfl | he
        · exact Or.inl ⟨edge, hedge, hdict⟩
        · exact Or.inr ⟨e, he, hpos, edge, hedge, hdict⟩

/-! ## The traversals of a direction -/

/-- What the traversals of a direction do. -/
structure Explored (lower : String → String) (edges : Table LineageEdge) (start : String)
    (depth : Nat) (ways : List Way) (st st' : Traversal) : Prop where
  seen : ∀ v ∈ st.visited, v ∈ st'.visited
  visited : ∀ v ∈ st'.visited, v ∈ st.visited ∨
    ∃ way ∈ ways, ∃ k ≤ depth, StepsTo (neighbours edges way) start k v
  nodup : st'.visited.Nodup
  mem_edges : ∀ dict, dict ∈ st'.edges ↔ dict ∈ st.edges ∨
    ∃ walk ∈ walks edges start depth ways st.visited,
      ∃ edge ∈ edgesAt edges walk.1 walk.2, edge.toDict lower = dict
  collected : IsCollected lower edges st'.edges
  walked : ∀ walk ∈ walks edges start depth ways st.visited, walk.1 ∈ ways ∧
    IsNear (neighbours edges walk.1) start depth walk.2 ∧ walk.2 ∈ st'.visited ∧
      ∀ v ∈ neighbours edges walk.1 walk.2, v ∈ st'.visited

theorem mem_walkedFrom {next : String → List String} {start : String} {depth : Nat}
    {seen : List String} {e : String × Nat} : e ∈ walkedFrom next depth start seen ↔
      e ∈ (start, depth) :: marksFrom next depth start seen ∧ 0 < e.2 := by
  rw [walkedFrom, List.mem_filter, decide_eq_true_eq]

theorem near_of_mem_walkedFrom {next : String → List String} {start : String} {depth : Nat}
    {seen : List String} {e : String × Nat} (h : e ∈ walkedFrom next depth start seen) :
    IsNear next start depth e.1 ∧
      (e.1 = start ∨ e.1 ∈ (marksFrom next depth start seen).map Prod.fst) := by
  obtain ⟨hmem, hpos⟩ := mem_walkedFrom.mp h
  rcases List.mem_cons.mp hmem with rfl | hmem
  · exact ⟨⟨0, hpos, .refl⟩, Or.inl rfl⟩
  · obtain ⟨j, -, hsum, hsteps⟩ := stepsTo_of_mem_marksFrom .refl hmem
    exact ⟨⟨j, by omega, hsteps⟩, Or.inr (List.mem_map_of_mem hmem)⟩

theorem foldl_explored (start : String) (depth : Nat) (ways : List Way) (st : Traversal)
    (hstart : start ∈ st.visited) (hnodup : st.visited.Nodup)
    (h : IsCollected lower edges st.edges) :
    Explored lower edges start depth ways st
      (ways.foldl (fun st way => traverse lower edges way depth st start) st) := by
  induction ways generalizing st with
  | nil =>
    exact ⟨fun _ hv => hv, fun _ hv => Or.inl hv, hnodup, by simp [walks], h, by simp [walks]⟩
  | cons way ways ih =>
    set next := neighbours edges way with hnext
    obtain ⟨hvisited, hedges, hcollected⟩ :=
      @traverse_traversed lower edges way depth st start h
    have hmarks := @marksFrom_nodup String _ next depth start st.visited
    have hfirst : ∀ v, v ∈ (traverse lower edges way depth st start).visited ↔
        v ∈ st.visited ∨ v ∈ (marksFrom next depth start st.visited).map Prod.fst := by
      intro v
      rw [hvisited, List.mem_append]
    have hrest := ih (traverse lower edges way depth st start) ((hfirst start).mpr (Or.inl hstart))
      ?_ hcollected
    · rw [List.foldl_cons]
      refine ⟨fun v hv => hrest.seen v ((hfirst v).mpr (Or.inl hv)), fun v hv => ?_, hrest.nodup,
        fun dict => ?_, hrest.collected, fun walk hwalk => ?_⟩
      · rcases hrest.visited v hv with hv | ⟨way', hway', hsteps⟩
        · refine ((hfirst v).mp hv).imp_right fun hmark => ?_
          obtain ⟨e, he, rfl⟩ := List.mem_map.mp hmark
          obtain ⟨j, -, hsum, hsteps⟩ := stepsTo_of_mem_marksFrom .refl he
          exact ⟨way, List.mem_cons_self .., j, by omega, hsteps⟩
        · exact Or.inr ⟨way', List.mem_cons_of_mem _ hway', hsteps⟩
      · rw [hrest.mem_edges, hedges, or_assoc, hvisited, walks]
        refine or_congr_right ⟨?_, ?_⟩
        · rintro (⟨e, he, hpos, hrow⟩ | ⟨walk, hwalk, hrow⟩)
          · refine ⟨(way, e.1), List.mem_append_left _ (List.mem_map.mpr ⟨e, ?_, rfl⟩), hrow⟩
            exact mem_walkedFrom.mpr ⟨he, hpos⟩
          · exact ⟨walk, List.mem_append_right _ hwalk, hrow⟩
        · rintro ⟨walk, hwalk, hrow⟩
          rcases List.mem_append.mp hwalk with hwalk | hwalk
          · obtain ⟨e, he, rfl⟩ := List.mem_map.mp hwalk
            obtain ⟨hmem, hpos⟩ := mem_walkedFrom.mp he
            exact Or.inl ⟨e, hmem, hpos, hrow⟩
          · exact Or.inr ⟨walk, hwalk, hrow⟩
      · rw [walks] at hwalk
        rcases List.mem_append.mp hwalk with hwalk | hwalk
        · obtain ⟨e, he, rfl⟩ := List.mem_map.mp hwalk
          obtain ⟨hnear, hmark⟩ := near_of_mem_walkedFrom he
          refine ⟨List.mem_cons_self .., hnear, hrest.seen _ ((hfirst _).mpr ?_), fun v hv => ?_⟩
          · refine hmark.imp_left fun heq => ?_
            rw [heq]
            exact hstart
          · exact hrest.seen v ((hfirst v).mpr
              (List.mem_append.mp (closed_of_mem_walkedFrom he v hv)))
        · rw [← hvisited] at hwalk
          obtain ⟨hway, hwalked⟩ := hrest.walked walk hwalk
          exact ⟨List.mem_cons_of_mem _ hway, hwalked⟩
    · rw [hvisited, List.nodup_append]
      refine ⟨hnodup, hmarks.1, fun x hx y hy hxy => ?_⟩
      obtain ⟨e, he, rfl⟩ := List.mem_map.mp hy
      exact hmarks.2 e he (hxy ▸ hx)

/-! ## The graph -/

theorem edgesAt_unique {datasetId datasetId' : String} {edge : LineageEdge}
    (h : edge ∈ edgesAt edges way datasetId) (h' : edge ∈ edgesAt edges way datasetId') :
    datasetId = datasetId' := by
  cases way with
  | upstream =>
    have heq := of_decide_eq_true (Table.mem_select.mp h).2
    have heq' := of_decide_eq_true (Table.mem_select.mp h').2
    exact heq.symm.trans heq'
  | downstream =>
    have heq := of_decide_eq_true (Table.mem_select.mp h).2
    have heq' := of_decide_eq_true (Table.mem_select.mp h').2
    exact Option.some.inj (heq.symm.trans heq')

theorem eq_of_neighbor {way' : Way} (hway : way' ≠ way) {datasetId v : String} {edge : LineageEdge}
    (h : edge ∈ edgesAt edges way' datasetId) (hv : neighbor way edge = some v) : datasetId = v := by
  cases way with
  | upstream =>
    cases way' with
    | upstream => exact absurd rfl hway
    | downstream =>
      have heq := of_decide_eq_true (Table.mem_select.mp h).2
      rw [neighbor, Option.filter_eq_some_iff] at hv
      exact Option.some.inj (heq.symm.trans hv.1)
  | downstream =>
    cases way' with
    | upstream =>
      have heq := of_decide_eq_true (Table.mem_select.mp h).2
      rw [neighbor, Option.filter_eq_some_iff] at hv
      exact heq.symm.trans (Option.some.inj hv.1)
    | downstream => exact absurd rfl hway

/-- The graph is the neighbourhood if and only if the edges of all near datasets are covered. -/
theorem isNeighbourhood_iff (start : String) (direction : Direction) (depth : Nat) :
    IsNeighbourhood lower edges start direction depth
      (getLineageGraph lower edges start direction depth) ↔
      IsCovered edges start direction depth := by
  have hexplored : Explored lower edges start depth direction.ways ⟨[start], []⟩ _ :=
    foldl_explored start depth direction.ways ⟨[start], []⟩ (List.mem_singleton.mpr rfl)
      (List.nodup_singleton _) ⟨fun _ hdict => absurd hdict List.not_mem_nil, List.nodup_nil⟩
  have hperm := fun xs : List String => List.perm_insertionSort (fun x y => x ≤ y) xs
  constructor
  · intro h way hway v hnear edge hedge
    obtain hdict | ⟨walk, hwalk, edge', hedge', heq⟩ := (hexplored.mem_edges (edge.toDict lower)).mp
      ((h.mem_edges _).mpr ⟨way, hway, v, hnear, edge, hedge, rfl⟩)
    · cases hdict
    · have hid : (edge'.toDict lower).edgeId = (edge.toDict lower).edgeId := by rw [heq]
      rw [← edge_eq_of_edgeId_eq (mem_of_mem_edgesAt hedge') (mem_of_mem_edgesAt hedge) hid]
      exact ⟨walk, hwalk, hedge'⟩
  · intro h
    refine ⟨fun v => ?_, (hperm _).nodup_iff.mpr hexplored.nodup, fun dict => ?_,
      hexplored.collected.nodup⟩
    · refine (hperm _).mem_iff.trans ⟨fun hv => ?_, ?_⟩
      · rcases hexplored.visited v hv with hv | hv
        · obtain rfl := List.mem_singleton.mp hv
          cases direction <;> exact ⟨_, List.mem_cons_self .., 0, Nat.zero_le _, .refl⟩
        · exact hv
      · rintro ⟨way, hway, k, hk, hsteps⟩
        cases hsteps with
        | refl => exact hexplored.seen _ (List.mem_singleton.mpr rfl)
        | @step k u _ hsteps hv =>
          obtain ⟨edge, hedge, hneighbor⟩ := List.mem_filterMap.mp hv
          obtain ⟨walk, hwalk, hmem⟩ := h way hway u ⟨k, hk, hsteps⟩ edge hedge
          obtain ⟨-, -, hvisited, hclosed⟩ := hexplored.walked walk hwalk
          by_cases hsame : walk.1 = way
          · refine hclosed v (List.mem_filterMap.mpr ⟨edge, hmem, ?_⟩)
            rwa [hsame]
          · rwa [eq_of_neighbor hsame hmem hneighbor] at hvisited
    · refine (hexplored.mem_edges dict).trans ⟨?_, ?_⟩
      · rintro (hdict | ⟨walk, hwalk, hrow⟩)
        · cases hdict
        · obtain ⟨hway, hnear, -⟩ := hexplored.walked walk hwalk
          exact ⟨walk.1, hway, walk.2, hnear, hrow⟩
      · rintro ⟨way, hway, v, hnear, edge, hedge, hdict⟩
        obtain ⟨walk, hwalk, hmem⟩ := h way hway v hnear edge hedge
        exact Or.inr ⟨walk, hwalk, edge, hmem, hdict⟩

/-! ## One direction -/

theorem neighbours_eq_nil (datasetId : String) (h : ¬ edgesAt edges way datasetId ≠ []) :
    neighbours edges way datasetId = [] := by
  rw [neighbours, not_not.mp h, List.filterMap_nil]

theorem ways_direction : way.direction.ways = [way] := by cases way <;> rfl

theorem isMetInTime_iff {start : String} {depth : Nat} {barred : List String} :
    IsMetInTime edges way start depth barred ↔
      ∀ e ∈ firstCopiesFrom Prod.fst barred (wayEnds (neighbours edges way) depth start barred),
        ¬ IsLate (fun v => edgesAt edges way v ≠ []) start depth (neighbours edges way) e := by
  simp only [IsMetInTime, IsLate, not_and, not_not]

theorem isCovered_direction_iff (start : String) (depth : Nat) :
    IsCovered edges start way.direction depth ↔ IsMetInTime edges way start depth [start] := by
  rw [isMetInTime_iff, ← walkedFrom_iff neighbours_eq_nil, IsCovered, ways_direction]
  simp only [walks, List.append_nil, List.mem_singleton, forall_eq]
  refine forall_congr' fun v => forall_congr' fun _ => ⟨fun h hne => ?_, fun h edge hedge => ?_⟩
  · obtain ⟨edge, hedge⟩ := List.exists_mem_of_ne_nil _ hne
    obtain ⟨walk, hwalk, hmem⟩ := h edge hedge
    obtain ⟨e, he, rfl⟩ := List.mem_map.mp hwalk
    exact List.mem_map.mpr ⟨e, he, (edgesAt_unique hedge hmem).symm⟩
  · obtain ⟨e, he, rfl⟩ := List.mem_map.mp (h (List.ne_nil_of_mem hedge))
    exact ⟨(way, e.1), List.mem_map.mpr ⟨e, he, rfl⟩, hedge⟩

/-! ## Both directions -/

section Both

variable {start : String} {depth : Nat}

theorem mem_seen_iff (hup : IsMetInTime edges .upstream start depth [start]) (v : String) :
    v ∈ [start] ++ (marksFrom (neighbours edges .upstream) depth start [start]).map Prod.fst ↔
      IsUpstream edges start depth v := by
  rw [List.mem_append, List.mem_singleton]
  constructor
  · rintro (rfl | hv)
    · exact ⟨0, Nat.zero_le _, .refl⟩
    · obtain ⟨e, he, rfl⟩ := List.mem_map.mp hv
      obtain ⟨j, -, hsum, hsteps⟩ := stepsTo_of_mem_marksFrom .refl he
      exact ⟨j, by omega, hsteps⟩
  · rintro ⟨k, hk, hsteps⟩
    rw [isMetInTime_iff, ← noLate_iff neighbours_eq_nil fun v => Iff.rfl] at hup
    exact marked_of_noLate neighbours_eq_nil hup hsteps hk

theorem mem_neighbours_upstream {v : String} {edge : LineageEdge} (hv : v ≠ "")
    (h : edge ∈ edgesAt edges .downstream v) :
    v ∈ neighbours edges .upstream edge.toDatasetId := by
  obtain ⟨hmem, hfrom⟩ := Table.mem_select.mp h
  refine List.mem_filterMap.mpr ⟨edge, Table.mem_select.mpr ⟨hmem, decide_eq_true rfl⟩, ?_⟩
  rw [neighbor, Option.filter_eq_some_iff]
  exact ⟨of_decide_eq_true hfrom, decide_eq_true hv⟩

theorem mem_neighbours_downstream {v x : String} (h : x ∈ neighbours edges .downstream v) :
    ∃ edge ∈ edgesAt edges .downstream v, edge.toDatasetId = x ∧ x ≠ "" := by
  obtain ⟨edge, hedge, hneighbor⟩ := List.mem_filterMap.mp h
  rw [neighbor, Option.filter_eq_some_iff] at hneighbor
  exact ⟨edge, hedge, Option.some.inj hneighbor.1, of_decide_eq_true hneighbor.2⟩

theorem ne_empty_of_stepsTo {k : Nat} {v : String}
    (h : StepsTo (neighbours edges .downstream) start k v) (hne : v ≠ start) : v ≠ "" := by
  cases h with
  | refl => exact absurd rfl hne
  | step _ hv =>
    obtain ⟨-, -, -, hempty⟩ := mem_neighbours_downstream hv
    exact hempty

/-- In both directions, if the datasets upstream are met in time: the edges are covered if and only
if the datasets that are also upstream lead back upstream, and those that are not are met in
time. -/
theorem isCovered_both_iff (hup : IsMetInTime edges .upstream start depth [start])
    {upstream : List String} (hupstream : ∀ v, v ∈ upstream ↔ IsUpstream edges start depth v) :
    IsCovered edges start .both depth ↔
      (∀ v, v ≠ start → IsUpstream edges start depth v →
        IsNear (neighbours edges .downstream) start depth v →
        ∀ edge ∈ edgesAt edges .downstream v,
          IsNear (neighbours edges .upstream) start depth edge.toDatasetId) ∧
      IsMetInTime edges .downstream start depth upstream := by
  set seen := [start] ++ (marksFrom (neighbours edges .upstream) depth start [start]).map Prod.fst
    with hseen
  have hmem : ∀ v, v ∈ upstream ↔ v ∈ seen := fun v => (hupstream v).trans (mem_seen_iff hup v).symm
  have hstart : start ∈ seen := List.mem_append_left _ (List.mem_singleton.mpr rfl)
  obtain ⟨hnodup, hfresh⟩ := @marksFrom_nodup String _ (neighbours edges .downstream) depth start seen
  rw [isMetInTime_iff, ← noLate_iff neighbours_eq_nil hmem]
  have hwalks : ∀ walk, walk ∈ walks edges start depth Direction.both.ways [start] ↔
      (walk.1 = .upstream ∧ walk.2 ∈
        (walkedFrom (neighbours edges .upstream) depth start [start]).map Prod.fst) ∨
      (walk.1 = .downstream ∧ walk.2 ∈
        (walkedFrom (neighbours edges .downstream) depth start seen).map Prod.fst) := by
    intro walk
    simp only [Direction.ways, walks, List.append_nil, List.mem_append, List.mem_map, hseen]
    grind
  have hupwalked : ∀ v, IsNear (neighbours edges .upstream) start depth v →
      edgesAt edges .upstream v ≠ [] →
      v ∈ (walkedFrom (neighbours edges .upstream) depth start [start]).map Prod.fst := by
    rw [isMetInTime_iff] at hup
    exact (walkedFrom_iff neighbours_eq_nil).mpr hup
  constructor
  · intro h
    refine ⟨fun v hne hv hnear edge hedge => ?_, fun e he hlate => ?_⟩
    · obtain ⟨walk, hwalk, hcovered⟩ := h .downstream (by simp [Direction.ways]) v hnear edge hedge
      rcases (hwalks walk).mp hwalk with ⟨hway, hwalked⟩ | ⟨hway, hwalked⟩
      · rw [hway] at hcovered
        obtain ⟨e, he, heq⟩ := List.mem_map.mp hwalked
        rw [of_decide_eq_true (Table.mem_select.mp hcovered).2, ← heq]
        exact (near_of_mem_walkedFrom he).1
      · rw [hway] at hcovered
        obtain ⟨e, he, heq⟩ := List.mem_map.mp hwalked
        rw [← edgesAt_unique hedge hcovered] at heq
        rcases (near_of_mem_walkedFrom he).2 with hfirst | hmark
        · exact absurd (heq.symm.trans hfirst) hne
        · obtain ⟨e', he', heq'⟩ := List.mem_map.mp hmark
          refine absurd ((hmem v).mp ((hupstream v).mpr hv)) ?_
          rw [← heq, ← heq']
          exact hfresh e' he'
    · obtain ⟨hzero, hnear, hlive⟩ := hlate
      obtain ⟨edge, hedge⟩ := List.exists_mem_of_ne_nil _ hlive
      obtain ⟨walk, hwalk, hcovered⟩ :=
        h .downstream (by simp [Direction.ways]) e.1 hnear edge hedge
      have hnot := hfresh e he
      rcases (hwalks walk).mp hwalk with ⟨hway, hwalked⟩ | ⟨hway, hwalked⟩
      · -- then the dataset is upstream
        rw [hway] at hcovered
        obtain ⟨e', he', heq⟩ := List.mem_map.mp hwalked
        obtain ⟨k, hk, hsteps⟩ := (near_of_mem_walkedFrom he').1
        rw [heq, ← of_decide_eq_true (Table.mem_select.mp hcovered).2] at hsteps
        obtain ⟨j, -, -, hdown⟩ := stepsTo_of_mem_marksFrom .refl he
        have hne : e.1 ≠ start := fun heq => hnot (heq ▸ hstart)
        exact hnot ((hmem _).mp ((hupstream _).mpr ⟨k + 1, hk, .step hsteps
          (mem_neighbours_upstream (ne_empty_of_stepsTo hdown hne) hedge)⟩))
      · rw [hway] at hcovered
        obtain ⟨e', he', heq⟩ := List.mem_map.mp hwalked
        rw [← edgesAt_unique hedge hcovered] at heq
        obtain ⟨hmem', hpos⟩ := mem_walkedFrom.mp he'
        rcases List.mem_cons.mp hmem' with rfl | hmem'
        · exact hnot (heq ▸ hstart)
        · rw [List.inj_on_of_nodup_map hnodup hmem' he heq, hzero] at hpos
          exact absurd hpos (Nat.lt_irrefl 0)
  · rintro ⟨hback, hmarks⟩ way - v hnear edge hedge
    cases way with
    | upstream =>
      exact ⟨(.upstream, v), (hwalks _).mpr (Or.inl ⟨rfl, hupwalked v hnear
        (List.ne_nil_of_mem hedge)⟩), hedge⟩
    | downstream =>
      by_cases hv : v ≠ start ∧ v ∈ seen
      · have hnear' := hback v hv.1 ((hupstream v).mp ((hmem v).mpr hv.2)) hnear edge hedge
        have hedge' : edge ∈ edgesAt edges .upstream edge.toDatasetId :=
          Table.mem_select.mpr ⟨(Table.mem_select.mp hedge).1, decide_eq_true rfl⟩
        exact ⟨(.upstream, edge.toDatasetId), (hwalks _).mpr (Or.inl ⟨rfl, hupwalked _ hnear'
          (List.ne_nil_of_mem hedge')⟩), hedge'⟩
      · -- by the number of steps: a dataset that is not upstream is marked
        have hmarked : ∀ k v, StepsTo (neighbours edges .downstream) start k v → k ≤ depth →
            v = start ∨ v ∈ seen ∨
              v ∈ (marksFrom (neighbours edges .downstream) depth start seen).map Prod.fst := by
          intro k v hsteps
          induction hsteps with
          | refl => exact fun _ => Or.inl rfl
          | @step k u v hsteps hv ih =>
            intro hk
            obtain ⟨edge, hedge, hto, -⟩ := mem_neighbours_downstream hv
            have hnear : IsNear (neighbours edges .downstream) start depth u := ⟨k, by omega, hsteps⟩
            by_cases hu : u ≠ start ∧ u ∈ seen
            · have hnear' := hback u hu.1 ((hupstream u).mp ((hmem u).mpr hu.2)) hnear edge hedge
              obtain ⟨j, hj, hsteps'⟩ := hnear'
              rw [hto] at hsteps'
              exact Or.inr (Or.inl ((hmem v).mp ((hupstream v).mpr ⟨j, Nat.le_of_lt hj, hsteps'⟩)))
            · have hmark := ih (by omega)
              have hwalked := walked_of_marked hmarks hnear (List.ne_nil_of_mem hedge)
                (by tauto)
              obtain ⟨e, he, rfl⟩ := List.mem_map.mp hwalked
              exact Or.inr (List.mem_append.mp (closed_of_mem_walkedFrom he v hv))
        obtain ⟨k, hk, hsteps⟩ := hnear
        have hmark := hmarked k v hsteps (Nat.le_of_lt hk)
        have hwalked := walked_of_marked hmarks ⟨k, hk, hsteps⟩ (List.ne_nil_of_mem hedge)
          (by tauto)
        exact ⟨(.downstream, v), (hwalks _).mpr (Or.inr ⟨rfl, hwalked⟩), hedge⟩

end Both

/-- The graph is the neighbourhood: in one direction, if and only if no dataset with edges is met
late; in both, where the datasets upstream are met in time, if and only if the edges of a dataset that
is also upstream lead to datasets near upstream, and those that are not are met in time downstream.
What is left, datasets upstream that are met late, is told only by what the traversal goes on from. -/
theorem lineage_graph_iff (lower : String → String) (edges : Table LineageEdge) (start : String)
    (depth : Nat) :
    (∀ way : Way, IsNeighbourhood lower edges start way.direction depth
        (getLineageGraph lower edges start way.direction depth) ↔
      IsMetInTime edges way start depth [start]) ∧
    (IsMetInTime edges .upstream start depth [start] → ∀ upstream : List String,
      (∀ v, v ∈ upstream ↔ IsUpstream edges start depth v) →
      (IsNeighbourhood lower edges start .both depth
          (getLineageGraph lower edges start .both depth) ↔
        (∀ v, v ≠ start → IsUpstream edges start depth v →
          IsNear (neighbours edges .downstream) start depth v →
          ∀ edge ∈ edgesAt edges .downstream v,
            IsNear (neighbours edges .upstream) start depth edge.toDatasetId) ∧
        IsMetInTime edges .downstream start depth upstream)) ∧
    (IsNeighbourhood lower edges start .both depth
        (getLineageGraph lower edges start .both depth) ↔
      IsCovered edges start .both depth) := by
  refine ⟨fun way => ?_, fun hup upstream hupstream => ?_, isNeighbourhood_iff start .both depth⟩
  · rw [isNeighbourhood_iff, isCovered_direction_iff]
  · rw [isNeighbourhood_iff, isCovered_both_iff hup hupstream]

def mergedEdge (edgeId source target : String) : LineageEdge :=
  ⟨edgeId, some source, target, "merged", none, none, .null, none⟩

/-- Two datasets behind the start `s`, with `c` behind both, and the start behind `c`. -/
def sharedEdges : Table LineageEdge :=
  ⟨[mergedEdge "1" "a" "s", mergedEdge "2" "b" "s", mergedEdge "3" "c" "a", mergedEdge "4" "c" "b",
    mergedEdge "5" "s" "c"], by decide⟩

theorem lineage_graph_shared : IsNeighbourhood id sharedEdges "s" .upstream 3
    (getLineageGraph id sharedEdges "s" .upstream 3) := by
  refine ((lineage_graph_iff id sharedEdges "s" 3).1 .upstream).mpr fun e he hzero => ?_
  have hends : firstCopiesFrom Prod.fst ["s"]
      (wayEnds (neighbours sharedEdges .upstream) 3 "s" ["s"]) =
        [("a", 2), ("b", 2), ("c", 1)] := by decide
  rw [hends] at he
  have hpositive : ∀ e ∈ [("a", 2), ("b", 2), ("c", 1)], e.2 ≠ 0 := by decide
  exact absurd hzero (hpositive e he)

/-- A dataset `e` that is two steps from `s`, and three by the way that comes first. -/
def detourEdges : Table LineageEdge :=
  ⟨[mergedEdge "1" "s" "a", mergedEdge "2" "a" "c", mergedEdge "3" "c" "e", mergedEdge "4" "s" "b",
    mergedEdge "5" "b" "e", mergedEdge "6" "e" "f"], by decide⟩

/-- The dataset behind `e` is three steps from `s`, and it is missing. -/
theorem lineage_graph_detour : ¬ IsNeighbourhood id detourEdges "s" .downstream 3
    (getLineageGraph id detourEdges "s" .downstream 3) := by
  intro h
  have hsteps : StepsTo (neighbours detourEdges .downstream) "s" 3 "f" :=
    .step (.step (.step .refl (show "b" ∈ _ by decide)) (show "e" ∈ _ by decide)) (by decide)
  have hmem := (h.mem_nodes "f").mpr ⟨.downstream, List.mem_cons_self .., 3, le_rfl, hsteps⟩
  exact absurd hmem (by decide)

end Lineage
