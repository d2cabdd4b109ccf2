import TrainFactory.Lib.Json
import TrainFactory.Lib.FreshKeys
import TrainFactory.Lib.PosixPath
import TrainFactory.Lib.Text

/-!
# Public diagnostics

`utils/public_diagnostics`: payloads of public task APIs without paths and error texts.
-/

namespace Diagnostics

open Lib

/-- The functions of the standard library that keys and texts go through. -/
structure PublicStdlib where
  /-- `str.lower`. -/
  lower : String → String
  /-- `hashlib.sha256(text.encode("utf-8")).hexdigest()`. -/
  sha256 : String → String
  /-- `repr` of a text. -/
  repr : String → String
  lower_ascii : ∀ text, (∀ c ∈ text.toList, c.toNat < 128) →
    lower text = String.ofList (text.toList.map Char.toLower)
  /-- An ASCII character at the start stays there, as its lower case. -/
  lower_head : ∀ c cs, c.toNat < 128 →
    ∃ cs', (lower (String.ofList (c :: cs))).toList = c.toLower :: cs'

variable (py : PublicStdlib)

def publicTaskFailureMessage : String := "Task failed. Check server logs for details."

def isWindowsAbsolutePath : List Char → Bool
  | '\\' :: '\\' :: _ => true
  | drive :: ':' :: sep :: _ => drive.isAlpha && (sep = '\\' || sep = '/')
  | _ => false

def looksLikeLocalPath (value : String) : Bool :=
  let candidate := strip value
  if candidate = "" then false
  else isWindowsAbsolutePath candidate.toList || startsWith candidate "/" ||
    startsWith (py.lower candidate) "file://"

def publicSafeIdentifier (value : String) : String :=
  if looksLikeLocalPath py value then "local:sha256:" ++ py.sha256 value else value

def publicTaskErrorMessage : Json → Json
  | .null => .null
  | .str message => if strip message = "" then .null else .str publicTaskFailureMessage
  | _ => .str publicTaskFailureMessage

/-- `str(key).strip().lower()`. -/
def normalizedKey (key : String) : String := py.lower (strip key)

def isErrorKey (key : String) : Bool :=
  normalizedKey py key ∈ ["_error", "error", "errors", "error_message", "exception",
    "exception_message", "failure_reason", "stderr", "stdout", "traceback", "stack_trace"] ||
    endsWith (normalizedKey py key) "_error" || endsWith (normalizedKey py key) "_error_message"

def isWeakDiagnosticKey (key : String) : Bool :=
  normalizedKey py key ∈ ["reason", "detail", "message"]

def isPathKey (key : String) : Bool :=
  normalizedKey py key ∈ ["path", "file", "directory", "dir"] ||
    endsWith (normalizedKey py key) "_path" || endsWith (normalizedKey py key) "_file" ||
    endsWith (normalizedKey py key) "_directory" || endsWith (normalizedKey py key) "_dir"

/-- `str(value.get("status") or "").strip().lower()`; what is no text reads as none of the words it
is compared with. -/
def statusText : Option Json → String
  | some (.str status) => py.lower (strip status)
  | _ => ""

def isTrue : Option Json → Bool
  | some (.bool b) => b
  | _ => false

def failedContainer (kvs : List (String × Json)) : Bool :=
  statusText py (kvs.lookup "status") ∈ ["error", "failed", "failure", "skipped"] ||
    isTrue (kvs.lookup "skipped") || kvs.any fun kv => isErrorKey py kv.1

def redactedKey (key : String) : Nat → String
  | 0 => "redacted-key:sha256:" ++ py.sha256 (py.repr key)
  | suffix + 1 =>
    "redacted-key:sha256:" ++ py.sha256 (py.repr key) ++ ":" ++ intText (suffix + 1 : Nat)

def publicKey (sanitized : List String) (key : String) : String :=
  if publicSafeIdentifier py key ∈ sanitized then
    firstFree (redactedKey py key) sanitized sanitized.length 0
  else publicSafeIdentifier py key

/-- `isinstance(item, (dict, list))`. -/
def isContainer : Json → Bool
  | .arr _ => true
  | .obj _ => true
  | _ => false

def isErrorEntry (diagnostic failed : Bool) (key : String) : Bool :=
  isErrorKey py key || (diagnostic || failed) && isWeakDiagnosticKey py key

def childDiagnostic (diagnostic failed : Bool) (key : String) : Bool :=
  isErrorEntry py diagnostic failed key ||
    failed && decide (normalizedKey py key ∈ ["details", "diagnostic", "diagnostics"]) ||
    diagnostic && normalizedKey py key ≠ "status"

mutual

def sanitizePublicDiagnostics (diagnostic : Bool) : Json → Json
  | .obj kvs => .obj (sanitizeEntries diagnostic (failedContainer py kvs) [] kvs)
  | .arr xs => .arr (sanitizeItems diagnostic xs)
  | .str value =>
    if diagnostic && value ≠ "" then .str publicTaskFailureMessage
    else if looksLikeLocalPath py value then .null
    else .str value
  | value => value

def sanitizeItems (diagnostic : Bool) : List Json → List Json
  | [] => []
  | x :: xs => sanitizePublicDiagnostics diagnostic x :: sanitizeItems diagnostic xs

def sanitizeEntries (diagnostic failed : Bool) (sanitized : List String) :
    List (String × Json) → List (String × Json)
  | [] => []
  | (key, item) :: kvs =>
    (publicKey py sanitized key,
      if isPathKey py key then .null
      else if isErrorEntry py diagnostic failed key && !isContainer item then
        publicTaskErrorMessage item
      else sanitizePublicDiagnostics (childDiagnostic py diagnostic failed key) item) ::
    sanitizeEntries diagnostic failed (sanitized ++ [publicKey py sanitized key]) kvs

end

/-! ## What a payload reveals -/

/-- Whether texts below a key may differ: below an error key, unless a status key comes after it,
and at a path key. -/
def hiddenBelow (hidden : Bool) (key : String) : Bool :=
  isPathKey py key || normalizedKey py key ≠ "status" && (hidden || isErrorKey py key)

mutual

def DiffersHidden (hidden : Bool) : Json → Json → Prop
  | .obj kvs, w => ∃ kvs', w = .obj kvs' ∧ EntriesDifferHidden hidden kvs kvs'
  | .arr xs, w => ∃ ys, w = .arr ys ∧ ItemsDifferHidden hidden xs ys
  | .str s, w => w = .str s ∨ hidden = true ∧ ∃ t, w = .str t ∧ strip s ≠ "" ∧ strip t ≠ ""
  | v, w => w = v

def ItemsDifferHidden (hidden : Bool) : List Json → List Json → Prop
  | [], ys => ys = []
  | x :: xs, ys =>
    ∃ y ys', ys = y :: ys' ∧ DiffersHidden hidden x y ∧ ItemsDifferHidden hidden xs ys'

def EntriesDifferHidden (hidden : Bool) :
    List (String × Json) → List (String × Json) → Prop
  | [], kvs' => kvs' = []
  | (key, item) :: kvs, kvs' => ∃ item' rest, kvs' = (key, item') :: rest ∧
      DiffersHidden (hiddenBelow py hidden key) item item' ∧ EntriesDifferHidden hidden kvs rest

end

mutual

def HasNoPath : Json → Prop
  | .obj kvs => EntriesHaveNoPath kvs
  | .arr xs => ItemsHaveNoPath xs
  | .str s => looksLikeLocalPath py s = false
  | _ => True

def ItemsHaveNoPath : List Json → Prop
  | [] => True
  | x :: xs => HasNoPath x ∧ ItemsHaveNoPath xs

def EntriesHaveNoPath : List (String × Json) → Prop
  | [] => True
  | (key, item) :: kvs =>
    looksLikeLocalPath py key = false ∧ HasNoPath item ∧ EntriesHaveNoPath kvs

end

mutual

/-- The dictionaries of the payload, but for those at path keys, are dictionaries of the result with
as many entries. -/
def KeepsEntries : Json → Json → Prop
  | .obj kvs, w => ∃ kvs', w = .obj kvs' ∧ kvs'.length = kvs.length ∧
      (kvs'.map Prod.fst).Nodup ∧ EntriesKeepEntries kvs kvs'
  | .arr xs, w => ∃ ys, w = .arr ys ∧ ItemsKeepEntries xs ys
  | _, _ => True

def ItemsKeepEntries : List Json → List Json → Prop
  | [], ys => ys = []
  | x :: xs, ys => ∃ y ys', ys = y :: ys' ∧ KeepsEntries x y ∧ ItemsKeepEntries xs ys'

def EntriesKeepEntries : List (String × Json) → List (String × Json) → Prop
  | [], kvs' => kvs' = []
  | (key, item) :: kvs, kvs' => ∃ kv rest, kvs' = kv :: rest ∧
      (isPathKey py key = true ∧ kv.2 = .null ∨ KeepsEntries item kv.2) ∧
      EntriesKeepEntries kvs rest

end

end Diagnostics
