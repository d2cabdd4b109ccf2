import TrainFactory.Lib.Lines
import TrainFactory.Lib.PosixPath

/-!
# The paths of secrets in an environment file

`materialize_compose_secrets.py` writes the paths of the secret files into an environment file, and
`compose_manifest.py` reads them back. Each has its own rules for quotes and backslashes.
-/

namespace Compose

open Lib

abbrev Message := String

/-! ## Writing -/

def scopes : List String := ["verify", "ci"]

def pathVariables : List (String × String) :=
  [("MYSQL_ROOT_PASSWORD_SECRET_PATH", "mysql_root_password"),
    ("MYSQL_APP_PASSWORD_SECRET_PATH", "mysql_app_password"),
    ("MYSQL_URL_SECRET_PATH", "mysql_url"),
    ("JWT_SECRET_KEY_SECRET_PATH", "jwt_secret_key"),
    ("DEFAULT_ADMIN_PASSWORD_SECRET_PATH", "default_admin_password")]

def isRunId (runId : String) : Bool :=
  runId.toList.length = 32 && runId.toList.all fun c =>
    ('0' ≤ c && c ≤ '9') || ('a' ≤ c && c ≤ 'f')

def isForbidden (c : Char) : Bool := c = '\x00' || c = '\r' || c = '\n'

/-- `value.replace("'", "\\'")`, of the characters of the value. -/
def escapeQuotes (cs : List Char) : List Char :=
  cs.flatMap fun c => if c = '\'' then ['\\', '\''] else [c]

def dotenvLiteral (value : String) : Except Message String :=
  if value.toList.any isForbidden then .error "materialization path is invalid"
  else .ok (String.ofList ('\'' :: escapeQuotes value.toList ++ ['\'']))

def finalDirectory (workspace scope runId : String) : String :=
  joinPath (joinPath workspace ".runtime") (scope ++ "-" ++ runId)

/-- `str(final_directory / filename)`. -/
def secretPath (workspace scope runId filename : String) : String :=
  joinPath (finalDirectory workspace scope runId) filename

def settingLines : List String :=
  ["MYSQL_APP_USER=trainfactory_app", "DEFAULT_ADMIN_USERNAME=admin", "API_PORT=18000",
    "WEB_PORT=3000"]

def pathLine (workspace scope runId : String) (entry : String × String) : Except Message String :=
  (dotenvLiteral (secretPath workspace scope runId entry.2)).map fun literal =>
    entry.1 ++ "=" ++ literal

def environmentFile (workspace scope runId : String) : Except Message Bytes :=
  if scope ∈ scopes ∧ isRunId runId = true then
    (pathVariables.mapM (pathLine workspace scope runId)).map fun lines =>
      utf8 (lineFeedText (lines ++ settingLines))
  else .error "materialization request is invalid"

/-! ## Reading -/

def environmentInvalid : Message := "compose manifest environment is invalid"

def decodeBody : Nat → List Char → Option (List Char)
  | slashes, [] => if slashes % 2 = 1 then none else some (List.replicate slashes '\\')
  | slashes, c :: cs =>
    if c = '\\' then decodeBody (slashes + 1) cs
    else if c = '\'' then
      -- the last backslash of the run belongs to the quote
      if slashes % 2 = 0 then none
      else (decodeBody 0 cs).map fun rest => List.replicate (slashes - 1) '\\' ++ '\'' :: rest
    else (decodeBody 0 cs).map fun rest => List.replicate slashes '\\' ++ c :: rest

def quotedBody (value : List Char) : Option (List Char) :=
  if 2 ≤ value.length ∧ value.head? = some '\'' ∧ value.getLast? = some '\'' then
    some value.tail.dropLast
  else none

def decodeSingleQuotedPath (value : String) : Except Message String :=
  match (quotedBody value.toList).bind (decodeBody 0) with
  | none => .error environmentInvalid
  | some result =>
    if result = [] ∨ result.any isForbidden = true then .error environmentInvalid
    else .ok (String.ofList result)

/-- `re.fullmatch(r"[A-Z][A-Z0-9_]*", key, re.ASCII)`. -/
def isEnvironmentKey (key : String) : Bool :=
  match key.toList with
  | [] => false
  | c :: cs =>
    ('A' ≤ c && c ≤ 'Z') && cs.all fun c =>
      ('A' ≤ c && c ≤ 'Z') || ('0' ≤ c && c ≤ '9') || c = '_'

/-- `line.split("=", 1)`. -/
def splitEntry (line : String) : String × String :=
  (String.ofList (line.toList.takeWhile (· ≠ '=')),
    String.ofList ((line.toList.dropWhile (· ≠ '=')).drop 1))

def parseEntries : List (String × String) → List String → Except Message (List (String × String))
  | result, [] => .ok result
  | result, line :: lines =>
    let entry := splitEntry line
    if line = "" ∨ startsWith line "#" = true ∨ '=' ∉ line.toList then .error environmentInvalid
    else if isEnvironmentKey entry.1 = false ∨ entry.1 ∈ result.map Prod.fst then
      .error environmentInvalid
    else parseEntries (result ++ [entry]) lines

def parseClosedEnvironment (payload : Bytes) : Except Message (List (String × String)) :=
  match decodeUtf8 payload with
  | none => .error environmentInvalid
  | some text => parseEntries [] (splitLines text)

example : decodeSingleQuotedPath "'/o\\'b\\\\'" = .ok "/o'b\\\\" := by decide

end Compose
