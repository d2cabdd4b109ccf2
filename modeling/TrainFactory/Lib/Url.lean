import TrainFactory.Lib.PosixPath

/-!
# Parsed URLs

`urlparse` and the parts of the network location: the user, the host name and the port.
-/

namespace Lib

/-- What `urlparse` tells of a URL. -/
structure ParsedUrl where
  scheme : String
  netloc : String
  path : String
  params : String
  query : String
  fragment : String
deriving DecidableEq

/-- What comes before the first character, and what comes after it; `str.partition`. -/
def partition (c : Char) (text : List Char) : List Char × List Char :=
  (text.takeWhile (· ≠ c), (text.dropWhile (· ≠ c)).drop 1)

/-- What comes after the last character, or all; the end of `str.rpartition`. -/
def afterLast (c : Char) (text : List Char) : List Char :=
  (text.reverse.takeWhile (· ≠ c)).reverse

def beforeLast (c : Char) (text : List Char) : List Char :=
  ((text.reverse.dropWhile (· ≠ c)).drop 1).reverse

/-- The schemes whose last path segment may have parameters. -/
def usesParams : List String :=
  ["", "ftp", "hdl", "prospero", "http", "imap", "https", "shttp", "rtsp", "rtsps", "rtspu", "sip",
    "sips", "mms", "sftp", "tel"]

def splitParams (path : List Char) : List Char × List Char :=
  let segment := afterLast '/' path
  let (segment', params) := partition ';' segment
  (path.take (path.length - segment.length) ++ segment', params)

/-- `urlparse(url)`; `none` where it raises `ValueError`, as `urlsplit` does. -/
def urlparse (rejects : List Char → Bool) (url : String) : Option ParsedUrl :=
  let stripped := (url.toList.dropWhile fun c => c.toNat ≤ 32).filter fun c =>
    c ≠ '\t' && c ≠ '\r' && c ≠ '\n'
  let (scheme, rest) := splitScheme stripped
  let (netloc, rest) := splitNetloc rest
  if ('[' ∈ netloc) ≠ (']' ∈ netloc) ∨ rejects netloc then none
  else
    let (rest, fragment) := partition '#' rest
    let (path, query) := partition '?' rest
    let (path, params) :=
      if String.ofList scheme ∈ usesParams then splitParams path else (path, [])
    some ⟨String.ofList scheme, String.ofList netloc, String.ofList path, String.ofList params,
      String.ofList query, String.ofList fragment⟩

namespace ParsedUrl

def hostInfo (url : ParsedUrl) : List Char × List Char :=
  let hostinfo := afterLast '@' url.netloc.toList
  if '[' ∈ hostinfo then
    let (hostname, rest) := partition ']' (partition '[' hostinfo).2
    (hostname, (partition ':' rest).2)
  else partition ':' hostinfo

def hostname (lower : String → String) (url : ParsedUrl) : Option String :=
  let hostname := url.hostInfo.1
  if hostname = [] then none
  else
    let name := hostname.takeWhile (· ≠ '%')
    some (lower (String.ofList name) ++ String.ofList (hostname.drop name.length))

def username (url : ParsedUrl) : Option String :=
  if '@' ∈ url.netloc.toList then
    some (String.ofList (partition ':' (beforeLast '@' url.netloc.toList)).1)
  else none

def password (url : ParsedUrl) : Option String :=
  let userinfo := beforeLast '@' url.netloc.toList
  if '@' ∈ url.netloc.toList ∧ ':' ∈ userinfo then some (String.ofList (partition ':' userinfo).2)
  else none

/-- The number that decimal digits write. -/
def ofDigits (digits : List Char) : Nat :=
  digits.foldl (fun n c => 10 * n + (c.toNat - '0'.toNat)) 0

/-- What `port` answers: there is none, there is one, or it raises `ValueError`. -/
def port (url : ParsedUrl) : Except Unit (Option Nat) :=
  let digits := url.hostInfo.2
  if digits = [] then .ok none
  else if digits.all Char.isDigit ∧ ofDigits digits ≤ 65535 then .ok (some (ofDigits digits))
  else .error ()

end ParsedUrl

example : urlparse (fun _ => false) "http://u:p@[::1]:80/a;x?q#f" =
    some ⟨"http", "u:p@[::1]:80", "/a", "x", "q", "f"⟩ := by decide

end Lib
