import TrainFactory.Lib.Text
import TrainFactory.Lib.PosixPath
import TrainFactory.Outbound.Transports

/-!
# The base of an inference service

`canonical_model_endpoint` brings an endpoint to the form in which two of them are compared, and
`_to_external_endpoint` gives the address of a container outside its network.
-/

namespace Inference

open Lib

structure HttpxUrl where
  /-- `str(url)`. -/
  text : String
  scheme : String
  host : String
  /-- `None` for the default port of the scheme. -/
  port : Option Nat
  /-- Without dot segments, and decoded. -/
  path : String
deriving DecidableEq

/-- The libraries, and the address of the host. -/
structure Platform where
  std : Outbound.Stdlib
  /-- `httpx.URL(text)`, or `InvalidURL`. -/
  url : String → Option HttpxUrl
  /-- `url.copy_with(host=host, path=path)`, or `InvalidURL`. -/
  copyWith : HttpxUrl → String → String → Option HttpxUrl
  /-- `_get_host_ip()`. -/
  hostIp : String

/-- `HTTPException` with its status and detail, or an `httpx.InvalidURL` that nothing catches. -/
inductive InferenceError where
  | http (statusCode : Nat) (detail : String)
  | invalidUrl
deriving DecidableEq

variable (platform : Platform)

/-! ## Normalization -/

def suffixToRemove : List String :=
  ["/embeddings", "/chat/completions", "/completions", "/models", "/rerank", "/v1/embeddings",
    "/v1/chat/completions", "/v1/completions", "/v1/models", "/v1/rerank"]

def removeSuffix (path : String) : String :=
  match suffixToRemove.find? (endsWith path) with
  | none => path
  | some suffix => dropEnd path suffix.toList.length

def openaiCompatible : List String := ["openai", "deepseek", "zhipu", "qwen", "moonshot", "custom"]

def urlunparse (scheme netloc path : String) : String :=
  let path := if path ≠ "" ∧ startsWith path "/" = false then "/" ++ path else path
  let url := "//" ++ netloc ++ path
  if scheme = "" then url else scheme ++ ":" ++ url

/-- `normalize_api_endpoint_url`; `none` where it raises `ValueError`. -/
def normalizeApiEndpointUrl (endpoint provider : String) : Option String :=
  let trimmed := strip endpoint
  if trimmed = "" then none
  else
    let trimmed :=
      if Outbound.hasScheme trimmed.toList then trimmed
      else if startsWith trimmed "localhost" || startsWith trimmed "127.0.0.1" then
        "http://" ++ trimmed
      else "https://" ++ trimmed
    match urlparse platform.std.rejectsNetloc trimmed with
    | none => none
    | some parsed =>
      if parsed.netloc = "" then none
      else
        let path := removeSuffix (rstripChar parsed.path '/')
        let path :=
          if provider ∈ openaiCompatible ∧ endsWith path "/v1" = false then path ++ "/v1" else path
        some (urlunparse parsed.scheme parsed.netloc path)

/-- `HTTPException(status_code=400, detail="Invalid model API endpoint")`. -/
def invalidEndpoint : InferenceError := .http 400 "Invalid model API endpoint"

/-- A path with one slash before each segment and none at its end. -/
def normalizedPath (path : String) : String :=
  rstripChar (normPath ("/" ++ lstripChar path '/')) '/'

def canonicalModelEndpoint (endpoint provider : String) : Except InferenceError String :=
  if endpoint = "" then .ok ""
  else
    match (normalizeApiEndpointUrl platform endpoint provider).bind platform.url with
    | none => .error invalidEndpoint
    | some parsed =>
      let path := normalizedPath parsed.path
      let path := if endsWith path "/v1" then dropEnd path 3 else path
      match platform.copyWith parsed (rstripChar parsed.host '.') path with
      | none => .error .invalidUrl
      | some url => .ok url.text

/-- `httpx.URL(text)`. -/
def httpxUrl (text : String) : Except InferenceError HttpxUrl :=
  match platform.url text with
  | none => .error .invalidUrl
  | some url => .ok url

/-! ## Addresses outside the network of the containers -/

def isConvertible (host : String) : Bool :=
  host ∈ ["xinference", "localhost", "127.0.0.1", "172.17.0.1"] || startsWith host "xf-" ||
    startsWith host "vllm-" || startsWith host "sglang-"

/-- `re.search(r':(\d+)$', text)`, and its group. -/
def trailingPort (text : String) : Option String :=
  let line := match text.toList.reverse with
    | '\n' :: cs => cs.reverse
    | _ => text.toList
  let digits := afterLast ':' line
  if ':' ∈ line ∧ digits ≠ [] ∧ digits.all (fun c => (decimalDigit c).isSome) then
    some (String.ofList digits)
  else none

def toExternalEndpoint (endpoint : String) : String :=
  if endpoint = "" then endpoint
  else if containsText "xinference:" endpoint then
    replaceText endpoint "xinference" platform.hostIp
  else if containsText "localhost" endpoint then replaceText endpoint "localhost" platform.hostIp
  else if containsText "127.0.0.1" endpoint then replaceText endpoint "127.0.0.1" platform.hostIp
  else if containsText "172.17.0.1" endpoint then replaceText endpoint "172.17.0.1" platform.hostIp
  else if startsWith endpoint "http://xf-" || startsWith endpoint "http://vllm-" ||
      startsWith endpoint "http://sglang-" then
    match trailingPort endpoint with
    | some port => "http://" ++ platform.hostIp ++ ":" ++ port
    | none => endpoint
  else endpoint

example : trailingPort "http://vllm-7:18124" = some "18124" := by decide
example : removeSuffix "/v1/chat/completions" = "/v1" := by decide

end Inference
