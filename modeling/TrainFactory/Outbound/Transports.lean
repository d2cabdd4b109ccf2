import TrainFactory.Outbound.Addresses
import TrainFactory.Lib.Run

/-!
# Pinned transports

`outbound_endpoint_policy.py`: the policy of a user picks what a resolution may allow, and the
transports connect to the address of that resolution and to no other.
-/

namespace Outbound

open Lib

variable (std : Stdlib)

/-! ## The policy of a user -/

structure UserPolicy where
  allowedHosts : List String
  trustedDestinations : List (String × Nat)

def extractDestination (endpoint : String) : Option (String × Nat) :=
  let candidate := strip endpoint
  if candidate = "" then none
  else
    match urlparse std.rejectsNetloc (withScheme candidate) with
    | none => none
    | some parsed =>
      match (parsed.hostname std.lower).map std.lower with
      | none => none
      | some hostname =>
        match parsed.port with
        | .error _ => none
        | .ok port => if hostname = "" then none else some (hostname, portOr port parsed.scheme)

def UserPolicy.allowance (policy : UserPolicy) (url : String) : Allowance where
  allowedPrivateHosts := policy.allowedHosts
  allowedDestinations :=
    match extractDestination std url with
    | none => []
    | some destination =>
      if policy.trustedDestinations.contains destination then [destination] else []
  allowPrivateAll := false

def resolveUserOutboundUrl (answers : String → Nat → Answer) (policy : UserPolicy) (url : String) :
    Except OutboundError ResolvedOutboundURL :=
  resolveOutboundUrl std answers url (policy.allowance std url)

/-! ## Transports -/

/-- `_require_target_origin`: the scheme, host and port of the URL are those of the target. -/
def isTargetOrigin (url : String) (target : ResolvedOutboundURL) : Bool :=
  match urlparse std.rejectsNetloc url with
  | none => false
  | some parsed =>
    match std.idna ((parsed.hostname std.lower).getD ""), parsed.port with
    | some ascii, .ok port => parsed.scheme = target.scheme && std.lower ascii = target.hostname &&
        portOr port parsed.scheme = target.port
    | _, _ => false

def urlPort (url : String) : Nat :=
  match urlparse std.rejectsNetloc url with
  | none => 0
  | some parsed =>
    match parsed.port with
    | .ok (some port) => port
    | _ => defaultPort parsed.scheme

structure Connection where
  address : String
  port : Nat
  tls : Bool
  hostHeader : String
  /-- `server_hostname` of the TLS handshake. -/
  serverName : Option String
deriving DecidableEq

def ResolvedOutboundURL.serverName (target : ResolvedOutboundURL) : Option String :=
  if target.scheme = "https" then some target.hostname else none

/-- `PinnedHTTPAdapter`: `send`, and the connection it takes from the pool. -/
def pinnedSend (target : ResolvedOutboundURL) (url : String) : Option Connection :=
  if isTargetOrigin std url target then
    some ⟨target.ipAddress, target.port, target.scheme = "https", target.hostHeader,
      target.serverName⟩
  else none

/-- `PinnedAsyncHTTPTransport.handle_async_request`: the URL with its host replaced. -/
def handleAsyncRequest (target : ResolvedOutboundURL) (url : String) : Option Connection :=
  if isTargetOrigin std url target then
    some ⟨target.ipAddress, urlPort std url, target.scheme = "https", target.hostHeader,
      target.serverName⟩
  else none

/-! ## The system -/

structure Resolution where
  answers : String → Nat → Answer
  policy : UserPolicy
  url : String

def Resolution.target (r : Resolution) : Except OutboundError ResolvedOutboundURL :=
  resolveUserOutboundUrl std r.answers r.policy r.url

/-- The resolutions so far, the clients that live, and the connections that were opened, each with
the resolution of its request or client. -/
structure State where
  calls : Nat
  clients : List (Resolution × ResolvedOutboundURL)
  opened : List (Resolution × Connection)

def State.initial : State := ⟨0, [], []⟩

/-- What callers do. The URLs that the transports see are those that the HTTP library makes of the
given one, or takes from a redirect: any text. -/
inductive Action where
  | requestUserOutbound (policy : UserPolicy) (url : String) (sent : List String)
  | asyncRequestUserOutbound (policy : UserPolicy) (url : String) (sent : List String)
  | createPinnedAsyncClient (policy : UserPolicy) (url : String)
  | clientRequest (client : Nat) (sent : String)

def step (resolver : Nat → String → Nat → Answer) (s : State) : Action → State
  | .requestUserOutbound policy url sent =>
    let resolution : Resolution := ⟨resolver s.calls, policy, url⟩
    match resolution.target std with
    | .error _ => { s with calls := s.calls + 1 }
    | .ok target => { s with
        calls := s.calls + 1
        opened := s.opened ++ (sent.filterMap (pinnedSend std target)).map (resolution, ·) }
  | .asyncRequestUserOutbound policy url sent =>
    let resolution : Resolution := ⟨resolver s.calls, policy, url⟩
    match resolution.target std with
    | .error _ => { s with calls := s.calls + 1 }
    | .ok target => { s with
        calls := s.calls + 1
        opened := s.opened ++ (sent.filterMap (handleAsyncRequest std target)).map (resolution, ·) }
  | .createPinnedAsyncClient policy url =>
    let resolution : Resolution := ⟨resolver s.calls, policy, url⟩
    match resolution.target std with
    | .error _ => { s with calls := s.calls + 1 }
    | .ok target => { s with
        calls := s.calls + 1
        clients := s.clients ++ [(resolution, target)] }
  | .clientRequest client sent =>
    match s.clients[client]? with
    | none => s
    | some (resolution, target) =>
      match handleAsyncRequest std target sent with
      | none => s
      | some connection => { s with opened := s.opened ++ [(resolution, connection)] }

end Outbound
