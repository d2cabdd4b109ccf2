import TrainFactory.Lib.Url
import TrainFactory.Lib.Json
import TrainFactory.Lib.Text
import Mathlib.Algebra.Ring.Nat
import Mathlib.Data.List.Basic

/-!
# IP addresses

The classes of addresses of the standard library, and `_check_ip_address`, which decides from them
where a user may connect to.
-/

namespace Outbound

/-! ## Addresses and networks -/

abbrev IPv4 := BitVec 32

/-- `IPv6Address`, without its scope. -/
abbrev IPv6 := BitVec 128

inductive IpAddress where
  | v4 (address : IPv4)
  | v6 (address : IPv6) (scope : Option String)
deriving DecidableEq

def isIn {w : Nat} (address : BitVec w) (network : BitVec w × Nat) : Bool :=
  address.toNat / 2 ^ (w - network.2) = network.1.toNat / 2 ^ (w - network.2)

def isInAny {w : Nat} (address : BitVec w) (networks : List (BitVec w × Nat)) : Bool :=
  networks.any (isIn address)

def quad (a b c d : Nat) : IPv4 := BitVec.ofNat 32 (((a * 256 + b) * 256 + c) * 256 + d)

def groups (gs : List Nat) : IPv6 :=
  BitVec.ofNat 128 ((gs.foldl (fun n g => n * 65536 + g) 0) * 2 ^ (16 * (8 - gs.length)))

/-! ## Classes of IPv4 addresses -/

namespace IPv4

def isLoopback (a : IPv4) : Bool := isIn a (quad 127 0 0 0, 8)

def isLinkLocal (a : IPv4) : Bool := isIn a (quad 169 254 0 0, 16)

def isMulticast (a : IPv4) : Bool := isIn a (quad 224 0 0 0, 4)

def isUnspecified (a : IPv4) : Bool := a = quad 0 0 0 0

def isReserved (a : IPv4) : Bool := isIn a (quad 240 0 0 0, 4)

def privateNetworks : List (IPv4 × Nat) :=
  [(quad 0 0 0 0, 8), (quad 10 0 0 0, 8), (quad 127 0 0 0, 8), (quad 169 254 0 0, 16),
    (quad 172 16 0 0, 12), (quad 192 0 0 0, 24), (quad 192 0 0 170, 31), (quad 192 0 2 0, 24),
    (quad 192 168 0 0, 16), (quad 198 18 0 0, 15), (quad 198 51 100 0, 24), (quad 203 0 113 0, 24),
    (quad 240 0 0 0, 4), (quad 255 255 255 255, 32)]

def privateExceptions : List (IPv4 × Nat) := [(quad 192 0 0 9, 32), (quad 192 0 0 10, 32)]

def isPrivate (a : IPv4) : Bool := isInAny a privateNetworks && !isInAny a privateExceptions

/-- The shared address space between a provider and its customers. -/
def isCgnat (a : IPv4) : Bool := isIn a (quad 100 64 0 0, 10)

end IPv4

/-! ## Classes of IPv6 addresses -/

namespace IPv6

def ipv4Mapped (a : IPv6) : Option IPv4 :=
  if a.toNat / 2 ^ 32 = 0xFFFF then some (BitVec.ofNat 32 a.toNat) else none

def isLoopback (a : IPv6) : Bool := a = BitVec.ofNat 128 1

def isLinkLocal (a : IPv6) : Bool := isIn a (groups [0xfe80], 10)

def isMulticast (a : IPv6) : Bool := isIn a (groups [0xff00], 8)

def isUnspecified (a : IPv6) : Bool := a = BitVec.ofNat 128 0

def reservedNetworks : List (IPv6 × Nat) :=
  [(groups [0], 8), (groups [0x100], 8), (groups [0x200], 7), (groups [0x400], 6),
    (groups [0x800], 5), (groups [0x1000], 4), (groups [0x4000], 3), (groups [0x6000], 3),
    (groups [0x8000], 3), (groups [0xa000], 3), (groups [0xc000], 3), (groups [0xe000], 4),
    (groups [0xf000], 5), (groups [0xf800], 6), (groups [0xfe00], 9)]

def isReserved (a : IPv6) : Bool := isInAny a reservedNetworks

def privateNetworks : List (IPv6 × Nat) :=
  [(BitVec.ofNat 128 1, 128), (groups [0], 128), (groups [0, 0, 0, 0, 0, 0xffff], 96),
    (groups [0x64, 0xff9b, 1], 48), (groups [0x100], 64), (groups [0x2001], 23),
    (groups [0x2001, 0xdb8], 32), (groups [0x2002], 16), (groups [0xfc00], 7), (groups [0xfe80], 10)]

def privateExceptions : List (IPv6 × Nat) :=
  [(groups [0x2001, 1, 0, 0, 0, 0, 0, 1], 128), (groups [0x2001, 1, 0, 0, 0, 0, 0, 2], 128),
    (groups [0x2001, 3], 32), (groups [0x2001, 4, 0x112], 48), (groups [0x2001, 0x20], 28),
    (groups [0x2001, 0x30], 28)]

def isPrivate (a : IPv6) : Bool := isInAny a privateNetworks && !isInAny a privateExceptions

def isNat64 (a : IPv6) : Bool := isIn a (groups [0x64, 0xff9b], 96)

end IPv6

/-! ## The check -/

namespace IpAddress

def unmapped : IpAddress → IpAddress
  | .v4 a => .v4 a
  | .v6 a scope =>
    match a.ipv4Mapped with
    | some mapped => .v4 mapped
    | none => .v6 a scope

def isSensitive : IpAddress → Bool
  | .v4 a => a.isLoopback || a.isLinkLocal || a.isMulticast || a.isUnspecified || a.isReserved
  | .v6 a _ => a.isLoopback || a.isLinkLocal || a.isMulticast || a.isUnspecified || a.isReserved

def isNat64 : IpAddress → Bool
  | .v4 _ => false
  | .v6 a _ => a.isNat64

def isPrivate : IpAddress → Bool
  | .v4 a => a.isPrivate
  | .v6 a _ => a.isPrivate

def isCgnat : IpAddress → Bool
  | .v4 a => a.isCgnat
  | .v6 _ _ => false

end IpAddress

/-- `SSRFError`, with its status code; or a `ValueError` that nothing catches. -/
inductive OutboundError where
  | ssrf (detail : String) (statusCode : Nat)
  | valueError
deriving DecidableEq

structure Allowance where
  allowedPrivateHosts : List String
  allowedDestinations : List (String × Nat)
  allowPrivateAll : Bool

def sensitiveAddress (hostname : String) : OutboundError :=
  .ssrf ("禁止访问敏感地址: " ++ hostname) 403

def privateAddress : OutboundError :=
  .ssrf
    "私网 endpoint 未在允许列表，请先创建部署或配置 DISCOVER_MODELS_ALLOWED_PRIVATE_HOSTS"
    403

def checkIpAddress (ipText : IpAddress → String) (ip : IpAddress) (hostname : String) (port : Nat)
    (allowance : Allowance) : Except OutboundError Unit :=
  let ip := ip.unmapped
  if ip.isNat64 then .error (sensitiveAddress hostname)
  else if ip.isSensitive then .error (sensitiveAddress hostname)
  else if allowance.allowPrivateAll ∧ ip.isPrivate then .ok ()
  else if (ip.isPrivate ∨ ip.isCgnat) ∧ hostname ∉ allowance.allowedPrivateHosts ∧
      ipText ip ∉ allowance.allowedPrivateHosts ∧
      (hostname, port) ∉ allowance.allowedDestinations then
    .error privateAddress
  else .ok ()

example : (quad 192 168 1 7).isPrivate = true := by decide
example : (groups [0x2001, 0xdb8, 1]).isPrivate = true := by decide

end Outbound

/-!
## One resolution of an outbound URL

`resolve_outbound_url` normalizes a URL, resolves its host once, checks every address and keeps the
first.
-/

namespace Outbound

open Lib

/-- What the resolution depends on besides its arguments. -/
structure Stdlib where
  /-- The network locations that `urlsplit` rejects for what they hold between or beside brackets. -/
  rejectsNetloc : List Char → Bool
  /-- `str.lower`. -/
  lower : String → String
  /-- `hostname.encode("idna").decode("ascii")`, or `UnicodeError`. -/
  idna : String → Option String
  /-- `ipaddress.ip_address`, or `ValueError`. -/
  ipAddress : String → Option IpAddress
  /-- `str` of an address. -/
  ipText : IpAddress → String

variable (std : Stdlib)

def defaultPort (scheme : String) : Nat := if scheme = "https" then 443 else 80

/-- `port or default`: a port of zero counts as none. -/
def portOr (port : Option Nat) (scheme : String) : Nat :=
  match port with
  | some (n + 1) => n + 1
  | _ => defaultPort scheme

/-- The text has `"://"` in it. -/
def hasScheme : List Char → Bool
  | ':' :: '/' :: '/' :: _ => true
  | _ :: text => hasScheme text
  | [] => false

/-- `http://` before a URL without a scheme. -/
def withScheme (candidate : String) : String :=
  if hasScheme candidate.toList then candidate else "http://" ++ candidate

/-- `str.rstrip("/")`. -/
def rstripSlash (text : String) : String := String.ofList (text.toList.rdropWhile (· = '/'))

/-- What `_normalize_url` returns. -/
structure Normalized where
  url : String
  scheme : String
  hostname : String
  port : Nat
deriving DecidableEq

def normalizeUrl (url : String) : Except OutboundError Normalized :=
  let candidate := strip url
  if candidate = "" then .error (.ssrf "Endpoint 不能为空" 400)
  else
    let candidate := withScheme candidate
    match urlparse std.rejectsNetloc candidate with
    | none => .error .valueError
    | some parsed =>
      if parsed.scheme ≠ "http" ∧ parsed.scheme ≠ "https" then
        .error (.ssrf "Endpoint 仅支持 http/https" 400)
      else
        match parsed.hostname std.lower with
        | none => .error (.ssrf "Endpoint 缺少主机名" 400)
        | some hostname =>
          if truthy parsed.username ∨ truthy parsed.password then
            .error (.ssrf "Endpoint 不支持账号信息" 400)
          else if parsed.query ≠ "" ∨ parsed.fragment ≠ "" then
            .error (.ssrf "Endpoint 不支持 query/fragment" 400)
          else
            match parsed.port with
            | .error _ => .error (.ssrf "Endpoint 端口无效" 400)
            | .ok port =>
              match std.idna hostname with
              | none => .error (.ssrf "Endpoint 主机名无效" 400)
              | some ascii =>
                .ok ⟨rstripSlash candidate, parsed.scheme, std.lower ascii,
                  portOr port parsed.scheme⟩

abbrev Answer := Option (List String)

def checkAnswer (hostname : String) (port : Nat) (allowance : Allowance) :
    List String → List String → Except OutboundError (List String)
  | [], addresses => .ok addresses
  | text :: texts, addresses =>
    match std.ipAddress text with
    | none => .error .valueError
    | some ip =>
      match checkIpAddress std.ipText ip hostname port allowance with
      | .error e => .error e
      | .ok _ =>
        let normalized := std.ipText ip
        checkAnswer hostname port allowance texts
          (if normalized ∈ addresses then addresses else addresses ++ [normalized])

/-- `_resolve_addresses`; `answer` is what `getaddrinfo` answers this time. -/
def resolveAddresses (answer : Answer) (hostname : String) (port : Nat) (allowance : Allowance) :
    Except OutboundError (List String) :=
  match std.ipAddress hostname with
  | some ip =>
    match checkIpAddress std.ipText ip hostname port allowance with
    | .error e => .error e
    | .ok _ => .ok [std.ipText ip]
  | none =>
    match answer with
    | none => .ok []
    | some texts => checkAnswer std hostname port allowance texts []

structure ResolvedOutboundURL where
  url : String
  scheme : String
  hostname : String
  port : Nat
  ipAddress : String
deriving DecidableEq

def ResolvedOutboundURL.hostHeader (target : ResolvedOutboundURL) : String :=
  let host := if ':' ∈ target.hostname.toList then "[" ++ target.hostname ++ "]" else target.hostname
  if target.port = defaultPort target.scheme then host else host ++ ":" ++ toString target.port

/-- `resolve_outbound_url`, with `_require_resolved_addresses`; `answers` are the resolver's. -/
def resolveOutboundUrl (answers : String → Nat → Answer) (url : String) (allowance : Allowance) :
    Except OutboundError ResolvedOutboundURL :=
  match normalizeUrl std url with
  | .error e => .error e
  | .ok n =>
    if n.hostname = "localhost" ∨ n.hostname = "localhost.localdomain" then
      .error (.ssrf "禁止访问 localhost" 403)
    else
      match resolveAddresses std (answers n.hostname n.port) n.hostname n.port allowance with
      | .error e => .error e
      | .ok [] => .error (.ssrf ("Endpoint 主机名无法解析: " ++ n.hostname) 400)
      | .ok (address :: _) => .ok ⟨n.url, n.scheme, n.hostname, n.port, address⟩

end Outbound
