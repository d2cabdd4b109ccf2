import TrainFactory.Outbound.Transports

/-!
# Connections go where the resolution allows

Every connection is opened to an address of the one resolution that was made for its request or
client, and all addresses of that resolution were permitted. Between the check and the connection
nothing is resolved again.
-/

namespace Outbound

open Lib

variable {std : Stdlib}

/-! ## Permitted addresses -/

/-- The IPv4 address in the last bits of an IPv6 address that is IPv4-mapped, IPv4-compatible or under
the prefix of NAT64. -/
def IpAddress.embedded : IpAddress → Option IPv4
  | .v4 _ => none
  | .v6 a _ =>
    if a.toNat / 2 ^ 32 = 0xFFFF ∨ a.toNat / 2 ^ 32 = 0 ∨ a.isNat64 = true then
      some (BitVec.ofNat 32 a.toNat)
    else none

def Listed (std : Stdlib) (allowance : Allowance) (hostname : String) (port : Nat)
    (ip : IpAddress) : Prop :=
  hostname ∈ allowance.allowedPrivateHosts ∨ std.ipText ip ∈ allowance.allowedPrivateHosts ∨
    (hostname, port) ∈ allowance.allowedDestinations

/-- Where a connection may go: to no sensitive address, however it is embedded, and to a private or a
shared one only if it is listed. -/
structure Permitted (std : Stdlib) (allowance : Allowance) (hostname : String) (port : Nat)
    (ip : IpAddress) : Prop where
  notSensitive : ip.unmapped.isSensitive = false
  notEmbedded : ∀ v ∈ ip.embedded, (IpAddress.v4 v).isSensitive = false
  listed : ip.unmapped.isPrivate = true ∨ ip.unmapped.isCgnat = true →
    Listed std allowance hostname port ip.unmapped

theorem isReserved_of_lt {a : IPv6} (h : a.toNat < 2 ^ 120) : a.isReserved = true := by
  have hin : isIn a (groups [0], 8) = true := by
    simp only [isIn, decide_eq_true_eq]
    rw [Nat.div_eq_of_lt h]
    rfl
  simp only [IPv6.isReserved, isInAny, IPv6.reservedNetworks, List.any_cons, hin, Bool.true_or]

theorem isReserved_of_isNat64 {a : IPv6} (h : a.isNat64 = true) : a.isReserved = true := by
  simp only [IPv6.isNat64, isIn, decide_eq_true_eq] at h
  have hwellKnown : (groups [0x64, 0xff9b]).toNat = 0x64ff9b * 2 ^ 96 := by decide
  rw [hwellKnown] at h
  refine isReserved_of_lt ?_
  omega

theorem isSensitive_of_isReserved {a : IPv6} {scope : Option String} (h : a.isReserved = true) :
    (IpAddress.v6 a scope).isSensitive = true := by
  simp only [IpAddress.isSensitive, h, Bool.or_true]

theorem not_embedded_of_not_sensitive {ip : IpAddress} (h : ip.unmapped.isSensitive = false) :
    ∀ v ∈ ip.embedded, (IpAddress.v4 v).isSensitive = false := by
  intro v hv
  cases ip with
  | v4 a => simp [IpAddress.embedded] at hv
  | v6 a scope =>
    by_cases hmapped : a.toNat / 2 ^ 32 = 0xFFFF
    · have hunmapped : (IpAddress.v6 a scope).unmapped = .v4 (BitVec.ofNat 32 a.toNat) := by
        simp only [IpAddress.unmapped, IPv6.ipv4Mapped, if_pos hmapped]
      simp only [IpAddress.embedded, hmapped, true_or, if_true, Option.mem_some_iff] at hv
      rw [← hv, ← hunmapped]
      exact h
    · have hunmapped : (IpAddress.v6 a scope).unmapped = .v6 a scope := by
        simp only [IpAddress.unmapped, IPv6.ipv4Mapped, if_neg hmapped]
      rw [hunmapped] at h
      have hreserved : a.isReserved = true := by
        by_contra hnot
        simp only [IpAddress.embedded, hmapped, false_or] at hv
        split_ifs at hv with hkind
        · rcases hkind with hzero | hnat64
          · exact hnot (isReserved_of_lt (by omega))
          · exact hnot (isReserved_of_isNat64 hnat64)
        · exact absurd hv (by simp)
      rw [isSensitive_of_isReserved hreserved] at h
      exact absurd h (by simp)

theorem checkIpAddress_ok_iff {ip : IpAddress} {hostname : String} {port : Nat}
    {allowance : Allowance} (hall : allowance.allowPrivateAll = false) :
    checkIpAddress std.ipText ip hostname port allowance = .ok () ↔
      Permitted std allowance hostname port ip := by
  have hnat64 : ip.unmapped.isSensitive = false → ip.unmapped.isNat64 = false := by
    intro h
    cases hunmapped : ip.unmapped with
    | v4 a => rfl
    | v6 a scope =>
      rw [hunmapped] at h
      by_contra hnot
      have hreserved : a.isReserved = true :=
        isReserved_of_isNat64 ((Bool.not_eq_false _).mp hnot)
      rw [isSensitive_of_isReserved hreserved] at h
      exact absurd h (by simp)
  unfold checkIpAddress
  dsimp only
  constructor
  · intro h
    by_cases hsensitive : ip.unmapped.isSensitive = true
    · split_ifs at h
    · have hsensitive : ip.unmapped.isSensitive = false := by simpa using hsensitive
      refine ⟨hsensitive, not_embedded_of_not_sensitive hsensitive, fun hprivate => ?_⟩
      by_contra hunlisted
      simp only [Listed, not_or] at hunlisted
      simp [hnat64 hsensitive, hsensitive, hall, hprivate, hunlisted] at h
  · rintro ⟨hsensitive, -, hlisted⟩
    have hok : ¬ ((ip.unmapped.isPrivate = true ∨ ip.unmapped.isCgnat = true) ∧
        hostname ∉ allowance.allowedPrivateHosts ∧
        std.ipText ip.unmapped ∉ allowance.allowedPrivateHosts ∧
        (hostname, port) ∉ allowance.allowedDestinations) := by
      rintro ⟨hprivate, hhost, htext, hdestination⟩
      rcases hlisted hprivate with h | h | h
      · exact hhost h
      · exact htext h
      · exact hdestination h
    simp [hnat64 hsensitive, hsensitive, hall, hok]

/-! ## One resolution -/

def resolvedAddresses (std : Stdlib) (answer : Answer) (hostname : String) : List IpAddress :=
  match std.ipAddress hostname with
  | some ip => [ip]
  | none => (answer.getD []).filterMap std.ipAddress

theorem checkAnswer_ok {hostname : String} {port : Nat} {allowance : Allowance}
    (hall : allowance.allowPrivateAll = false) {texts addresses result : List String}
    (h : checkAnswer std hostname port allowance texts addresses = .ok result) :
    (∀ text ∈ texts, ∃ ip, std.ipAddress text = some ip ∧ Permitted std allowance hostname port ip) ∧
      ∀ address ∈ result, address ∈ addresses ∨
        ∃ ip ∈ texts.filterMap std.ipAddress, address = std.ipText ip := by
  induction texts generalizing addresses with
  | nil =>
    simp only [checkAnswer, Except.ok.injEq] at h
    subst h
    exact ⟨by simp, fun address haddress => Or.inl haddress⟩
  | cons text texts ih =>
    unfold checkAnswer at h
    cases hip : std.ipAddress text with
    | none => simp [hip] at h
    | some ip =>
      cases hcheck : checkIpAddress std.ipText ip hostname port allowance with
      | error e => simp [hip, hcheck] at h
      | ok _ =>
        simp only [hip, hcheck] at h
        obtain ⟨hpermitted, hresult⟩ := ih h
        refine ⟨?_, fun address haddress => ?_⟩
        · intro text' htext'
          rcases List.mem_cons.mp htext' with rfl | htext'
          · exact ⟨ip, hip, (checkIpAddress_ok_iff hall).mp hcheck⟩
          · exact hpermitted text' htext'
        · rcases hresult address haddress with hold | ⟨ip', hip', htext⟩
          · split_ifs at hold with hmem
            · exact Or.inl hold
            · rcases List.mem_append.mp hold with hold | hnew
              · exact Or.inl hold
              · refine Or.inr ⟨ip, ?_, List.mem_singleton.mp hnew⟩
                exact List.mem_filterMap.mpr ⟨text, List.mem_cons_self .., hip⟩
          · refine Or.inr ⟨ip', ?_, htext⟩
            obtain ⟨text', htext', hip''⟩ := List.mem_filterMap.mp hip'
            exact List.mem_filterMap.mpr ⟨text', List.mem_cons_of_mem _ htext', hip''⟩

theorem resolveAddresses_ok {answer : Answer} {hostname : String} {port : Nat}
    {allowance : Allowance} (hall : allowance.allowPrivateAll = false) {result : List String}
    (h : resolveAddresses std answer hostname port allowance = .ok result) :
    (∀ ip ∈ resolvedAddresses std answer hostname, Permitted std allowance hostname port ip) ∧
      ∀ address ∈ result, ∃ ip ∈ resolvedAddresses std answer hostname, address = std.ipText ip := by
  unfold resolveAddresses at h
  unfold resolvedAddresses
  cases hliteral : std.ipAddress hostname with
  | some ip =>
    simp only [hliteral] at h
    cases hcheck : checkIpAddress std.ipText ip hostname port allowance with
    | error e => simp [hcheck] at h
    | ok _ =>
      simp only [hcheck, Except.ok.injEq] at h
      subst h
      refine ⟨fun ip' hip' => ?_, fun address haddress => ?_⟩
      · rw [List.mem_singleton.mp hip']
        exact (checkIpAddress_ok_iff hall).mp hcheck
      · exact ⟨ip, List.mem_singleton.mpr rfl, List.mem_singleton.mp haddress⟩
  | none =>
    simp only [hliteral] at h
    cases answer with
    | none =>
      simp only [Except.ok.injEq] at h
      subst h
      exact ⟨by simp, by simp⟩
    | some texts =>
      obtain ⟨hpermitted, hresult⟩ := checkAnswer_ok hall h
      refine ⟨fun ip hip => ?_, fun address haddress => ?_⟩
      · obtain ⟨text, htext, hip⟩ := List.mem_filterMap.mp hip
        obtain ⟨ip', hip', hok⟩ := hpermitted text htext
        cases Option.some.inj (hip.symm.trans hip')
        exact hok
      · exact (hresult address haddress).resolve_left (List.not_mem_nil)

theorem target_ok {r : Resolution} {target : ResolvedOutboundURL} (h : r.target std = .ok target) :
    ∃ n, normalizeUrl std r.url = .ok n ∧
      (∀ ip ∈ resolvedAddresses std (r.answers n.hostname n.port) n.hostname,
        Permitted std (r.policy.allowance std r.url) n.hostname n.port ip) ∧
      (∃ ip ∈ resolvedAddresses std (r.answers n.hostname n.port) n.hostname,
        target.ipAddress = std.ipText ip) ∧
      target = ⟨n.url, n.scheme, n.hostname, n.port, target.ipAddress⟩ := by
  unfold Resolution.target resolveUserOutboundUrl resolveOutboundUrl at h
  cases hn : normalizeUrl std r.url with
  | error e => simp [hn] at h
  | ok n =>
    simp only [hn] at h
    split_ifs at h
    cases haddresses : resolveAddresses std (r.answers n.hostname n.port) n.hostname n.port
        (r.policy.allowance std r.url) with
    | error e => simp [haddresses] at h
    | ok addresses =>
      obtain ⟨hpermitted, hresult⟩ := resolveAddresses_ok rfl haddresses
      cases addresses with
      | nil => simp [haddresses] at h
      | cons address rest =>
        simp only [haddresses, Except.ok.injEq] at h
        subst h
        exact ⟨n, rfl, hpermitted, hresult address (List.mem_cons_self ..), rfl⟩

theorem target_error {r : Resolution} {n : Normalized} (hn : normalizeUrl std r.url = .ok n)
    {ip : IpAddress} (hip : ip ∈ resolvedAddresses std (r.answers n.hostname n.port) n.hostname)
    (hforbidden : ¬ Permitted std (r.policy.allowance std r.url) n.hostname n.port ip) :
    ∃ e, r.target std = .error e := by
  cases htarget : r.target std with
  | error e => exact ⟨e, rfl⟩
  | ok target =>
    obtain ⟨n', hn', hpermitted, -, -⟩ := target_ok htarget
    cases Except.ok.inj (hn.symm.trans hn')
    exact absurd (hpermitted ip hip) hforbidden

/-! ## Literal addresses -/

/-- The host of a URL and the answer for it come down to one address. -/
def ResolvesTo (std : Stdlib) (r : Resolution) (n : Normalized) (ip : IpAddress) : Prop :=
  std.ipAddress n.hostname = some ip ∨
    std.ipAddress n.hostname = none ∧
      ∃ text, r.answers n.hostname n.port = some [text] ∧ std.ipAddress text = some ip

def ListedAlike (std : Stdlib) (r r' : Resolution) (n n' : Normalized) : Prop :=
  (n.hostname ∈ r.policy.allowedHosts ↔ n'.hostname ∈ r'.policy.allowedHosts) ∧
    (∀ ip, std.ipText ip ∈ r.policy.allowedHosts ↔ std.ipText ip ∈ r'.policy.allowedHosts) ∧
    ((n.hostname, n.port) ∈ (r.policy.allowance std r.url).allowedDestinations ↔
      (n'.hostname, n'.port) ∈ (r'.policy.allowance std r'.url).allowedDestinations)

/-- The host is not one of the names of this machine. -/
def NotLocalhost (n : Normalized) : Prop :=
  n.hostname ≠ "localhost" ∧ n.hostname ≠ "localhost.localdomain"

theorem target_ok_iff {r : Resolution} {n : Normalized} (hn : normalizeUrl std r.url = .ok n)
    (hlocal : NotLocalhost n) {ip : IpAddress} (hresolves : ResolvesTo std r n ip) :
    r.target std = .ok ⟨n.url, n.scheme, n.hostname, n.port, std.ipText ip⟩ ∧
        Permitted std (r.policy.allowance std r.url) n.hostname n.port ip ∨
      (∃ e, r.target std = .error e) ∧
        ¬ Permitted std (r.policy.allowance std r.url) n.hostname n.port ip := by
  have haddresses : resolvedAddresses std (r.answers n.hostname n.port) n.hostname = [ip] := by
    rcases hresolves with hliteral | ⟨hname, text, hanswer, htext⟩
    · simp only [resolvedAddresses, hliteral]
    · simp [resolvedAddresses, hname, hanswer, htext]
  by_cases hpermitted : Permitted std (r.policy.allowance std r.url) n.hostname n.port ip
  · refine Or.inl ⟨?_, hpermitted⟩
    have hcheck := (checkIpAddress_ok_iff rfl).mpr hpermitted
    have hresult : resolveAddresses std (r.answers n.hostname n.port) n.hostname n.port
        (r.policy.allowance std r.url) = .ok [std.ipText ip] := by
      rcases hresolves with hliteral | ⟨hname, text, hanswer, htext⟩
      · simp only [resolveAddresses, hliteral, hcheck]
      · simp [resolveAddresses, hname, hanswer, checkAnswer, htext, hcheck]
    unfold Resolution.target resolveUserOutboundUrl resolveOutboundUrl
    simp only [hn, hlocal.1, hlocal.2, or_self, if_false, hresult]
  · refine Or.inr ⟨target_error hn ?_ hpermitted, hpermitted⟩
    rw [haddresses]
    exact List.mem_singleton.mpr rfl

theorem permitted_congr {r r' : Resolution} {n n' : Normalized} (h : ListedAlike std r r' n n')
    (ip : IpAddress) :
    Permitted std (r.policy.allowance std r.url) n.hostname n.port ip ↔
      Permitted std (r'.policy.allowance std r'.url) n'.hostname n'.port ip := by
  have hlisted : Listed std (r.policy.allowance std r.url) n.hostname n.port ip.unmapped ↔
      Listed std (r'.policy.allowance std r'.url) n'.hostname n'.port ip.unmapped :=
    or_congr h.1 (or_congr (h.2.1 _) h.2.2)
  constructor
  · rintro ⟨hsensitive, hembedded, hprivate⟩
    exact ⟨hsensitive, hembedded, fun hip => hlisted.mp (hprivate hip)⟩
  · rintro ⟨hsensitive, hembedded, hprivate⟩
    exact ⟨hsensitive, hembedded, fun hip => hlisted.mpr (hprivate hip)⟩

/-! ## Runs -/

def Proper (std : Stdlib) (resolver : Nat → String → Nat → Answer)
    (opened : Resolution × Connection) : Prop :=
  ∃ call n, opened.1.answers = resolver call ∧ normalizeUrl std opened.1.url = .ok n ∧
    (∀ ip ∈ resolvedAddresses std (opened.1.answers n.hostname n.port) n.hostname,
      Permitted std (opened.1.policy.allowance std opened.1.url) n.hostname n.port ip) ∧
    (∃ ip ∈ resolvedAddresses std (opened.1.answers n.hostname n.port) n.hostname,
      opened.2.address = std.ipText ip) ∧
    portOr (some opened.2.port) n.scheme = n.port ∧ (opened.2.tls = true ↔ n.scheme = "https") ∧
    opened.2.hostHeader = ResolvedOutboundURL.hostHeader
      ⟨n.url, n.scheme, n.hostname, n.port, opened.2.address⟩ ∧
    opened.2.serverName = if n.scheme = "https" then some n.hostname else none

/-- The invariant: the clients hold the targets of their resolutions, and what was opened is proper. -/
structure Inv (std : Stdlib) (resolver : Nat → String → Nat → Answer) (s : State) : Prop where
  clients : ∀ client ∈ s.clients, client.1.target std = .ok client.2 ∧
    ∃ call, client.1.answers = resolver call
  opened : ∀ opened ∈ s.opened, Proper std resolver opened

theorem portOr_urlPort {target : ResolvedOutboundURL} {url : String}
    (h : isTargetOrigin std url target = true) :
    portOr (some (urlPort std url)) target.scheme = target.port := by
  unfold isTargetOrigin at h
  unfold urlPort
  cases hparsed : urlparse std.rejectsNetloc url with
  | none => simp [hparsed] at h
  | some parsed =>
    simp only [hparsed] at h ⊢
    cases hidna : std.idna ((parsed.hostname std.lower).getD "") with
    | none => simp [hidna] at h
    | some ascii =>
      cases hport : parsed.port with
      | error e => simp [hidna, hport] at h
      | ok port =>
        simp only [hidna, hport, Bool.and_eq_true, decide_eq_true_eq] at h
        obtain ⟨⟨hscheme, -⟩, hsame⟩ := h
        rw [← hsame, ← hscheme]
        cases port with
        | none =>
          simp only [portOr, defaultPort]
          split_ifs <;> rfl
        | some port => rfl

theorem portOr_portOr (port : Option Nat) (scheme : String) :
    portOr (some (portOr port scheme)) scheme = portOr port scheme := by
  have hdefault : portOr (some (defaultPort scheme)) scheme = defaultPort scheme := by
    simp only [defaultPort]
    split_ifs <;> rfl
  cases port with
  | none => exact hdefault
  | some port =>
    cases port with
    | zero => exact hdefault
    | succ port => rfl

theorem portOr_normalized {url : String} {n : Normalized} (h : normalizeUrl std url = .ok n) :
    portOr (some n.port) n.scheme = n.port := by
  unfold normalizeUrl at h
  dsimp only at h
  split_ifs at h
  cases hparsed : urlparse std.rejectsNetloc (withScheme (strip url)) with
  | none => simp [hparsed] at h
  | some parsed =>
    simp only [hparsed] at h
    cases hhost : parsed.hostname std.lower with
    | none =>
      simp only [hhost] at h
      split_ifs at h
    | some hostname =>
      simp only [hhost] at h
      split_ifs at h
      cases hport : parsed.port with
      | error e => simp [hport] at h
      | ok port =>
        cases hidna : std.idna hostname with
        | none => simp [hport, hidna] at h
        | some ascii =>
          simp only [hport, hidna, Except.ok.injEq] at h
          subst h
          exact portOr_portOr port parsed.scheme

theorem proper_of_target {resolver : Nat → String → Nat → Answer} {call : Nat} {r : Resolution}
    {target : ResolvedOutboundURL} (hanswers : r.answers = resolver call)
    (htarget : r.target std = .ok target) {port : Nat}
    (hport : portOr (some port) target.scheme = target.port) :
    Proper std resolver (r, ⟨target.ipAddress, port, target.scheme = "https", target.hostHeader,
      target.serverName⟩) := by
  obtain ⟨n, hn, hpermitted, haddress, hsame⟩ := target_ok htarget
  obtain ⟨url, scheme, hostname, targetPort, address⟩ := target
  simp only [ResolvedOutboundURL.mk.injEq] at hsame
  obtain ⟨rfl, rfl, rfl, rfl, -⟩ := hsame
  exact ⟨call, n, hanswers, hn, hpermitted, haddress, hport, decide_eq_true_iff, rfl, rfl⟩

theorem proper_pinnedSend {resolver : Nat → String → Nat → Answer} {call : Nat} {r : Resolution}
    {target : ResolvedOutboundURL} (hanswers : r.answers = resolver call)
    (htarget : r.target std = .ok target) {url : String} {connection : Connection}
    (h : pinnedSend std target url = some connection) : Proper std resolver (r, connection) := by
  unfold pinnedSend at h
  split_ifs at h
  cases h
  obtain ⟨n, hn, -, -, hsame⟩ := target_ok htarget
  refine proper_of_target hanswers htarget ?_
  rw [hsame]
  exact portOr_normalized hn

theorem proper_handleAsyncRequest {resolver : Nat → String → Nat → Answer} {call : Nat}
    {r : Resolution} {target : ResolvedOutboundURL} (hanswers : r.answers = resolver call)
    (htarget : r.target std = .ok target) {url : String} {connection : Connection}
    (h : handleAsyncRequest std target url = some connection) :
    Proper std resolver (r, connection) := by
  unfold handleAsyncRequest at h
  split_ifs at h with horigin
  cases h
  exact proper_of_target hanswers htarget (portOr_urlPort horigin)

theorem inv_step {resolver : Nat → String → Nat → Answer} (s : State) (a : Action)
    (h : Inv std resolver s) : Inv std resolver (step std resolver s a) := by
  cases a with
  | requestUserOutbound policy url sent =>
    simp only [step]
    split
    · exact ⟨h.clients, h.opened⟩
    · next target htarget =>
      refine ⟨h.clients, fun opened hopened => ?_⟩
      rcases List.mem_append.mp hopened with hold | hnew
      · exact h.opened opened hold
      · obtain ⟨connection, hconnection, rfl⟩ := List.mem_map.mp hnew
        obtain ⟨url', -, hsend⟩ := List.mem_filterMap.mp hconnection
        exact proper_pinnedSend rfl htarget hsend
  | asyncRequestUserOutbound policy url sent =>
    simp only [step]
    split
    · exact ⟨h.clients, h.opened⟩
    · next target htarget =>
      refine ⟨h.clients, fun opened hopened => ?_⟩
      rcases List.mem_append.mp hopened with hold | hnew
      · exact h.opened opened hold
      · obtain ⟨connection, hconnection, rfl⟩ := List.mem_map.mp hnew
        obtain ⟨url', -, hsend⟩ := List.mem_filterMap.mp hconnection
        exact proper_handleAsyncRequest rfl htarget hsend
  | createPinnedAsyncClient policy url =>
    simp only [step]
    split
    · exact ⟨h.clients, h.opened⟩
    · next target htarget =>
      refine ⟨fun client hclient => ?_, h.opened⟩
      rcases List.mem_append.mp hclient with hold | hnew
      · exact h.clients client hold
      · rw [List.mem_singleton.mp hnew]
        exact ⟨htarget, s.calls, rfl⟩
  | clientRequest client sent =>
    simp only [step]
    split
    · exact h
    · next resolution target hclient =>
      obtain ⟨htarget, call, hanswers⟩ := h.clients _ (List.mem_of_getElem? hclient)
      split
      · exact h
      · next connection hconnection =>
        refine ⟨h.clients, fun opened hopened => ?_⟩
        rcases List.mem_append.mp hopened with hold | hnew
        · exact h.opened opened hold
        · rw [List.mem_singleton.mp hnew]
          exact proper_handleAsyncRequest hanswers htarget hconnection

/-- Every connection of every run is proper; an address that is not permitted makes the resolution of
its host fail; and a literal address fares as a name that is resolved to it and is listed alike. -/
theorem connections_proper (std : Stdlib) (resolver : Nat → String → Nat → Answer) :
    (∀ as : List Action, ∀ opened ∈ (exec (step std resolver) .initial as).opened,
      Proper std resolver opened) ∧
    (∀ (r : Resolution) (n : Normalized) (ip : IpAddress), normalizeUrl std r.url = .ok n →
      ip ∈ resolvedAddresses std (r.answers n.hostname n.port) n.hostname →
      ¬ Permitted std (r.policy.allowance std r.url) n.hostname n.port ip →
      ∃ e, r.target std = .error e) ∧
    ∀ (r r' : Resolution) (n n' : Normalized) (ip : IpAddress),
      normalizeUrl std r.url = .ok n → normalizeUrl std r'.url = .ok n' →
      NotLocalhost n → NotLocalhost n' → ResolvesTo std r n ip → ResolvesTo std r' n' ip →
      ListedAlike std r r' n n' →
      ((∃ target, r.target std = .ok target ∧ target.ipAddress = std.ipText ip) ↔
        ∃ target, r'.target std = .ok target ∧ target.ipAddress = std.ipText ip) := by
  refine ⟨fun as => ?_, fun r n ip hn hip hforbidden => target_error hn hip hforbidden, ?_⟩
  · have hadmits : Admits (step std resolver) (fun _ _ => True) .initial as :=
      Admits.of_forall fun _ _ => trivial
    have hinv : Inv std resolver (exec (step std resolver) .initial as) :=
      exec_invariant (fun s a h _ => inv_step s a h)
        ⟨by simp [State.initial], by simp [State.initial]⟩ hadmits
    exact hinv.opened
  · intro r r' n n' ip hn hn' hlocal hlocal' hresolves hresolves' halike
    have hpermitted := permitted_congr halike ip
    rcases target_ok_iff hn hlocal hresolves with ⟨hok, hp⟩ | ⟨⟨e, he⟩, hp⟩ <;>
      rcases target_ok_iff hn' hlocal' hresolves' with ⟨hok', hp'⟩ | ⟨⟨e', he'⟩, hp'⟩
    · exact ⟨fun _ => ⟨_, hok', rfl⟩, fun _ => ⟨_, hok, rfl⟩⟩
    · exact absurd (hpermitted.mp hp) hp'
    · exact absurd (hpermitted.mpr hp') hp
    · simp [he, he']

def twoHosts : Stdlib where
  rejectsNetloc := fun _ => false
  lower := id
  idna := some
  ipAddress := fun text => if text = "10.0.0.5" then some (.v4 (quad 10 0 0 5)) else none
  ipText := fun _ => "10.0.0.5"

/-- The name is resolved to the address. -/
def modelsAnswer : String → Nat → Answer := fun _ _ => some ["10.0.0.5"]

def trustsDeployment : UserPolicy := ⟨[], [("10.0.0.5", 8000)]⟩

/-- The literal address is allowed, and a name that is resolved to exactly that address is not. -/
theorem name_refused_literal_allowed :
    Resolution.target twoHosts ⟨modelsAnswer, trustsDeployment, "http://10.0.0.5:8000"⟩ =
        .ok ⟨"http://10.0.0.5:8000", "http", "10.0.0.5", 8000, "10.0.0.5"⟩ ∧
      Resolution.target twoHosts ⟨modelsAnswer, trustsDeployment, "http://models:8000"⟩ =
        .error privateAddress := by
  constructor
  · decide +kernel
  · decide +kernel

/-- Both are allowed where the administrator lists both. -/
theorem listed_name_as_literal :
    (∃ target, Resolution.target twoHosts
        ⟨modelsAnswer, ⟨["10.0.0.5", "models"], []⟩, "http://models:8000"⟩ = .ok target ∧
        target.ipAddress = "10.0.0.5") ∧
      (exec (step twoHosts fun _ => modelsAnswer) .initial
        [.requestUserOutbound ⟨["10.0.0.5", "models"], []⟩ "http://models:8000"
          ["http://models:8000/v1"]]).opened.length = 1 := by
  refine ⟨?_, by decide +kernel⟩
  have hsame := (connections_proper twoHosts fun _ => modelsAnswer).2.2
    ⟨modelsAnswer, ⟨["10.0.0.5", "models"], []⟩, "http://10.0.0.5:8000"⟩
    ⟨modelsAnswer, ⟨["10.0.0.5", "models"], []⟩, "http://models:8000"⟩
    ⟨"http://10.0.0.5:8000", "http", "10.0.0.5", 8000⟩ ⟨"http://models:8000", "http", "models", 8000⟩
    (.v4 (quad 10 0 0 5)) (by decide +kernel) (by decide +kernel) ⟨by decide, by decide⟩
    ⟨by decide, by decide⟩ (Or.inl (by decide +kernel))
    (Or.inr ⟨by decide +kernel, "10.0.0.5", rfl, by decide +kernel⟩)
    ⟨by decide +kernel, fun _ => Iff.rfl, by decide +kernel⟩
  exact hsame.mp ⟨⟨"http://10.0.0.5:8000", "http", "10.0.0.5", 8000, "10.0.0.5"⟩, by decide +kernel,
    rfl⟩

end Outbound
