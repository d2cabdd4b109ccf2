import TrainFactory.Inference.Clients

/-!
# Requests to shared services

A request that arrives at a shared service carries a model that the user owns there, as long as the
service has the base to which the check brings the endpoint. The clients build their URLs from the
endpoint as it was given, so that a request may arrive at a service of another base.
-/

namespace Inference

open Lib

variable {platform : Platform} {catalog : Catalog} {network : Network}

/-! ## Services -/

section Services

variable (platform : Platform) (catalog : Catalog)

/-- The configured default service, or an endpoint that counts as registered. -/
def IsService (userId : Option String) (service : String) : Prop :=
  service = catalog.defaultEndpoint none ∨
    ∃ owned, registeredSharedModelsForEndpoint platform catalog service userId "" =
      .ok (true, owned)

def OwnedAt (userId : Option String) (service model : String) : Prop :=
  ∃ owned, ownedModelUidsForEndpoint platform catalog service userId "" = .ok owned ∧ model ∈ owned

/-- The base of a service, as `httpx` tells it. -/
def serviceBase (service : String) : Except InferenceError HttpxUrl := do
  let canonical ← canonicalModelEndpoint platform service ""
  httpxUrl platform canonical

/-- The request goes to the scheme, the host and the port of the base, and to a path at or below its
path. -/
structure Reaches (url base : HttpxUrl) : Prop where
  scheme : url.scheme = base.scheme
  host : rstripChar url.host '.' = base.host
  port : url.port = base.port
  below : pathComponents base.path <+: pathComponents (normalizedPath url.path)

/-- The request arrives at the service. -/
def ReachesService (url : HttpxUrl) (service : String) : Prop :=
  ∃ base, serviceBase platform service = .ok base ∧ Reaches url base

/-- The check takes the endpoint for a shared service. -/
def IsProtected (userId : Option String) (endpoint : String) : Prop :=
  ∃ owned, protection platform catalog endpoint userId "" none (catalog.defaultEndpoint none) =
    .ok (true, owned)

/-- The user is known and active, and owns the model at the base of the endpoint. -/
structure MayUse (config : ClientConfig) : Prop where
  notAnonymous : isAnonymous config.userId = false
  active : ∃ user, config.userId.bind catalog.getUser = some user ∧ user.isActive = true
  named : config.model ≠ ""
  owned : OwnedAt platform catalog config.userId config.endpoint config.model

end Services

/-! ## The check -/

theorem registered_congr {endpoint endpoint' provider provider' : String} (userId : Option String)
    (h : canonicalModelEndpoint platform endpoint provider =
      canonicalModelEndpoint platform endpoint' provider') :
    registeredSharedModelsForEndpoint platform catalog endpoint userId provider =
      registeredSharedModelsForEndpoint platform catalog endpoint' userId provider' := by
  rw [registeredSharedModelsForEndpoint, registeredSharedModelsForEndpoint, h]

theorem ownedAt_congr {endpoint endpoint' model : String} {userId : Option String}
    (h : canonicalModelEndpoint platform endpoint "" =
      canonicalModelEndpoint platform endpoint' "") :
    OwnedAt platform catalog userId endpoint model ↔
      OwnedAt platform catalog userId endpoint' model := by
  rw [OwnedAt, OwnedAt, ownedModelUidsForEndpoint, ownedModelUidsForEndpoint,
    registered_congr userId h]

theorem canonical_xinference (endpoint : String) :
    canonicalModelEndpoint platform endpoint "xinference" =
      canonicalModelEndpoint platform endpoint "" := by
  have hlabel : "xinference" ∉ openaiCompatible := by decide
  have hempty : "" ∉ openaiCompatible := by decide
  simp only [canonicalModelEndpoint, normalizeApiEndpointUrl, hlabel, hempty, false_and, if_false]

theorem protection_cases {endpoint default : String} {userId : Option String} {isProtected : Bool}
    {owned : Option (List String)}
    (h : protection platform catalog endpoint userId "" none default = .ok (isProtected, owned)) :
    (isProtected = true ∧ owned = none) ∨
      ∃ models, registeredSharedModelsForEndpoint platform catalog endpoint userId "" =
          .ok (isProtected, models) ∧
        canonicalModelEndpoint platform endpoint "" ≠ canonicalModelEndpoint platform default "" ∧
        owned = if isProtected then some models else none := by
  obtain ⟨canonical, hcanonical, h⟩ := bind_eq_ok.mp h
  obtain ⟨canonicalDefault, hdefault, h⟩ := bind_eq_ok.mp h
  rw [canonical_xinference] at hdefault
  split at h
  · simp only [pure_eq_ok, Prod.mk.injEq] at h
    exact Or.inl ⟨h.1.symm, h.2.symm⟩
  · rename_i hother
    obtain ⟨isAlias, halias, h⟩ := bind_eq_ok.mp h
    cases isAlias with
    | true =>
      simp only [if_true, pure_eq_ok, Prod.mk.injEq] at h
      exact Or.inl ⟨h.1.symm, h.2.symm⟩
    | false =>
      obtain ⟨⟨registered, models⟩, hregistered, h⟩ := bind_eq_ok.mp h
      simp only [pure_eq_ok, Prod.mk.injEq] at h
      obtain ⟨rfl, howned⟩ := h
      refine Or.inr ⟨models, hregistered, ?_, howned.symm⟩
      rw [hcanonical, hdefault]
      intro heq
      exact hother (Or.inr (Or.inl (Except.ok.inj heq)))

theorem isProtected_of_service {endpoint service : String} {userId : Option String}
    {isProtected : Bool} {owned : Option (List String)}
    (hservice : IsService platform catalog userId service)
    (hsame : canonicalModelEndpoint platform endpoint "" =
      canonicalModelEndpoint platform service "")
    (h : protection platform catalog endpoint userId "" none (catalog.defaultEndpoint none) =
      .ok (isProtected, owned)) :
    isProtected = true := by
  rcases protection_cases h with ⟨htrue, -⟩ | ⟨models, hregistered, hdefault, -⟩
  · exact htrue
  · rcases hservice with rfl | ⟨models', hservice⟩
    · exact absurd hsame hdefault
    · rw [registered_congr userId hsame, hservice] at hregistered
      simp only [Except.ok.injEq, Prod.mk.injEq] at hregistered
      exact hregistered.1.symm

theorem requireOwned_ok_iff {endpoint model : String} {userId : Option String}
    {owned : Option (List String)}
    (howned : owned = none ∨ ∃ models, owned = some models ∧
      registeredSharedModelsForEndpoint platform catalog endpoint userId "" = .ok (true, models)) :
    (∃ r, requireOwned platform catalog endpoint model userId "" owned = .ok r) ↔
      model ≠ "" ∧ OwnedAt platform catalog userId endpoint model := by
  have hstart : requireOwned platform catalog endpoint model userId "" owned =
      ownedModelUidsForEndpoint platform catalog endpoint userId "" >>= fun models =>
        if model = "" ∨ model ∉ models then
          throw (forbidden "Shared model requests are limited to owned deployments")
        else pure (some [model]) := by
    rcases howned with rfl | ⟨models, rfl, hregistered⟩
    · rfl
    · rw [ownedModelUidsForEndpoint, hregistered]
      rfl
  rw [hstart, OwnedAt]
  cases hat : ownedModelUidsForEndpoint platform catalog endpoint userId "" with
  | error e => simp [bind, Except.bind]
  | ok models =>
    by_cases hbad : model = "" ∨ model ∉ models
    · have hnot : ¬ (model ≠ "" ∧ model ∈ models) := by tauto
      simp [bind, Except.bind, hbad, throw, throwThe, MonadExceptOf.throw, hnot]
    · have hgood : model ≠ "" ∧ model ∈ models := by tauto
      simp [bind, Except.bind, pure, Except.pure, hgood]

section Authorization

variable {config : ClientConfig}

theorem authorizeClient_of_error {e : InferenceError} (hauth : catalog.authEnabled = true)
    (h : protection platform catalog config.endpoint config.userId "" none
      (catalog.defaultEndpoint none) = .error e) :
    authorizeClient platform catalog config = .error e := by
  simp [authorizeClient, authorizeInferenceModel, hauth, h, bind, Except.bind]

theorem authorizeClient_of_unprotected {owned : Option (List String)}
    (hauth : catalog.authEnabled = true)
    (h : protection platform catalog config.endpoint config.userId "" none
      (catalog.defaultEndpoint none) = .ok (false, owned)) :
    authorizeClient platform catalog config = .ok none := by
  simp [authorizeClient, authorizeInferenceModel, hauth, h, bind, Except.bind, pure, Except.pure]

/-- At a protected endpoint the check passes exactly for a user who owns the model. -/
theorem authorizeClient_ok_iff (hauth : catalog.authEnabled = true)
    (huser : ∀ user, config.userId.bind catalog.getUser = some user → user.isAdmin = false)
    (h : IsProtected platform catalog config.userId config.endpoint) :
    (∃ r, authorizeClient platform catalog config = .ok r) ↔ MayUse platform catalog config := by
  obtain ⟨owned, h⟩ := h
  have howned : owned = none ∨ ∃ models, owned = some models ∧
      registeredSharedModelsForEndpoint platform catalog config.endpoint config.userId "" =
        .ok (true, models) := by
    rcases protection_cases h with ⟨-, hnone⟩ | ⟨models, hregistered, -, hsome⟩
    · exact Or.inl hnone
    · exact Or.inr ⟨models, by simpa using hsome, hregistered⟩
  have hrequire : (∃ r, requireOwned platform catalog config.endpoint config.model config.userId ""
      owned = .ok r) ↔ config.model ≠ "" ∧
        OwnedAt platform catalog config.userId config.endpoint config.model :=
    requireOwned_ok_iff howned
  by_cases hanonymous : isAnonymous config.userId = true
  · have hstart : authorizeClient platform catalog config =
        .error (forbidden "Shared model requests require an authenticated owner") := by
      simp [authorizeClient, authorizeInferenceModel, hauth, h, hanonymous, bind, Except.bind,
        throw, throwThe, MonadExceptOf.throw]
    rw [hstart]
    constructor
    · rintro ⟨r, hr⟩
      cases hr
    · intro hmay
      rw [hmay.notAnonymous] at hanonymous
      cases hanonymous
  · cases hfound : config.userId.bind catalog.getUser with
    | none =>
      have hstart : authorizeClient platform catalog config =
          .error (forbidden "Shared model owner is unavailable") := by
        simp [authorizeClient, authorizeInferenceModel, hauth, h, hanonymous, hfound, bind,
          Except.bind, throw, throwThe, MonadExceptOf.throw]
      rw [hstart]
      constructor
      · rintro ⟨r, hr⟩
        cases hr
      · intro hmay
        obtain ⟨user, hsome, -⟩ := hmay.active
        rw [hfound] at hsome
        cases hsome
    | some user =>
      have hadmin := huser user hfound
      have hstart : authorizeClient platform catalog config =
          if user.isActive = false then .error (forbidden "Shared model owner is unavailable")
          else requireOwned platform catalog config.endpoint config.model config.userId "" owned := by
        simp [authorizeClient, authorizeInferenceModel, hauth, h, hanonymous, hfound, hadmin, bind,
          Except.bind, throw, throwThe, MonadExceptOf.throw]
      rw [hstart]
      cases hactive : user.isActive with
      | false =>
        simp only [if_true, reduceCtorEq, exists_false, false_iff]
        intro hmay
        obtain ⟨user', hsome, hactive'⟩ := hmay.active
        rw [hfound] at hsome
        obtain rfl := Option.some.inj hsome
        rw [hactive] at hactive'
        cases hactive'
      | true =>
        rw [if_neg (by decide), hrequire]
        constructor
        · rintro ⟨hnamed, howned'⟩
          exact ⟨by simpa using hanonymous, ⟨user, hfound, hactive⟩, hnamed, howned'⟩
        · intro hmay
          exact ⟨hmay.named, hmay.owned⟩

end Authorization

/-! ## The requests of the clients -/

section Requests

variable (platform : Platform) (catalog : Catalog) (network : Network)

/-- Shared services answer only for owned models: a request that arrives at one was checked as such,
and carries a model that the user owns there. -/
def AnswersForOwned (client : Client) (config : ClientConfig) : Prop :=
  ∀ url ∈ sent platform catalog network client config, ∀ service,
    IsService platform catalog config.userId service → ReachesService platform url service →
      IsProtected platform catalog config.userId config.endpoint ∧
        OwnedAt platform catalog config.userId service config.model

/-- Each service at which a URL of the client arrives has the base to which the endpoint is brought. -/
def SharesBase (client : Client) (endpoint : String) (userId : Option String) : Prop :=
  ∀ url ∈ deliverable platform network client endpoint, ∀ service,
    IsService platform catalog userId service → ReachesService platform url service →
      canonicalModelEndpoint platform endpoint "" = canonicalModelEndpoint platform service ""

end Requests

theorem mem_sent {client : Client} {config : ClientConfig} {url : HttpxUrl} :
    url ∈ sent platform catalog network client config ↔
      (∃ r, authorizeClient platform catalog config = .ok r) ∧
        url ∈ deliverable platform network client config.endpoint := by
  rw [sent]
  cases authorizeClient platform catalog config with
  | error e => simp
  | ok r => simp

/-- Shared services answer only for owned models where the services at which the URLs of the client
arrive share the base of the endpoint. -/
theorem answersForOwned_of_sharesBase (platform : Platform) (catalog : Catalog)
    (network : Network) (client : Client) (config : ClientConfig)
    (hauth : catalog.authEnabled = true)
    (huser : ∀ user, config.userId.bind catalog.getUser = some user → user.isAdmin = false)
    (hshares : SharesBase platform catalog network client config.endpoint config.userId) :
    AnswersForOwned platform catalog network client config := by
  intro url hsent service hservice hreaches
  obtain ⟨⟨r, hok⟩, hurl⟩ := mem_sent.mp hsent
  have hsame := hshares url hurl service hservice hreaches
  cases hprotection : protection platform catalog config.endpoint config.userId "" none
      (catalog.defaultEndpoint none) with
  | error e =>
    rw [authorizeClient_of_error hauth hprotection] at hok
    cases hok
  | ok result =>
    obtain ⟨isProtected, owned⟩ := result
    obtain rfl := isProtected_of_service hservice hsame hprotection
    have hprotected : IsProtected platform catalog config.userId config.endpoint :=
      ⟨owned, hprotection⟩
    have hmay := (authorizeClient_ok_iff hauth huser hprotected).mp ⟨r, hok⟩
    exact ⟨hprotected, (ownedAt_congr hsame).mp hmay.owned⟩

/-! ## A request past the check -/

/-- The value of a hexadecimal digit. -/
def hexValue (c : Char) : Nat :=
  if c.isDigit then c.toNat - '0'.toNat else c.toNat - 'a'.toNat + 10

/-- `urllib.parse.unquote` of an ASCII text. -/
def unquote : List Char → List Char
  | '%' :: high :: low :: cs => Char.ofNat (16 * hexValue high + hexValue low) :: unquote cs
  | c :: cs => c :: unquote cs
  | [] => []

/-- `httpx.URL` of an `http` URL in lower case with a port and without user information or dot
segments. -/
def plainUrl (text : String) : Option HttpxUrl :=
  let rest := text.toList.drop 7
  let netloc := rest.takeWhile fun c => c ≠ '/' && c ≠ '?'
  let path := (rest.drop netloc.length).takeWhile (· ≠ '?')
  let (host, port) := partition ':' netloc
  some ⟨text, "http", String.ofList host, some (ParsedUrl.ofDigits port),
    if path = [] then "/" else String.ofList (unquote path)⟩

/-- `copy_with` of such a URL. -/
def plainCopyWith (url : HttpxUrl) (host path : String) : Option HttpxUrl :=
  plainUrl ("http://" ++ host ++ ":" ++ toString (url.port.getD 80) ++ path)

/-- A host in the network of the containers. -/
def containerHost : Platform where
  std :=
    { rejectsNetloc := fun _ => false
      lower := id
      idna := some
      ipAddress := fun text =>
        if text = "172.18.0.5" then some (.v4 (Outbound.quad 172 18 0 5)) else none
      ipText := fun _ => "172.18.0.5" }
  url := plainUrl
  copyWith := plainCopyWith
  hostIp := "10.2.3.4"

/-- A model of Bob runs on the default service. -/
def bobsRow : CatalogRow :=
  ⟨"http://xinference:9997", some "bob", some "bob-model", .running, "shared", none, "deployment",
    none, some 0, none, none⟩

/-- There is no other deployment. -/
def bobsModel : Catalog where
  authEnabled := true
  xinferenceEndpoint := none
  deployments := [bobsRow]
  replicas := []
  getUser := fun userId => some ⟨userId, userId, none, "", true, false, 0⟩

/-- The host of the default service is allowed for every user. -/
def allowsDefault : Network where
  answers := fun _ _ => some ["172.18.0.5"]
  policy := ⟨["xinference"], []⟩

/-- The percent-encoded letter hides the suffix from the normalization, and the question mark takes
what the client appends out of the path. -/
def encodedSuffix : ClientConfig :=
  ⟨"http://xinference:9997/v1/embedding%73?", "bob-model", some "alice"⟩

/-- Bob asks his own model at the base of the service. -/
def ownModel : ClientConfig := ⟨"http://xinference:9997/v1", "bob-model", some "bob"⟩

theorem containerHost_evaluations :
    (canonicalModelEndpoint containerHost "http://xinference:9997" "" =
        .ok "http://xinference:9997" ∧
      canonicalModelEndpoint containerHost "http://10.2.3.4:9997" "" =
        .ok "http://10.2.3.4:9997" ∧
      canonicalModelEndpoint containerHost encodedSuffix.endpoint "" =
        .ok "http://xinference:9997/v1/embeddings" ∧
      canonicalModelEndpoint containerHost ownModel.endpoint "" = .ok "http://xinference:9997") ∧
    (httpxUrl containerHost "http://xinference:9997" =
        .ok ⟨"http://xinference:9997", "http", "xinference", some 9997, "/"⟩ ∧
      toExternalEndpoint containerHost "http://xinference:9997" = "http://10.2.3.4:9997" ∧
      isConvertible "xinference" = true ∧
      isDefaultAlias containerHost "http://xinference:9997/v1/embeddings"
        "http://xinference:9997" "http://xinference:9997" = .ok false) ∧
    (⟨"http://xinference:9997/v1/embedding%73?/v1/embeddings", "http", "xinference", some 9997,
        "/v1/embeddings"⟩ : HttpxUrl) ∈
      deliverable containerHost allowsDefault .embedding encodedSuffix.endpoint ∧
    deliverable containerHost allowsDefault .llm ownModel.endpoint =
      [(⟨"http://xinference:9997/v1/chat/completions", "http", "xinference", some 9997,
        "/v1/chat/completions"⟩ : HttpxUrl)] ∧
    httpxUrl containerHost "http://10.2.3.4:9997" =
      .ok ⟨"http://10.2.3.4:9997", "http", "10.2.3.4", some 9997, "/"⟩ := by
  refine ⟨⟨?_, ?_, ?_, ?_⟩, ⟨?_, ?_, ?_, ?_⟩, ?_, ?_, ?_⟩ <;> decide +kernel

theorem canonical_default :
    canonicalModelEndpoint containerHost "http://xinference:9997" "" =
      .ok "http://xinference:9997" :=
  containerHost_evaluations.1.1

theorem canonical_encodedSuffix :
    canonicalModelEndpoint containerHost encodedSuffix.endpoint "" =
      .ok "http://xinference:9997/v1/embeddings" :=
  containerHost_evaluations.1.2.2.1

theorem canonical_ownModel :
    canonicalModelEndpoint containerHost ownModel.endpoint "" = .ok "http://xinference:9997" :=
  containerHost_evaluations.1.2.2.2

theorem matches_bobsModel (canonical : String) :
    matchesEndpoint containerHost canonical "http://xinference:9997" none =
      .ok (canonical = "http://xinference:9997" ∨ canonical = "http://10.2.3.4:9997") := by
  have haliases : generatedAliases containerHost "http://xinference:9997" none =
      .ok ["http://10.2.3.4:9997"] := by
    obtain ⟨⟨-, halias, -⟩, ⟨hparsed, hexternal, hconvertible, -⟩, -⟩ := containerHost_evaluations
    simp [generatedAliases, hparsed, hconvertible, hexternal, canonical_xinference, halias,
      bind, Except.bind, pure, Except.pure]
  rw [matchesEndpoint, canonical_xinference, canonical_default]
  by_cases hsame : "http://xinference:9997" = canonical
  · simp [exceptHttp, hsame, bind, Except.bind, pure, Except.pure]
  · simp [exceptHttp, hsame, Ne.symm hsame, haliases, bind, Except.bind, pure, Except.pure]

theorem registered_bobsModel {service canonical : String} (userId : Option String)
    (h : canonicalModelEndpoint containerHost service "" = .ok canonical) :
    registeredSharedModelsForEndpoint containerHost bobsModel service userId "" =
      .ok (if canonical = "http://xinference:9997" ∨ canonical = "http://10.2.3.4:9997" then
        (true, if userId = some "bob" then ["bob-model"] else []) else (false, [])) := by
  have hfound := matches_bobsModel canonical
  have hreplicas : (bobsModel.replicaDeployment bobsRow.deploymentId).isNone = true := by decide
  have hrow : registerDeployments containerHost bobsModel canonical userId [bobsRow] (false, []) =
      .ok (if canonical = "http://xinference:9997" ∨ canonical = "http://10.2.3.4:9997" then
        (true, if userId = some "bob" then ["bob-model"] else []) else (false, [])) := by
    rw [registerDeployments, if_neg (by decide),
      show matchesEndpoint containerHost canonical bobsRow.xinferenceEndpoint
        (if bobsRow.deployMode = "container" then bobsRow.port else none) = _ from hfound]
    by_cases hcanonical :
        canonical = "http://xinference:9997" ∨ canonical = "http://10.2.3.4:9997"
    · by_cases hbob : userId = some "bob"
      · subst hbob
        simp [hcanonical, hreplicas, bind, Except.bind, registerDeployments]
        decide
      · have hother : bobsRow.userId ≠ userId := fun heq => hbob heq.symm
        simp [hcanonical, hother, hbob, bind, Except.bind, registerDeployments]
    · simp [hcanonical, bind, Except.bind, registerDeployments]
  rw [registeredSharedModelsForEndpoint, h]
  simp only [bind, Except.bind]
  rw [show bobsModel.deployments = [bobsRow] from rfl, hrow]
  rfl

theorem protection_encodedSuffix :
    protection containerHost bobsModel encodedSuffix.endpoint (some "alice") "" none
      (bobsModel.defaultEndpoint none) = .ok (false, none) := by
  have hdefault : bobsModel.defaultEndpoint none = "http://xinference:9997" := by decide
  have hlower : containerHost.std.lower "" = "" := rfl
  have halias : isDefaultAlias containerHost "http://xinference:9997/v1/embeddings"
      "http://xinference:9997" "http://xinference:9997" = .ok false :=
    containerHost_evaluations.2.1.2.2.2
  have hregistered := registered_bobsModel (some "alice") canonical_encodedSuffix
  simp only [protection, hdefault, canonical_xinference, canonical_default, canonical_encodedSuffix,
    bind, Except.bind, hlower, halias, hregistered]
  simp [pure, Except.pure]

/-- Alice asks Bob's model: her request arrives at the embeddings of the default service, where she
owns none. -/
theorem encodedSuffix_answered :
    ¬ AnswersForOwned containerHost bobsModel allowsDefault .embedding encodedSuffix := by
  intro hanswers
  have hok : authorizeClient containerHost bobsModel encodedSuffix = .ok none :=
    authorizeClient_of_unprotected rfl protection_encodedSuffix
  have hurl : (⟨"http://xinference:9997/v1/embedding%73?/v1/embeddings", "http", "xinference",
      some 9997, "/v1/embeddings"⟩ : HttpxUrl) ∈
        deliverable containerHost allowsDefault .embedding encodedSuffix.endpoint :=
    containerHost_evaluations.2.2.1
  have hbase : serviceBase containerHost "http://xinference:9997" =
      .ok ⟨"http://xinference:9997", "http", "xinference", some 9997, "/"⟩ := by
    rw [serviceBase, canonical_default]
    exact containerHost_evaluations.2.1.1
  have hreaches := hanswers _ (mem_sent.mpr ⟨⟨_, hok⟩, hurl⟩) "http://xinference:9997"
    (Or.inl (by decide)) ⟨_, hbase, ⟨rfl, by decide, rfl, List.nil_prefix⟩⟩
  obtain ⟨owned, howned, hmem⟩ := hreaches.2
  rw [ownedModelUidsForEndpoint, registered_bobsModel _ canonical_default] at howned
  obtain rfl := Except.ok.inj howned
  cases hmem

/-- The endpoint of Bob and each service at which his requests arrive have the same base. -/
theorem ownModel_sharesBase :
    SharesBase containerHost bobsModel allowsDefault .llm ownModel.endpoint (some "bob") := by
  intro url hurl service hservice hreaches
  rw [containerHost_evaluations.2.2.2.1, List.mem_singleton] at hurl
  subst hurl
  rw [canonical_ownModel]
  rcases hservice with rfl | ⟨owned, hservice⟩
  · exact canonical_default.symm
  obtain ⟨canonical, hcanonical, -⟩ := bind_eq_ok.mp hservice
  rw [registered_bobsModel _ hcanonical] at hservice
  split at hservice
  · next hregistered =>
    rcases hregistered with rfl | rfl
    · exact hcanonical.symm
    · -- the alias of the default service has another host
      obtain ⟨base, hbase, hreaches⟩ := hreaches
      rw [serviceBase, hcanonical] at hbase
      obtain rfl := Except.ok.inj (containerHost_evaluations.2.2.2.2.symm.trans hbase)
      exact absurd hreaches.host (by decide)
  · cases hservice

/-- Bob is answered: the base of his endpoint is that of the service. -/
theorem ownModel_answered :
    (∃ url, url ∈ sent containerHost bobsModel allowsDefault .llm ownModel) ∧
      AnswersForOwned containerHost bobsModel allowsDefault .llm ownModel := by
  have hregistered := registered_bobsModel (some "bob") canonical_ownModel
  have hdefault : bobsModel.defaultEndpoint none = "http://xinference:9997" := by decide
  have hprotected : IsProtected containerHost bobsModel (some "bob") ownModel.endpoint := by
    refine ⟨none, ?_⟩
    simp [protection, hdefault, canonical_xinference, canonical_default, canonical_ownModel, bind,
      Except.bind, pure, Except.pure]
  have hadmin : ∀ user, ownModel.userId.bind bobsModel.getUser = some user →
      user.isAdmin = false := by
    intro user huser
    obtain rfl := Option.some.inj huser
    rfl
  constructor
  · have howned : OwnedAt containerHost bobsModel (some "bob") ownModel.endpoint "bob-model" :=
      ⟨["bob-model"], by rw [ownedModelUidsForEndpoint, hregistered]; rfl,
        List.mem_singleton_self _⟩
    have hmay : MayUse containerHost bobsModel ownModel :=
      ⟨by decide, ⟨_, rfl, rfl⟩, by decide, howned⟩
    have hok := (authorizeClient_ok_iff rfl hadmin hprotected).mpr hmay
    have hne : deliverable containerHost allowsDefault .llm ownModel.endpoint ≠ [] := by
      rw [containerHost_evaluations.2.2.2.1]
      exact List.cons_ne_nil _ _
    obtain ⟨url, hurl⟩ := List.exists_mem_of_ne_nil _ hne
    exact ⟨url, mem_sent.mpr ⟨hok, hurl⟩⟩
  · exact answersForOwned_of_sharesBase containerHost bobsModel allowsDefault .llm ownModel rfl
      hadmin ownModel_sharesBase

end Inference
