import TrainFactory.Inference.Authorization

/-!
# The clients of inference services

`LLMClient`, `EmbeddingClient` and `RerankClient` check the model name and then post to URLs that
they build from the endpoint as it was given, over a connection that is bound to its origin.
-/

namespace Inference

open Lib

inductive Client where
  | llm | embedding | rerank
deriving DecidableEq

/-- The URL of `LLMClient._call_api`. -/
def llmUrl (endpoint : String) : String := rstripChar endpoint '/' ++ "/chat/completions"

def embeddingUrl (endpoint : String) : String :=
  let endpoint := rstripChar endpoint '/'
  if endsWith endpoint "/v1/embeddings" || endsWith endpoint "/embeddings" then endpoint
  else if endsWith endpoint "/v1" then endpoint ++ "/embeddings"
  else endpoint ++ "/v1/embeddings"

def buildRerankUrls (endpoint : String) : List String :=
  let endpoint := rstripChar endpoint '/'
  if endsWith endpoint "/v1/rerank" || endsWith endpoint "/rerank" then [endpoint]
  else if endsWith endpoint "/v1" then [endpoint ++ "/rerank"]
  else [endpoint ++ "/rerank", endpoint ++ "/v1/rerank"]

def Client.urls (endpoint : String) : Client → List String
  | .llm => [llmUrl endpoint]
  | .embedding => [embeddingUrl endpoint]
  | .rerank => buildRerankUrls endpoint

structure ClientConfig where
  endpoint : String
  model : String
  userId : Option String

/-- What resolving the endpoint depends on when the HTTP client is made. -/
structure Network where
  /-- The answers of the resolver. -/
  answers : String → Nat → Outbound.Answer
  /-- `_collect_user_policy`. -/
  policy : Outbound.UserPolicy

variable (platform : Platform) (catalog : Catalog) (network : Network)

/-- The requests that get through the pinned transport of `create_pinned_async_client`. -/
def deliverable (client : Client) (endpoint : String) : List HttpxUrl :=
  match Outbound.resolveUserOutboundUrl platform.std network.answers network.policy endpoint with
  | .error _ => []
  | .ok target => ((client.urls endpoint).filterMap platform.url).filter fun url =>
      (Outbound.handleAsyncRequest platform.std target url.text).isSome

/-- `authorize_inference_model(self.config.endpoint, self.config.model, self.config.user_id)`. -/
def authorizeClient (config : ClientConfig) : Except InferenceError (Option (List String)) :=
  authorizeInferenceModel platform catalog config.endpoint config.model config.userId "" none none
    none

def sent (client : Client) (config : ClientConfig) : List HttpxUrl :=
  match authorizeClient platform catalog config with
  | .error _ => []
  | .ok _ => deliverable platform network client config.endpoint

example : buildRerankUrls "http://h:1/" = ["http://h:1/rerank", "http://h:1/v1/rerank"] := by decide

end Inference
