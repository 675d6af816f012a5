import EntityHub.Auth.Provider
import EntityHub.Http.Agent
/-!
# Discovery

Asking an identity provider where its token endpoint is.
-/

namespace EntityHub

open Http (Agent Peer)

/-- Fetches the metadata of the provider at `authorizer`. -/
def discover (agent : Agent) (authorizer : String) :
    StateM Peer (Except AuthFailure ProviderMetadata) := do
  let url := ProviderMetadata.url authorizer
  let failed (reason : DiscoveryFault) : Except AuthFailure ProviderMetadata :=
    .error (.discovery url reason)
  match ← agent.sendTo url { method := .get } with
  | .error _ => return failed .unreachable
  | .ok reply =>
    if reply.status.isSuccess then
      match reply.body.bind ProviderMetadata.decoder.ofOctets? with
      | some metadata =>
        return if metadata.tokenEndpoint = "" then failed .tokenEndpointMissing else .ok metadata
      | none => return failed .invalidMetadata
    else return failed (.status reply.status)

end EntityHub
