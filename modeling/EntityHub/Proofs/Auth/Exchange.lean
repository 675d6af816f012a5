import EntityHub.Proofs.Client.Post
import Mathlib.Data.List.DropRight
/-!
# Exchanges for a token

What an authenticator sends, and what it makes of the replies. The requests that it tries are
listed with what is heard of each (`Http.Tries`). Discovery and the grant each come to an end that
one reply decides (`Discovered`, `Granted`), and a strategy is a list of such exchanges
(`Authenticator.Obtains`). `Authenticator.authenticate_conduct` puts it together, with the settings
that send nothing.
-/

namespace EntityHub

open Http (Agent Draft Exchange Peer Reply Request)

/-! ## Texts -/

theorem isBlank_iff (s : String) : isBlank s = true ↔ trim s = "" := by
  have hempty : trim s = "" ↔ (s.toList.dropWhile isWhiteSpace).rdropWhile isWhiteSpace = [] := by
    rw [trim, ← String.toList_inj, String.toList_ofList]
    rfl
  rw [hempty, List.rdropWhile_eq_nil_iff, ← List.dropWhile_eq_nil_iff, List.dropWhile_idempotent,
    List.dropWhile_eq_nil_iff, isBlank, List.all_eq_true]

namespace AuthConfig

variable {c : AuthConfig}

/-- No field that the strategy needs is blank. -/
def Complete (c : AuthConfig) : Prop := ∀ f ∈ c.neededFields, trim f.2 ≠ ""

theorem validate_eq_ok_iff_complete (c : AuthConfig) : c.validate = .ok () ↔ c.Complete := by
  simp only [validate_eq_ok_iff, Complete, ne_eq, ← isBlank_iff, Bool.not_eq_true]

theorem mem_missingFields {name : String} :
    name ∈ c.missingFields ↔ ∃ value, (name, value) ∈ c.neededFields ∧ trim value = "" := by
  simp [missingFields, isBlank_iff]

theorem of_validate_eq_error {e : Error} (h : c.validate = .error e) : c.missingFields ≠ [] ∧
    e = { problem := .missingFields c.strategy c.missingFields, strategy := some c.strategy } := by
  unfold validate at h
  split at h
  · cases h
  · rename_i hmissing
    exact ⟨fun hnil => hmissing (List.isEmpty_iff.mpr hnil), (Except.error.inj h).symm⟩

end AuthConfig

/-- A URL is made of a base without the slashes at its end, and of a path. -/
def Under (base path url : String) : Prop :=
  ∃ (stem : String) (n : Nat), base = stem ++ .ofList (.replicate n '/') ∧
    stem.toList.getLast? ≠ some '/' ∧ url = stem ++ path

theorem under_dropTrailingSlashes (base path : String) :
    Under base path (dropTrailingSlashes base ++ path) := by
  have hstem : (dropTrailingSlashes base).toList = base.toList.rdropWhile (· = '/') :=
    String.toList_ofList ..
  have hslashes : base.toList.rtakeWhile (· = '/') =
      .replicate (base.toList.rtakeWhile (· = '/')).length '/' := by
    refine List.eq_replicate_of_mem fun c hc => ?_
    simpa using List.mem_rtakeWhile_imp hc
  refine ⟨dropTrailingSlashes base, (base.toList.rtakeWhile (· = '/')).length, ?_, ?_, rfl⟩
  · rw [← String.toList_inj, String.toList_append, String.toList_ofList, hstem, ← hslashes,
      List.rdropWhile_append_rtakeWhile]
  · rw [hstem]
    intro hlast
    have hne : base.toList.rdropWhile (· = '/') ≠ [] := by
      rintro hnil
      rw [hnil] at hlast
      cases hlast
    rw [List.getLast?_eq_some_getLast hne, Option.some.injEq] at hlast
    exact List.rdropWhile_last_not (· = '/') base.toList hne (decide_eq_true hlast)

/-! ## Requests that are tried -/

namespace Http

/-- A request that is tried, with what is heard of it. -/
structure Try where
  target : String
  draft : Draft
  heard : Except Fault Reply

/-- What an agent tries one after another. What is tried of a target that is no URL gets lost.
Anything else is one request, and further ones only if replies redirect it. -/
inductive Tries (agent : Agent) : Peer → List Try → Peer → Prop
  | done {p : Peer} : Tries agent p [] p
  | lost {p q : Peer} {l : List Try} {target : String} {draft : Draft} {f : Url.Fault} :
      Url.ofText? target = .error f → Tries agent p l q →
      Tries agent p (⟨target, draft, .error .transport⟩ :: l) q
  | sent {p p' q : Peer} {l : List Try} {target : String} {draft : Draft} {u : Url}
      {sent : List Request} {heard : Except Fault Reply} : Url.ofText? target = .ok u →
      Exchange p (agent.request u draft) sent heard p' → Tries agent p' l q →
      Tries agent p (⟨target, draft, heard⟩ :: l) q

/-- What is sent to a target is one try. -/
theorem Agent.exists_try (agent : Agent) (target : String) (draft : Draft) (p : Peer) :
    ∃ heard q, (agent.sendTo target draft).run p = (heard, q) ∧
      ∀ {l r}, Tries agent q l r → Tries agent p (⟨target, draft, heard⟩ :: l) r := by
  unfold Agent.sendTo
  rcases hu : Url.ofText? target with f | u
  · exact ⟨.error .transport, p, rfl, .lost hu⟩
  · obtain ⟨sent, hsent⟩ := Peer.exists_exchange (agent.request u draft) p
    exact ⟨_, _, rfl, .sent hu hsent⟩

end Http

open Http (Try Tries)

/-! ## Discovery and grant -/

/-- What the reply to a request for metadata at `url` comes to. -/
inductive Discovered (url : String) :
    Except Fault Reply → Except AuthFailure ProviderMetadata → Prop
  | unreachable {f : Fault} : Discovered url (.error f) (.error (.discovery url .unreachable))
  | refused {reply : Reply} : ¬(200 ≤ reply.status.code ∧ reply.status.code < 300) →
      Discovered url (.ok reply) (.error (.discovery url (.status reply.status)))
  | unread {reply : Reply} : 200 ≤ reply.status.code ∧ reply.status.code < 300 →
      reply.body.bind ProviderMetadata.decoder.ofOctets? = none →
      Discovered url (.ok reply) (.error (.discovery url .invalidMetadata))
  | nameless {reply : Reply} {m : ProviderMetadata} :
      200 ≤ reply.status.code ∧ reply.status.code < 300 →
      reply.body.bind ProviderMetadata.decoder.ofOctets? = some m → m.tokenEndpoint = "" →
      Discovered url (.ok reply) (.error (.discovery url .tokenEndpointMissing))
  | found {reply : Reply} {m : ProviderMetadata} :
      200 ≤ reply.status.code ∧ reply.status.code < 300 →
      reply.body.bind ProviderMetadata.decoder.ofOctets? = some m → m.tokenEndpoint ≠ "" →
      Discovered url (.ok reply) (.ok m)

/-- What the reply to a request for a token at `url` comes to. -/
inductive Granted (url : String) : Except Fault Reply → Except AuthFailure TokenReply → Prop
  | unreachable {f : Fault} : Granted url (.error f) (.error (.network url))
  | refused {reply : Reply} : ¬(200 ≤ reply.status.code ∧ reply.status.code < 300) →
      Granted url (.ok reply) (.error (.grant url reply.status reply.text))
  | unread {reply : Reply} : 200 ≤ reply.status.code ∧ reply.status.code < 300 →
      reply.body.bind TokenReply.decoder.ofOctets? = none →
      Granted url (.ok reply) (.error (.invalidResponse url))
  | granted {reply : Reply} {r : TokenReply} :
      200 ≤ reply.status.code ∧ reply.status.code < 300 →
      reply.body.bind TokenReply.decoder.ofOctets? = some r → Granted url (.ok reply) (.ok r)

theorem exists_discovered (agent : Agent) (authorizer : String) (p : Peer) :
    ∃ heard x q, (discover agent authorizer).run p = (x, q) ∧
      Discovered (ProviderMetadata.url authorizer) heard x ∧ ∀ {l r}, Tries agent q l r →
        Tries agent p (⟨ProviderMetadata.url authorizer, { method := .get }, heard⟩ :: l) r := by
  obtain ⟨heard, q, hrun, htries⟩ :=
    agent.exists_try (ProviderMetadata.url authorizer) { method := .get } p
  suffices h : ∃ x, (discover agent authorizer).run p = (x, q) ∧
      Discovered (ProviderMetadata.url authorizer) heard x by
    obtain ⟨x, hx, hdiscovered⟩ := h
    exact ⟨heard, x, q, hx, hdiscovered, htries⟩
  unfold discover
  rw [run_bind_of_run hrun]
  rcases heard with f | reply
  · exact ⟨_, rfl, .unreachable⟩
  · by_cases hs : reply.status.isSuccess = true
    · have hcode := reply.status.isSuccess_iff.mp hs
      simp only [hs, if_true]
      rcases hm : reply.body.bind ProviderMetadata.decoder.ofOctets? with _ | m
      · exact ⟨_, rfl, .unread hcode hm⟩
      · by_cases hname : m.tokenEndpoint = ""
        · simp only [hname, if_true]
          exact ⟨_, rfl, .nameless hcode hm hname⟩
        · simp only [hname, if_false]
          exact ⟨_, rfl, .found hcode hm hname⟩
    · simp only [hs]
      exact ⟨_, rfl, .refused fun hcode => hs (reply.status.isSuccess_iff.mpr hcode)⟩

namespace Authenticator

variable (a : Authenticator)

theorem exists_granted (url : String) (draft : Draft) (p : Peer) :
    ∃ heard x q, (a.requestToken url draft).run p = (x, q) ∧ Granted url heard x ∧
      ∀ {l r}, Tries a.agent q l r → Tries a.agent p (⟨url, draft, heard⟩ :: l) r := by
  obtain ⟨heard, q, hrun, htries⟩ := a.agent.exists_try url draft p
  suffices h : ∃ x, (a.requestToken url draft).run p = (x, q) ∧ Granted url heard x by
    obtain ⟨x, hx, hgranted⟩ := h
    exact ⟨heard, x, q, hx, hgranted, htries⟩
  unfold requestToken
  rw [run_bind_of_run hrun]
  rcases heard with f | reply
  · exact ⟨_, rfl, .unreachable⟩
  · by_cases hs : reply.status.isSuccess = true
    · have hcode := reply.status.isSuccess_iff.mp hs
      simp only [hs, if_true]
      rcases hr : reply.body.bind TokenReply.decoder.ofOctets? with _ | r
      · exact ⟨_, rfl, .unread hcode hr⟩
      · exact ⟨_, rfl, .granted hcode hr⟩
    · simp only [hs]
      exact ⟨_, rfl, .refused fun hcode => hs (reply.status.isSuccess_iff.mpr hcode)⟩

/-! ## Strategies -/

/-- A form that is posted with a client identifier and its secret. -/
def secretForm (clientId clientSecret : String) (fields : List (String × String)) : Draft :=
  { Draft.form fields with
    authorization := some (Http.basicCredentials clientId (some clientSecret)) }

/-- What is tried for a token by settings that ask for one, and what that comes to. -/
inductive Obtains (now : Instant) (id : Nat) : List Try → Except AuthFailure Token → Prop
  | basic {s : BasicAuth} {url : String} {heard : Except Fault Reply}
      {x : Except AuthFailure TokenReply} :
      a.config = .basic s → Under (s.authorizerUrl.getD a.serverUrl) "/security/token" url →
      Granted url heard x →
      Obtains now id
        [⟨url, secretForm s.clientId s.clientSecret [("grant_type", "client_credentials")], heard⟩]
        (x.map (·.toToken now))
  /-- The provider does not tell where its token endpoint is, so no token is asked for. -/
  | undiscovered {s : ClientCredentialsAuth} {url : String} {heard : Except Fault Reply}
      {f : AuthFailure} :
      a.config = .clientCredentials s →
      Under s.authorizerUrl "/.well-known/openid-configuration" url →
      Discovered url heard (.error f) →
      Obtains now id [⟨url, { method := .get }, heard⟩] (.error f)
  | clientCredentials {s : ClientCredentialsAuth} {url : String} {heard heard' : Except Fault Reply}
      {m : ProviderMetadata} {x : Except AuthFailure TokenReply} :
      a.config = .clientCredentials s →
      Under s.authorizerUrl "/.well-known/openid-configuration" url →
      Discovered url heard (.ok m) → Granted m.tokenEndpoint heard' x →
      Obtains now id
        [⟨url, { method := .get }, heard⟩,
          ⟨m.tokenEndpoint, secretForm s.clientId s.clientSecret
            [("grant_type", "client_credentials"), ("audience", s.audience)], heard'⟩]
        (x.map (·.toToken now))
  | unsigned {s : PublicKeyJwtAuth} {f : AssertionFault} :
      a.config = .publicKeyJwt s →
      (Claims.issuedAt s.clientId s.audience now (Uuid.text id)).sign? s.privateKey = .error f →
      Obtains now id [] (.error (.assertion f.problem f.fault))
  /-- The token has no expiry, whatever the reply says. -/
  | publicKeyJwt {s : PublicKeyJwtAuth} {url assertion : String} {heard : Except Fault Reply}
      {x : Except AuthFailure TokenReply} :
      a.config = .publicKeyJwt s →
      (Claims.issuedAt s.clientId s.audience now (Uuid.text id)).sign? s.privateKey =
        .ok assertion →
      Under (s.authorizerUrl.getD a.serverUrl) "/security/token" url → Granted url heard x →
      Obtains now id
        [⟨url, Draft.form [("grant_type", "client_credentials"),
          ("client_assertion_type", "urn:ietf:params:oauth:grant-type:jwt-bearer"),
          ("client_assertion", assertion)], heard⟩]
        (x.map fun r => { accessToken := r.accessToken })

variable (now : Instant) (id : Nat) (p : Peer)

theorem exists_basic {s : BasicAuth} (hconfig : a.config = .basic s) :
    ∃ l x q, (a.basic now s).run p = (x, q) ∧ a.Obtains now id l x ∧ Tries a.agent p l q := by
  obtain ⟨heard, x, q, hrun, hgranted, htries⟩ := a.exists_granted (a.tokenUrl s.authorizerUrl)
    (secretForm s.clientId s.clientSecret [("grant_type", "client_credentials")]) p
  refine ⟨_, _, q, run_bind_of_run hrun _, ?_, htries .done⟩
  exact .basic hconfig (under_dropTrailingSlashes _ _) hgranted

theorem exists_clientCredentials {s : ClientCredentialsAuth}
    (hconfig : a.config = .clientCredentials s) :
    ∃ l x q, (a.clientCredentials now s).run p = (x, q) ∧ a.Obtains now id l x ∧
      Tries a.agent p l q := by
  obtain ⟨heard, x, q, hrun, hdiscovered, htries⟩ :=
    exists_discovered a.agent s.authorizerUrl p
  have hunder : Under s.authorizerUrl "/.well-known/openid-configuration"
      (ProviderMetadata.url s.authorizerUrl) := under_dropTrailingSlashes _ _
  unfold clientCredentials
  rw [run_bind_of_run hrun]
  rcases x with f | m
  · exact ⟨_, _, q, rfl, .undiscovered hconfig hunder hdiscovered, htries .done⟩
  · obtain ⟨heard', x, q', hrun', hgranted, htries'⟩ := a.exists_granted m.tokenEndpoint
      (secretForm s.clientId s.clientSecret
        [("grant_type", "client_credentials"), ("audience", s.audience)]) q
    refine ⟨_, _, q', run_bind_of_run hrun' _, ?_, htries (htries' .done)⟩
    exact .clientCredentials hconfig hunder hdiscovered hgranted

theorem exists_publicKeyJwt {s : PublicKeyJwtAuth} (hconfig : a.config = .publicKeyJwt s) :
    ∃ l x q, (a.publicKeyJwt now id s).run p = (x, q) ∧ a.Obtains now id l x ∧
      Tries a.agent p l q := by
  unfold publicKeyJwt
  rcases hsign : (Claims.issuedAt s.clientId s.audience now (Uuid.text id)).sign? s.privateKey with
    f | assertion
  · exact ⟨[], _, p, rfl, .unsigned hconfig hsign, .done⟩
  · obtain ⟨heard, x, q, hrun, hgranted, htries⟩ := a.exists_granted (a.tokenUrl s.authorizerUrl)
      (.form [("grant_type", "client_credentials"), ("client_assertion_type", assertionType),
        ("client_assertion", assertion)]) p
    refine ⟨_, _, q, run_bind_of_run hrun _, ?_, htries .done⟩
    exact .publicKeyJwt hconfig hsign (under_dropTrailingSlashes _ _) hgranted

/-! ## Authentication -/

/-- What an authenticator comes to that sends nothing. -/
inductive Rests : TokenAnswer → Prop
  /-- Needed fields are blank, and all of them are named. -/
  | incomplete {names : List String} {e : Error} : names ≠ [] →
      (∀ name, name ∈ names ↔ ∃ value, (name, value) ∈ a.config.neededFields ∧ trim value = "") →
      e.problem = .missingFields a.config.strategy names → e.kind = .configuration →
      e.strategy = some a.config.strategy → Rests (.error e)
  | needless : a.config = .none → Rests (.ok none)
  | unsupported {s : UserFlowAuth} {e : Error} : a.config = .userFlow s → a.config.Complete →
      e.kind = .notImplemented → e.strategy = some a.config.strategy → Rests (.error e)

/-- An authenticator that does not wait for a reply leaves the other side alone. -/
theorem rests_of_not_waits (h : a.waits = false) :
    ∃ x, (a.authenticate now id).run p = (x, p) ∧ a.Rests x := by
  unfold authenticate
  unfold waits at h
  rcases hvalidate : a.config.validate with e | _
  · obtain ⟨hmissing, rfl⟩ := AuthConfig.of_validate_eq_error hvalidate
    exact ⟨_, rfl, .incomplete hmissing (fun _ => AuthConfig.mem_missingFields) rfl rfl rfl⟩
  · have hcomplete := a.config.validate_eq_ok_iff_complete.mp hvalidate
    rcases hconfig : a.config with _ | s | s | s | s <;> rw [hvalidate, hconfig] at h
    case none => exact ⟨_, rfl, .needless hconfig⟩
    case userFlow => exact ⟨_, rfl, .unsupported hconfig hcomplete rfl (by rw [hconfig])⟩
    all_goals cases h

/-- An authenticator that waits for a reply comes to what its strategy does. -/
theorem exists_obtains_of_waits (h : a.waits = true) :
    a.config.Complete ∧ ∃ l x q, (a.authenticate now id).run p = (a.ofExchange x, q) ∧
      a.Obtains now id l x ∧ Tries a.agent p l q := by
  unfold authenticate
  unfold waits at h
  rcases hvalidate : a.config.validate with e | _
  · rw [hvalidate] at h
    cases h
  · refine ⟨a.config.validate_eq_ok_iff_complete.mp hvalidate, ?_⟩
    rcases hconfig : a.config with _ | s | s | s | s <;> rw [hvalidate, hconfig] at h
    case basic =>
      obtain ⟨l, x, q, hrun, hobtains, htries⟩ := a.exists_basic now id p hconfig
      exact ⟨l, x, q, run_bind_of_run hrun _, hobtains, htries⟩
    case clientCredentials =>
      obtain ⟨l, x, q, hrun, hobtains, htries⟩ := a.exists_clientCredentials now id p hconfig
      exact ⟨l, x, q, run_bind_of_run hrun _, hobtains, htries⟩
    case publicKeyJwt =>
      obtain ⟨l, x, q, hrun, hobtains, htries⟩ := a.exists_publicKeyJwt now id p hconfig
      exact ⟨l, x, q, run_bind_of_run hrun _, hobtains, htries⟩
    all_goals cases h

/-- What an authenticator has tried and has come to. -/
inductive Conduct : List Try → TokenAnswer → Prop
  | rests {x : TokenAnswer} : a.Rests x → Conduct [] x
  | obtained {l : List Try} {t : Token} : a.config.Complete → a.Obtains now id l (.ok t) →
      Conduct l (.ok (some t))
  /-- The error keeps the failure, which names the exchange that has failed. -/
  | failed {l : List Try} {f : AuthFailure} {e : Error} : a.config.Complete →
      a.Obtains now id l (.error f) → e.kind = .authentication →
      e.strategy = some a.config.strategy → e.cause = some (.failure f) → Conduct l (.error e)

/-- An authenticator does what its settings say, whatever the other side answers. It tries nothing
without a strategy that asks for a token, or if needed fields are blank. Otherwise it tries what its
strategy tries, and its error keeps the failure of the exchange that went wrong. -/
theorem authenticate_conduct : ∃ l,
    Tries a.agent p l ((a.authenticate now id).run p).2 ∧
      a.Conduct now id l ((a.authenticate now id).run p).1 := by
  rcases hwaits : a.waits with _ | _
  · obtain ⟨x, hrun, hrests⟩ := a.rests_of_not_waits now id p hwaits
    rw [hrun]
    exact ⟨[], .done, .rests hrests⟩
  · obtain ⟨hcomplete, l, x, q, hrun, hobtains, htries⟩ :=
      a.exists_obtains_of_waits now id p hwaits
    rw [hrun]
    refine ⟨l, htries, ?_⟩
    rcases x with f | t
    · exact .failed hcomplete hobtains rfl rfl rfl
    · exact .obtained hcomplete hobtains

section

/-- An authenticator with a user and a password. -/
def knocker (authorizerUrl : Option String) : Authenticator where
  serverUrl := "http://[::1]/"
  config := .basic { clientId := "u", clientSecret := "s", authorizerUrl }

/-- A reply that grants a token. -/
def grantTurn : Http.Turn :=
  .reply ⟨⟨200⟩, some (Utf8.encode (Json.Value.object [("access_token", .string "t")]).text)⟩

/-- A token is asked for once, and granted. -/
theorem authenticate_conduct_granted :
    let run := ((knocker none).authenticate .epoch 0).run { turns := [grantTurn] }
    (∃ l, Tries {} { turns := [grantTurn] } l run.2 ∧ (knocker none).Conduct .epoch 0 l run.1) ∧
    run.1.toOption = some (some { accessToken := "t" }) ∧
    run.2.requests.map (fun r => (r.method, r.url.text, r.headers.authorization)) =
      [(.post, "http://[::1]/security/token", some "Basic dTpz")] :=
  ⟨(knocker none).authenticate_conduct .epoch 0 { turns := [grantTurn] }, by decide +kernel,
    by decide +kernel⟩

/-- Nothing at all is posted to what is no URL, and something twice if the first post is redirected.
The reply to that one does not count then, although it is no success. -/
theorem authenticate_conduct_moved :
    let place : Url := { scheme := "http", host := some (.domain "h"), path := .segments ["moved"] }
    let p : Peer := { turns := [.reply ⟨⟨307⟩, some []⟩ (some place), grantTurn] }
    let run (authorizerUrl : Option String) :=
      ((knocker authorizerUrl).authenticate .epoch 0).run p
    let posts (authorizerUrl : Option String) :=
      (run authorizerUrl).2.requests.filter (·.method = .post)
    (knocker (some "no url")).config.validate.toOption.isSome ∧
    ¬(posts (some "no url")).length = 1 ∧
    (knocker none).config.validate.toOption.isSome ∧
    ¬(posts none).length = 1 ∧
    (run none).1.toOption = some (some { accessToken := "t" }) :=
  ⟨by decide +kernel, by decide +kernel, by decide +kernel, by decide +kernel, by decide +kernel⟩

end

end Authenticator

end EntityHub
