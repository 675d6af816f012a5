import EntityHub.Proofs.Auth.Exchange
import EntityHub.Token.Cache
/-!
# Secrets show in credentials only

Two runs of an authenticator with two secrets are compared step by step. `Agree` relates exchanges
that come to the same and leave the other side in states that are related again, and is closed under
sequence (`Agree.bind`), so it is enough to know it of a single request (`Http.agree_send`). The
states are related if they differ in the credentials of the logged requests only
(`Http.Peer.Twins`). Discovery and grant follow, then the strategies, then
`Authenticator.agree_authenticate`.

`Authenticator.secret_in_credential_only` adds that no diagnostic text shows a secret or the text of
a token.
-/

namespace EntityHub

open Http (Agent Draft Peer Reply Request)

/-! ## Settings -/

namespace AuthConfig

variable {c : AuthConfig} {x y : String}

/-- The settings with another client secret, if the strategy has one. -/
def withSecret (secret : String) : AuthConfig → AuthConfig
  | basic s => basic { s with clientSecret := secret }
  | clientCredentials s => clientCredentials { s with clientSecret := secret }
  | c => c

/-- The user whose password the client secret is, if the strategy has one. -/
def secretUser? : AuthConfig → Option String
  | basic s => some s.clientId
  | clientCredentials s => some s.clientId
  | _ => Option.none

theorem debug_withSecret (c : AuthConfig) (secret : String) :
    (c.withSecret secret).debug = c.debug := by
  cases c <;> rfl

theorem strategy_withSecret (c : AuthConfig) (secret : String) :
    (c.withSecret secret).strategy = c.strategy := by
  cases c <;> rfl

/-- Which fields are blank does not depend on a secret that is not. -/
theorem missingFields_withSecret (hx : trim x ≠ "") (hy : trim y ≠ "") :
    (c.withSecret x).missingFields = (c.withSecret y).missingFields := by
  have hx' : isBlank x = false := by rwa [← Bool.not_eq_true, isBlank_iff]
  have hy' : isBlank y = false := by rwa [← Bool.not_eq_true, isBlank_iff]
  cases c <;> simp [withSecret, missingFields, neededFields, List.filter_cons, hx', hy']

theorem validate_withSecret (hx : trim x ≠ "") (hy : trim y ≠ "") :
    (c.withSecret x).validate = (c.withSecret y).validate := by
  rw [validate, validate, missingFields_withSecret hx hy, strategy_withSecret, strategy_withSecret]

end AuthConfig

/-! ## Two runs -/

/-- From related states the computations come to the same, and leave related states. -/
def Agree {σ α : Type} (R : σ → σ → Prop) (f g : StateM σ α) : Prop :=
  ∀ p q, R p q → (f.run p).1 = (g.run q).1 ∧ R (f.run p).2 (g.run q).2

namespace Agree

variable {σ α β : Type} {R : σ → σ → Prop}

theorem pure (a : α) : Agree R (Pure.pure a) (Pure.pure a) :=
  fun _ _ h => ⟨rfl, h⟩

theorem bind {f g : StateM σ α} {k k' : α → StateM σ β} (h : Agree R f g)
    (hk : ∀ a, Agree R (k a) (k' a)) : Agree R (f >>= k) (g >>= k') := by
  intro p q hpq
  obtain ⟨hanswer, hstates⟩ := h p q hpq
  have hf : (f >>= k).run p = (k (f.run p).1).run (f.run p).2 := run_bind_of_run rfl k
  have hg : (g >>= k').run q = (k' (g.run q).1).run (g.run q).2 := run_bind_of_run rfl k'
  rw [hf, hg, ← hanswer]
  exact hk _ _ _ hstates

end Agree

namespace Http

variable {user : Option String} {x y : String} {log : List Request}

/-- The request with a user name and a password as its credential. -/
def Request.credited (user password : String) (r : Request) : Request :=
  { r with headers :=
    { r.headers with authorization := some (basicCredentials user (some password)) } }

/-- One request twice, or with the one secret and with the other as the password of the user. -/
inductive Request.Twins (user : Option String) (x y : String) : Request → Request → Prop
  | same (r : Request) : Twins user x y r r
  | credited {name : String} (r : Request) : user = some name →
      Twins user x y (r.credited name x) (r.credited name y)

theorem Request.Twins.url_eq {r s : Request} (h : Request.Twins user x y r s) : r.url = s.url := by
  cases h <;> rfl

/-- The credentials of twins stay behind alike. -/
theorem Request.Twins.redirected {r s : Request} (h : Request.Twins user x y r s) (status : Status)
    (place : Url) :
    Request.Twins user x y (r.redirected status place) (s.redirected status place) := by
  cases h with
  | same r => exact .same _
  | @credited name r huser =>
    have hredirected : ∀ secret, (r.credited name secret).redirected status place =
        { r.redirected status place with headers :=
          { (r.redirected status place).headers with
            authorization :=
              if r.url.sharesServer place then some (basicCredentials name (some secret))
              else none } } :=
      fun _ => rfl
    rw [hredirected, hredirected]
    split
    · exact .credited (r.redirected status place) huser
    · exact .same _

/-- States of the other side that differ in the credentials of the requests since `log` only. -/
structure Peer.Twins (log : List Request) (user : Option String) (x y : String) (p q : Peer) :
    Prop where
  reachable : p.reachable = q.reachable
  secure : p.secure = q.secure
  turns : p.turns = q.turns
  requests : ∃ l m, p.requests = log ++ l ∧ q.requests = log ++ m ∧
    List.Forall₂ (Request.Twins user x y) l m

theorem Peer.Twins.refl (user : Option String) (x y : String) (p : Peer) :
    Peer.Twins p.requests user x y p p :=
  ⟨rfl, rfl, rfl, [], [], by simp, by simp, .nil⟩

theorem Peer.Twins.after {p q : Peer} {r s : Request} (h : Peer.Twins log user x y p q)
    (hr : Request.Twins user x y r s) : Peer.Twins log user x y (p.after r) (q.after s) := by
  obtain ⟨l, m, hl, hm, hlm⟩ := h.requests
  refine ⟨h.reachable, h.secure, congrArg List.tail h.turns, l ++ [r], m ++ [s], ?_, ?_, ?_⟩
  · rw [Peer.after, hl, List.append_assoc]
  · rw [Peer.after, hm, List.append_assoc]
  · exact List.rel_append hlm (.cons hr .nil)

/-- Twin requests get through alike, and meet one turn. -/
theorem agree_meet {r s : Request} (hr : Request.Twins user x y r s) :
    Agree (Peer.Twins log user x y) (Peer.meet r) (Peer.meet s) := by
  intro p q h
  have haccepts : p.accepts r = q.accepts s := by
    rw [Peer.accepts, Peer.accepts, h.reachable, h.secure, hr.url_eq]
  have hturn : p.turn = q.turn := by
    rw [Peer.turn, Peer.turn, h.turns]
  rw [Peer.run_meet, Peer.run_meet, haccepts, hturn]
  split
  · exact ⟨rfl, h.after hr⟩
  · exact ⟨rfl, h⟩

/-- A turn redirects twin requests alike, to twin requests. -/
theorem Turn.redirected?_twins {r s : Request} (hr : Request.Twins user x y r s) (t : Turn) :
    Option.Rel (Request.Twins user x y) (t.redirected? r) (t.redirected? s) := by
  rcases t with ⟨reply, _ | place⟩ | _
  · exact .none
  · by_cases hcode : reply.status.redirects = true
    · rw [redirected?, redirected?, if_pos hcode, if_pos hcode]
      exact .some (hr.redirected reply.status place)
    · rw [redirected?, redirected?, if_neg hcode, if_neg hcode]
      exact .none
  · exact .none

theorem agree_sendWithin (n : Nat) {r s : Request} (hr : Request.Twins user x y r s) :
    Agree (Peer.Twins log user x y) (Peer.sendWithin n r) (Peer.sendWithin n s) := by
  induction n generalizing r s with
  | zero => exact .pure _
  | succ n ih =>
    refine (agree_meet hr).bind fun turn => ?_
    have hnext := Turn.redirected?_twins hr turn
    rcases hr' : turn.redirected? r with _ | r' <;> rcases hs' : turn.redirected? s with _ | s' <;>
      rw [hr', hs'] at hnext
    · exact .pure _
    · cases hnext
    · cases hnext
    · obtain ⟨htwins⟩ := hnext
      exact ih htwins

/-- Twin requests are answered alike, also if they are redirected. -/
theorem agree_send {r s : Request} (hr : Request.Twins user x y r s) :
    Agree (Peer.Twins log user x y) (Peer.send r) (Peer.send s) :=
  agree_sendWithin _ hr

/-- One draft twice, or with the one secret and with the other as the password of the user. -/
inductive Draft.Twins (user : Option String) (x y : String) : Draft → Draft → Prop
  | same (d : Draft) : Twins user x y d d
  | secretForm {name : String} (fields : List (String × String)) : user = some name →
      Twins user x y (Authenticator.secretForm name x fields)
        (Authenticator.secretForm name y fields)

theorem Draft.Twins.request {d e : Draft} (h : Draft.Twins user x y d e) (a : Agent) (u : Url) :
    Request.Twins user x y (a.request u d) (a.request u e) := by
  cases h with
  | same d => exact .same _
  | secretForm fields h => exact .credited (a.request u (Draft.form fields)) h

theorem agree_sendTo (a : Agent) (target : String) {d e : Draft} (h : Draft.Twins user x y d e) :
    Agree (Peer.Twins log user x y) (a.sendTo target d) (a.sendTo target e) := by
  unfold Agent.sendTo
  split
  · exact agree_send (h.request a _)
  · exact .pure _

end Http

/-! ## Diagnostic texts -/

/-- The text of a token is not shown. -/
theorem Token.debug_eq {t u : Token} (h : t.expiry = u.expiry) : t.debug = u.debug := by
  rw [debug, debug, h]

theorem TokenReply.debug_eq {r s : TokenReply} (htype : r.tokenType = s.tokenType)
    (hexpires : r.expiresIn = s.expiresIn) : r.debug = s.debug := by
  rw [debug, debug, htype, hexpires]

theorem StaticSource.debug_eq {s t : StaticSource} (h : s.token.expiry = t.token.expiry) :
    s.debug = t.debug := by
  rw [debug, debug, Token.debug_eq h]

theorem Token.map_debug_eq {t u : Option Token} (h : t.map expiry = u.map expiry) :
    t.map debug = u.map debug := by
  cases t with
  | none =>
    obtain rfl : u = none := Option.map_eq_none_iff.mp h.symm
    rfl
  | some t =>
    obtain ⟨u, rfl, hu⟩ := Option.map_eq_some_iff.mp h.symm
    exact congrArg some (debug_eq hu.symm)

theorem TokenCache.debug_eq {σ : Type} [TokenSource σ] {c d : TokenCache σ}
    (hstrategy : c.strategy = d.strategy) (hconfig : c.config = d.config)
    (hexpiry : c.token.map Token.expiry = d.token.map Token.expiry)
    (hrefreshes : c.refreshes = d.refreshes) : c.debug = d.debug := by
  rw [debug, debug, hstrategy, hconfig, Token.map_debug_eq hexpiry, hrefreshes]

/-! ## Authentication -/

section

variable {user : Option String} {x y : String} {log : List Request}

theorem agree_discover (agent : Agent) (authorizer : String) :
    Agree (Peer.Twins log user x y) (discover agent authorizer) (discover agent authorizer) := by
  refine (Http.agree_sendTo agent _ (.same _)).bind fun heard => ?_
  rcases heard with f | reply
  · exact .pure _
  · dsimp only
    split
    · split <;> exact .pure _
    · exact .pure _

end

namespace Authenticator

variable {user : Option String} {x y : String} {log : List Request} (a : Authenticator)

/-- The authenticator with another client secret, if its strategy has one. -/
def withSecret (secret : String) (a : Authenticator) : Authenticator :=
  { a with config := a.config.withSecret secret }

theorem agree_requestToken (url : String) {d e : Draft} (h : Http.Draft.Twins user x y d e) :
    Agree (Peer.Twins log user x y) (a.requestToken url d) (a.requestToken url e) := by
  refine (Http.agree_sendTo a.agent url h).bind fun heard => ?_
  rcases heard with f | reply
  · exact .pure _
  · dsimp only
    split
    · split <;> exact .pure _
    · exact .pure _

variable (now : Instant) (id : Nat)

theorem agree_basic (s : BasicAuth) :
    Agree (Peer.Twins log (some s.clientId) x y) (a.basic now { s with clientSecret := x })
      (a.basic now { s with clientSecret := y }) :=
  (a.agree_requestToken _ (.secretForm [grant] rfl)).bind fun _ => .pure _

theorem agree_clientCredentials (s : ClientCredentialsAuth) :
    Agree (Peer.Twins log (some s.clientId) x y)
      (a.clientCredentials now { s with clientSecret := x })
      (a.clientCredentials now { s with clientSecret := y }) := by
  refine (agree_discover a.agent s.authorizerUrl).bind fun found => ?_
  rcases found with f | metadata
  · exact .pure _
  · exact (a.agree_requestToken _ (.secretForm [grant, ("audience", s.audience)] rfl)).bind
      fun _ => .pure _

theorem agree_publicKeyJwt (s : PublicKeyJwtAuth) :
    Agree (Peer.Twins log user x y) (a.publicKeyJwt now id s) (a.publicKeyJwt now id s) := by
  unfold publicKeyJwt
  split
  · exact .pure _
  · exact (a.agree_requestToken _ (.same _)).bind fun _ => .pure _

/-- With two secrets that are not blank, authentication comes to the same. -/
theorem agree_authenticate (hx : trim x ≠ "") (hy : trim y ≠ "") :
    Agree (Peer.Twins log a.config.secretUser? x y) ((a.withSecret x).authenticate now id)
      ((a.withSecret y).authenticate now id) := by
  have hvalidate : (a.withSecret x).config.validate = (a.withSecret y).config.validate :=
    AuthConfig.validate_withSecret hx hy
  unfold authenticate
  rw [hvalidate]
  split
  · exact .pure _
  · obtain ⟨agent, serverUrl, config⟩ := a
    cases config with
    | none => exact .pure _
    | basic s => exact (agree_basic _ now s).bind fun _ => .pure _
    | clientCredentials s => exact (agree_clientCredentials _ now s).bind fun _ => .pure _
    | publicKeyJwt s => exact (agree_publicKeyJwt _ now id s).bind fun _ => .pure _
    | userFlow s => exact .pure _

/-- Whatever the other side answers, two secrets that are not blank make no difference but in the
credentials that are sent: the answer, which is a token or an error with all that it tells, is the
same, and so are the requests otherwise. Diagnostic texts show neither secrets nor the texts of
tokens. -/
theorem secret_in_credential_only (hx : trim x ≠ "") (hy : trim y ≠ "") (p : Peer) :
    ((((a.withSecret x).authenticate now id).run p).1 =
        (((a.withSecret y).authenticate now id).run p).1 ∧
      Peer.Twins p.requests a.config.secretUser? x y
        (((a.withSecret x).authenticate now id).run p).2
        (((a.withSecret y).authenticate now id).run p).2 ∧
      (a.config.withSecret x).debug = (a.config.withSecret y).debug ∧
      (a.withSecret x).debug = (a.withSecret y).debug) ∧
    (∀ t u : Token, t.expiry = u.expiry → t.debug = u.debug) ∧
    (∀ r s : TokenReply, r.tokenType = s.tokenType → r.expiresIn = s.expiresIn →
      r.debug = s.debug) ∧
    (∀ s t : StaticSource, s.token.expiry = t.token.expiry → s.debug = t.debug) ∧
    ∀ (σ : Type) [TokenSource σ] (c d : TokenCache σ), c.strategy = d.strategy →
      c.config = d.config → c.token.map Token.expiry = d.token.map Token.expiry →
      c.refreshes = d.refreshes → c.debug = d.debug := by
  obtain ⟨hanswer, htwins⟩ := a.agree_authenticate now id hx hy p p (.refl _ x y p)
  have hconfig : (a.config.withSecret x).debug = (a.config.withSecret y).debug := by
    rw [AuthConfig.debug_withSecret, AuthConfig.debug_withSecret]
  refine ⟨⟨hanswer, htwins, hconfig, ?_⟩, fun _ _ => Token.debug_eq,
    fun _ _ => TokenReply.debug_eq, fun _ _ => StaticSource.debug_eq,
    fun _ _ _ _ => TokenCache.debug_eq⟩
  rw [debug, debug, withSecret, withSecret, hconfig]

/-- A token is granted to either of two secrets, which make two requests that are not equal. -/
theorem secret_in_credential_only_granted :
    let a : Authenticator :=
      { serverUrl := "http://[::1]/", config := .basic { clientId := "u", clientSecret := "" } }
    let body := Utf8.encode (Json.Value.object [("access_token", .string "t")]).text
    let p : Peer := { turns := [.reply ⟨⟨200⟩, some body⟩] }
    let run (secret : String) := ((a.withSecret secret).authenticate .epoch 0).run p
    trim "x" ≠ "" ∧ trim "y" ≠ "" ∧ (run "x").1 = (run "y").1 ∧
      (run "x").1.toOption = some (some { accessToken := "t" }) ∧
      Peer.Twins [] (some "u") "x" "y" (run "x").2 (run "y").2 ∧
      (run "x").2.requests.length = 1 ∧ (run "x").2.requests ≠ (run "y").2.requests ∧
      Token.debug { accessToken := "x" } = Token.debug { accessToken := "y" } := by
  intro a body p run
  have hx : trim "x" ≠ "" := by decide
  have hy : trim "y" ≠ "" := by decide
  have hruns := secret_in_credential_only a .epoch 0 hx hy p
  exact ⟨hx, hy, hruns.1.1, by decide +kernel, hruns.1.2.1, by decide +kernel, by decide +kernel,
    hruns.2.1 _ _ rfl⟩

end Authenticator

end EntityHub
