import EntityHub.Proofs.Client.Post
import EntityHub.Proofs.Url.Authority
/-!
# Plans

Whatever a client is asked for is prepared without a token. It comes to a result, without anything
being sent, or to an errand (`Client.Plan`): one request that waits for a token. What becomes of an
errand depends on the answer of the call for a token and on the client as it is then
(`Client.Errand.deliver`). Every errand is gated (`Client.Errand.gated`): without a token to show,
or without the answer that none is needed, it sends nothing.
-/

namespace EntityHub

open Http (Draft Exchange Peer Request)

/-- A URL without name and password authorizes nothing by itself. -/
theorem Url.credentials?_eq_none {u : Url} (hname : u.username = "")
    (hpassword : u.password = none) : u.credentials? = none := by
  have hempty : decoded? "" = some "" := by
    have hread : Percent.decode [] = [] := by rw [Percent.decode]
    have hencode : Utf8.encode "" = [] := rfl
    rw [decoded?, hencode, hread]
    rfl
  rw [credentials?, hname, hpassword, hempty]
  rfl

namespace Client

variable {τ α β : Type}

/-! ## Errands -/

/-- The error of a token that no header can show. -/
def unfitToken (strategy : AuthStrategy) : Error where
  problem := .accessTokenFormat
  strategy := some strategy
  cause := some (.fault .headerValue)

/-- The header that shows what a call for a token has come to. -/
def headerFor (strategy : AuthStrategy) : TokenAnswer → Except Error (Option String)
  | .error e => .error e
  | .ok none => .ok none
  | .ok (some t) =>
    if Http.isHeaderValue (Http.bearerCredentials t.accessToken) then
      .ok (some (Http.bearerCredentials t.accessToken))
    else .error (unfitToken strategy)

theorem headerFor_of_fit {t : Token} (strategy : AuthStrategy)
    (h : Http.isHeaderValue ("Bearer " ++ t.accessToken) = true) :
    headerFor strategy (.ok (some t)) = .ok (some ("Bearer " ++ t.accessToken)) :=
  if_pos h

theorem headerFor_of_unfit {t : Token} (strategy : AuthStrategy)
    (h : Http.isHeaderValue ("Bearer " ++ t.accessToken) = false) :
    headerFor strategy (.ok (some t)) = .error (unfitToken strategy) :=
  if_neg (Bool.eq_false_iff.mp h)

/-- A request that waits for a token, and how the body of its reply is read. -/
structure Errand (α : Type) where
  purpose : Purpose
  url : Url
  draft : Draft
  read : List UInt8 → Except Error α

namespace Errand

/-- The errand with something more done to what was read. -/
def andThen (g : Errand α) (f : α → Except Error β) : Errand β where
  purpose := g.purpose
  url := g.url
  draft := g.draft
  read l := (g.read l).bind f

variable [TokenSource τ]

/-- What becomes of an errand once the call for a token has come to an answer. -/
def deliver (g : Errand α) (answer : TokenAnswer) (c : Client τ) : Except Error α × Client τ :=
  match headerFor c.strategy answer with
  | .error e => (.error e, c)
  | .ok authorization =>
    let r := c.requestOf g.url authorization g.draft
    ((bodyOf g.purpose (c.peer.heard r)).bind g.read, c.withPeer (c.peer.asked r))

/-- Without a header to show, nothing is sent. -/
theorem deliver_of_error {g : Errand α} {answer : TokenAnswer} {c : Client τ} {e : Error}
    (h : headerFor c.strategy answer = .error e) : g.deliver answer c = (.error e, c) := by
  rw [deliver, h]

/-- With a header to show, or with none needed, the request is sent. -/
theorem exists_deliver_of_ok {g : Errand α} {answer : TokenAnswer} {c : Client τ}
    {authorization : Option String} (h : headerFor c.strategy answer = .ok authorization) :
    ∃ sent heard peer, Exchange c.peer (c.requestOf g.url authorization g.draft) sent heard peer ∧
      g.deliver answer c = ((bodyOf g.purpose heard).bind g.read, c.withPeer peer) := by
  obtain ⟨sent, hsent⟩ := Peer.exists_exchange (c.requestOf g.url authorization g.draft) c.peer
  refine ⟨sent, _, _, hsent, ?_⟩
  rw [deliver, h]

theorem deliver_andThen (g : Errand α) (f : α → Except Error β) (answer : TokenAnswer)
    (c : Client τ) :
    (g.andThen f).deliver answer c = ((g.deliver answer c).1.bind f, (g.deliver answer c).2) := by
  have hbind : ∀ x : Except Error (List UInt8),
      x.bind (g.andThen f).read = (x.bind g.read).bind f := by
    intro x
    cases x <;> rfl
  rw [deliver, deliver]
  rcases headerFor c.strategy answer with e | authorization
  · rfl
  · simp only [hbind]
    rfl

/-- An errand that waits for its token. The client is the one of that time, whatever was done with
it in the meantime. -/
structure Gated (g : Errand α) (c : Client τ) : Prop where
  /-- If there is an error in place of a token, it is the result, and nothing is sent. -/
  failed : ∀ e, g.deliver (.error e) c = (.error e, c)
  /-- Nothing is sent with a token that cannot be shown. -/
  unfit : ∀ t : Token, Http.isHeaderValue ("Bearer " ++ t.accessToken) = false →
    ∃ e, g.deliver (.ok (some t)) c = (.error e, c) ∧ e.kind = .authentication ∧
      e.strategy = some c.strategy
  /-- Otherwise one request is sent, which shows the token, and none if there is none. -/
  shown : ∀ token : Option Token,
    (∀ t ∈ token, Http.isHeaderValue ("Bearer " ++ t.accessToken) = true) →
    ∃ r sent heard peer,
      r.headers.authorization = token.map (fun t => "Bearer " ++ t.accessToken) ∧
      Exchange c.peer r sent heard peer ∧ (g.deliver (.ok token) c).2 = c.withPeer peer

theorem gated {g : Errand α} (hname : g.url.username = "") (hpassword : g.url.password = none)
    (c : Client τ) : g.Gated c := by
  refine ⟨fun e => rfl, fun t ht => ?_, fun token htoken => ?_⟩
  · exact ⟨_, deliver_of_error (headerFor_of_unfit c.strategy ht), rfl, rfl⟩
  · have hheader : headerFor c.strategy (.ok token) =
        .ok (token.map fun t => "Bearer " ++ t.accessToken) := by
      rcases token with _ | t
      · rfl
      · exact headerFor_of_fit c.strategy (htoken t rfl)
    obtain ⟨sent, heard, peer, hsent, hdeliver⟩ := exists_deliver_of_ok (g := g) hheader
    refine ⟨_, sent, heard, peer, ?_, hsent, congrArg Prod.snd hdeliver⟩
    rw [requestOf, Http.Agent.request, Url.credentials?_eq_none hname hpassword, Option.map_none,
      Option.or_none]

end Errand

/-! ## Plans -/

/-- What is asked of a client, before a token is seen to. -/
inductive Plan (α : Type) where
  /-- Nothing has to be sent, or nothing can be. -/
  | settled (x : Except Error α)
  | send (g : Errand α)

namespace Plan

/-- The plan with something more done to its result. -/
def andThen (f : α → Except Error β) : Plan α → Plan β
  | .settled x => .settled (x.bind f)
  | .send g => .send (g.andThen f)

/-- A plan that is made after a check. -/
def checked (x : Except Error α) (p : α → Plan β) : Plan β :=
  match x with
  | .ok a => p a
  | .error e => .settled (.error e)

variable [TokenSource τ]

/-- Carries a plan out: an errand is delivered after a token was seen to. -/
def carry (now : Instant) (c : Client τ) : Plan α → Except Error α × Client τ
  | .settled x => (x, c)
  | .send g => g.deliver (c.tokens.ensure now).1 (c.authenticated now)

theorem carry_andThen (now : Instant) (c : Client τ) (p : Plan α) (f : α → Except Error β) :
    (p.andThen f).carry now c = ((p.carry now c).1.bind f, (p.carry now c).2) := by
  cases p with
  | settled x => rfl
  | send g => exact g.deliver_andThen f _ _

end Plan

/-- The plan of a request to a path. -/
def toward (c : Client τ) (purpose : Purpose) (path : String) (draft : Draft) : Plan (List UInt8) :=
  .checked (c.requestUrl path) fun u => .send { purpose, url := u, draft, read := .ok }

/-! ## The program -/

section Program

variable [TokenSource τ]

theorem authorization_eq (now : Instant) (c : Client τ) : c.authorization now =
    headerFor (c.authenticated now).strategy (c.tokens.ensure now).1 := by
  rw [authorization, authorize, run_bind, run_authenticate]
  rcases (c.tokens.ensure now).1 with e | _ | t
  · rfl
  · rfl
  · simp only [headerFor]
    split <;> rfl

/-- What is sent is an errand that is delivered after a token was seen to. -/
theorem run_send_eq_deliver (now : Instant) (purpose : Purpose) (u : Url) (draft : Draft)
    (c : Client τ) : (send now purpose u draft).run.run c =
      Errand.deliver { purpose, url := u, draft, read := .ok } (c.tokens.ensure now).1
        (c.authenticated now) := by
  have hbind : ∀ x : Except Error (List UInt8), x.bind .ok = x := by
    intro x
    cases x <;> rfl
  rw [run_send, authorization_eq, Errand.deliver]
  rcases headerFor (c.authenticated now).strategy (c.tokens.ensure now).1 with e | authorization
  · rfl
  · simp only [hbind]
    rfl

theorem run_getBody (now : Instant) (purpose : Purpose) (path : String)
    (pairs : List (String × String)) (c : Client τ) :
    (getBody now purpose path pairs).run.run c =
      (c.toward purpose path { method := .get, pairs := some pairs }).carry now c := by
  have hget : (get : ClientAction τ (Client τ)).run.run c = (.ok c, c) := rfl
  rw [getBody, run_bind, hget]
  simp only
  rw [run_bind, run_ofExcept, toward]
  rcases c.requestUrl path with e | u
  · rfl
  · exact run_send_eq_deliver now purpose u _ c

theorem run_postValue_eq_carry (now : Instant) (purpose : Purpose) (path : String) (v : Json.Value)
    (c : Client τ) : (postValue now purpose path v).run.run c =
      (c.toward purpose path { method := .post, body := Utf8.encode v.text }).carry now c := by
  rw [run_postValue, toward]
  rcases c.requestUrl path with e | u
  · rfl
  · exact run_send_eq_deliver now purpose u _ c

/-- What is done to a result that an action gives is done to the result of its plan. -/
theorem run_bind_ofExcept {a : ClientAction τ α} {p : Plan α} {now : Instant} {c : Client τ}
    (h : a.run.run c = p.carry now c) (f : α → Except Error β) :
    (a >>= fun x => MonadExcept.ofExcept (f x)).run.run c = (p.andThen f).carry now c := by
  rw [run_bind, h, Plan.carry_andThen]
  rcases p.carry now c with ⟨e | x, c'⟩
  · rfl
  · exact run_ofExcept (f x) c'

theorem run_checked {a : β → ClientAction τ α} {p : β → Plan α} {now : Instant} {c : Client τ}
    (x : Except Error β) (h : ∀ y, (a y).run.run c = (p y).carry now c) :
    (MonadExcept.ofExcept x >>= a).run.run c = (Plan.checked x p).carry now c := by
  rw [run_bind, run_ofExcept]
  rcases x with e | y
  · rfl
  · exact h y

end Program

end Client

end EntityHub
