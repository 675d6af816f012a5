import EntityHub.Client.Basic
import EntityHub.Proofs.Http.Exchange
/-!
# Posts

What a post does to a client and to the other side. Before anything is sent, the URL is built and a
token is seen to, which may take requests of its own. Then a request is sent (`Client.posting`):
`Client.postValue_of_posting` says what comes of it, `Client.postValue_of_none` that the post fails
if it does not get that far.
-/

namespace EntityHub

open Http (Peer Reply Request)
open Json (Value)

namespace Client

variable {τ : Type}

/-- The request that a draft makes of a URL, with a header that shows a token. -/
def requestOf (u : Url) (authorization : Option String) (draft : Http.Draft) (c : Client τ) :
    Request :=
  c.agent.request u { draft with
    authorization, contentType := some Http.jsonType, accept := Http.jsonType }

/-- The request by which a value is posted. -/
def postOf (u : Url) (authorization : Option String) (v : Value) (c : Client τ) : Request :=
  c.agent.request u
    { method := .post, body := Utf8.encode v.text, authorization,
      contentType := some Http.jsonType, accept := Http.jsonType }

@[simp] theorem postOf_method (u : Url) (authorization : Option String) (v : Value)
    (c : Client τ) : (c.postOf u authorization v).method = .post :=
  rfl

@[simp] theorem postOf_url (u : Url) (authorization : Option String) (v : Value) (c : Client τ) :
    (c.postOf u authorization v).url = u.sent :=
  rfl

@[simp] theorem postOf_body (u : Url) (authorization : Option String) (v : Value) (c : Client τ) :
    (c.postOf u authorization v).body = Utf8.encode v.text :=
  rfl

theorem run_transmit (u : Url) (draft : Http.Draft) (c : Client τ) :
    (transmit u draft).run.run c = (.ok (c.peer.heard (c.agent.request u draft)),
      c.withPeer (c.peer.asked (c.agent.request u draft))) :=
  rfl

variable [TokenSource τ] {now : Instant} {c : Client τ} {path : String} {v : Value} {r : Request}

/-! ## Before a request -/

/-- The client once a token was seen to. -/
def authenticated (now : Instant) (c : Client τ) : Client τ :=
  { c with tokens := (c.tokens.ensure now).2 }

/-- The header that shows the token. -/
def authorization (now : Instant) (c : Client τ) : Except Error (Option String) :=
  ((authorize now).run.run c).1

theorem run_authenticate (now : Instant) (c : Client τ) :
    (authenticate now).run.run c = ((c.tokens.ensure now).1, c.authenticated now) :=
  run_ofExcept (c.tokens.ensure now).1 _

theorem run_authorize (now : Instant) (c : Client τ) :
    (authorize now).run.run c = (c.authorization now, c.authenticated now) := by
  refine Prod.ext rfl ?_
  rw [authorize, run_bind, run_authenticate]
  rcases (c.tokens.ensure now).1 with e | _ | t
  · rfl
  · rfl
  · simp only
    split <;> rfl

/-- The client when a request to a path is ready to be sent. -/
def ready (now : Instant) (path : String) (c : Client τ) : Client τ :=
  match c.requestUrl path with
  | .ok _ => c.authenticated now
  | .error _ => c

/-! ## The request -/

/-- The request by which a value is posted to a path, if it gets that far. -/
def posting (now : Instant) (path : String) (v : Value) (c : Client τ) : Option Request :=
  match c.requestUrl path, c.authorization now with
  | .ok u, .ok authorization => some (c.postOf u authorization v)
  | _, _ => none

theorem posting_of_ok {u : Url} {authorization : Option String} (hu : c.requestUrl path = .ok u)
    (ha : c.authorization now = .ok authorization) :
    posting now path v c = some (c.postOf u authorization v) := by
  rw [posting, hu, ha]

theorem posting_of_url_error {e : Error} (hu : c.requestUrl path = .error e) :
    posting now path v c = none := by
  rw [posting, hu]

theorem posting_of_authorization_error {e : Error} (ha : c.authorization now = .error e) :
    posting now path v c = none := by
  rw [posting, ha]
  cases c.requestUrl path <;> rfl

/-! ## Sending -/

theorem run_send (now : Instant) (purpose : Purpose) (u : Url) (draft : Http.Draft)
    (c : Client τ) : (send now purpose u draft).run.run c = match c.authorization now with
      | .error e => (.error e, c.authenticated now)
      | .ok authorization =>
        let r := c.requestOf u authorization draft
        (bodyOf purpose ((c.authenticated now).peer.heard r),
          (c.authenticated now).withPeer ((c.authenticated now).peer.asked r)) := by
  rw [send, run_bind, run_authorize]
  rcases c.authorization now with e | authorization
  · rfl
  · simp only
    rw [run_bind, run_transmit]
    exact run_ofExcept _ _

theorem run_send_post (now : Instant) (purpose : Purpose) (u : Url) (v : Value) (c : Client τ) :
    (send now purpose u { method := .post, body := Utf8.encode v.text }).run.run c =
      match c.authorization now with
      | .error e => (.error e, c.authenticated now)
      | .ok authorization =>
        let r := c.postOf u authorization v
        (bodyOf purpose ((c.authenticated now).peer.heard r),
          (c.authenticated now).withPeer ((c.authenticated now).peer.asked r)) :=
  run_send now purpose u _ c

theorem run_postValue (now : Instant) (purpose : Purpose) (path : String) (v : Value)
    (c : Client τ) : (postValue now purpose path v).run.run c = match c.requestUrl path with
      | .error e => (.error e, c)
      | .ok u =>
        (send now purpose u { method := .post, body := Utf8.encode v.text }).run.run c := by
  have hget : (get : ClientAction τ (Client τ)).run.run c = (.ok c, c) := rfl
  rw [postValue, run_bind, hget]
  simp only
  rw [run_bind, run_ofExcept]
  rcases c.requestUrl path with e | u <;> rfl

/-- A post comes to what is heard of its request. -/
theorem postValue_of_posting (purpose : Purpose) (h : posting now path v c = some r) :
    (postValue now purpose path v).run.run c =
      (bodyOf purpose ((c.authenticated now).peer.heard r),
        (c.authenticated now).withPeer ((c.authenticated now).peer.asked r)) := by
  rw [run_postValue]
  rw [posting] at h
  rcases hu : c.requestUrl path with e | u <;> simp only [hu] at h ⊢
  · cases h
  · rw [run_send_post]
    rcases ha : c.authorization now with e | authorization <;> simp only [ha] at h ⊢
    · cases h
    · obtain rfl := Option.some.inj h
      rfl

/-- A post without a request fails. -/
theorem postValue_of_none (purpose : Purpose) (h : posting now path v c = none) :
    ∃ e, (postValue now purpose path v).run.run c = (.error e, c.ready now path) := by
  rw [run_postValue, ready]
  rw [posting] at h
  rcases hu : c.requestUrl path with e | u <;> simp only [hu] at h ⊢
  · exact ⟨e, rfl⟩
  · rw [run_send_post]
    rcases ha : c.authorization now with e | authorization <;> simp only [ha] at h ⊢
    · exact ⟨e, rfl⟩
    · cases h

end Client

end EntityHub
