import EntityHub.Http.Peer
import EntityHub.Proofs.Failure
/-!
# Exchanges

What comes of a request that is sent: which requests reach the other side, and what is heard at the
end. The request is the first of them, if it gets through, and any further one is what the reply to
the one before makes of it by a redirection (`Http.Course`).

An `Http.Exchange` is such a course with ten redirections at most, and tells what all requests have
of the first one. `Peer.exists_exchange` says that to send a request is an exchange.
-/

namespace EntityHub.Http

variable {n : Nat} {p q : Peer} {r s : Request} {sent : List Request} {x : Except Fault Reply}

/-! ## Redirected requests -/

/-- What a request has of the one that it comes from. It shows the same credentials or none, and if
it posts something, it is what the other one posts. -/
structure Request.Onward (r s : Request) : Prop where
  authorization : s.headers.authorization = r.headers.authorization ∨ s.headers.authorization = none
  post : s.method = .post → r.method = .post ∧ s.body = r.body

namespace Request

theorem Onward.refl (r : Request) : r.Onward r :=
  ⟨.inl rfl, fun h => ⟨h, rfl⟩⟩

theorem Onward.trans {t : Request} (hrs : r.Onward s) (hst : s.Onward t) : r.Onward t where
  authorization := by
    rcases hst.authorization with h | h
    · rw [h]
      exact hrs.authorization
    · exact .inr h
  post h := by
    obtain ⟨hpost, hbody⟩ := hst.post h
    obtain ⟨hpost', hbody'⟩ := hrs.post hpost
    exact ⟨hpost', hbody.trans hbody'⟩

theorem onward_redirected (status : Status) (place : Url) (r : Request) :
    r.Onward (r.redirected status place) where
  authorization := by
    simp only [redirected]
    split
    · exact .inl rfl
    · exact .inr rfl
  post := by
    simp only [redirected]
    split
    · intro h
      cases h
    · exact fun h => ⟨h, rfl⟩

end Request

/-! ## Exchanges -/

/-- A turn that sends a request on to another place. -/
def Turn.Redirects (t : Turn) : Prop :=
  ∃ reply place, t = .reply reply (some place) ∧ reply.status.code ∈ [301, 302, 303, 307, 308]

namespace Peer

/-- The turn that the next request meets. -/
def turn (p : Peer) : Turn := p.turns.headD notFound

/-- The other side after a request that got through. -/
def after (r : Request) (p : Peer) : Peer :=
  { p with turns := p.turns.tail, requests := p.requests ++ [r] }

/-- What is heard of a request. -/
def heard (r : Request) (p : Peer) : Except Fault Reply := ((send r).run p).1

/-- The other side after a request was sent. -/
def asked (r : Request) (p : Peer) : Peer := ((send r).run p).2

end Peer

/-- The course of a request with at most `n` requests: those that get through, what is heard at the
end, and the other side after that. -/
inductive Course : Nat → Peer → Request → List Request → Except Fault Reply → Peer → Prop
  /-- It would be one request too many. -/
  | exceeded {p : Peer} {r : Request} : Course 0 p r [] (.error .transport) p
  /-- The request does not get through. -/
  | refused {n : Nat} {p : Peer} {r : Request} : p.accepts r = false →
      Course (n + 1) p r [] (.error .transport) p
  | lost {n : Nat} {p : Peer} {r : Request} : p.accepts r = true → p.turn = .lost →
      Course (n + 1) p r [r] (.error .transport) (p.after r)
  /-- A reply that does not redirect the request is heard. -/
  | heard {n : Nat} {p : Peer} {r : Request} {reply : Reply} {place : Option Url} :
      p.accepts r = true → p.turn = .reply reply place → ¬p.turn.Redirects →
      Course (n + 1) p r [r] (.ok reply) (p.after r)
  | redirected {n : Nat} {p q : Peer} {r : Request} {sent : List Request} {reply : Reply}
      {place : Url} {x : Except Fault Reply} :
      p.accepts r = true → p.turn = .reply reply (some place) → p.turn.Redirects →
      Course n (p.after r) (r.redirected reply.status place) sent x q →
      Course (n + 1) p r (r :: sent) x q

namespace Course

theorem requests_eq (h : Course n p r sent x q) : q.requests = p.requests ++ sent := by
  induction h with
  | exceeded | refused => rw [List.append_nil]
  | lost | heard => rfl
  | redirected _ _ _ _ ih => rw [ih, Peer.after, List.append_assoc, List.singleton_append]

theorem length_le (h : Course n p r sent x q) : sent.length ≤ n := by
  induction h with
  | exceeded | refused | lost | heard => simp
  | redirected _ _ _ _ ih => exact Nat.succ_le_succ ih

theorem redirects_of_length (h : Course n p r sent x q) (hlength : 1 < sent.length) :
    p.turn.Redirects := by
  cases h with
  | exceeded | refused | lost | heard => simp at hlength
  | redirected _ _ hredirects => exact hredirects

theorem onward (h : Course n p r sent x q) : ∀ s ∈ sent, r.Onward s := by
  induction h with
  | exceeded | refused => simp
  | lost | heard =>
    intro s hs
    rw [List.mem_singleton.mp hs]
    exact .refl _
  | @redirected n p q r sent reply place x _ _ _ _ ih =>
    intro s hs
    rcases List.mem_cons.mp hs with rfl | hs
    · exact .refl _
    · exact (r.onward_redirected reply.status place).trans (ih s hs)

end Course

/-- A request that is sent once, and sent on only if a reply redirects it, up to ten times. -/
structure Exchange (p : Peer) (r : Request) (sent : List Request) (x : Except Fault Reply)
    (q : Peer) : Prop where
  course : Course 11 p r sent x q
  /-- Nothing else reaches the other side. -/
  requests : q.requests = p.requests ++ sent
  length_le : sent.length ≤ 11
  /-- Only a reply that redirects the request makes a second one. -/
  redirects : 1 < sent.length → p.turn.Redirects
  onward : ∀ s ∈ sent, r.Onward s

theorem Course.exchange (h : Course 11 p r sent x q) : Exchange p r sent x q :=
  ⟨h, h.requests_eq, h.length_le, h.redirects_of_length, h.onward⟩

/-! ## Sending -/

theorem Turn.redirects_of_redirected? {t : Turn} (h : t.redirected? r = some s) :
    ∃ reply place, t = .reply reply (some place) ∧ t.Redirects ∧
      s = r.redirected reply.status place := by
  rcases t with ⟨reply, _ | place⟩ | _
  · cases h
  · rw [redirected?, Option.ite_none_right_eq_some] at h
    obtain ⟨hcode, hs⟩ := h
    exact ⟨reply, place, rfl, ⟨reply, place, rfl, of_decide_eq_true hcode⟩,
      (Option.some.inj hs).symm⟩
  · cases h

theorem Turn.not_redirects_of_redirected? {t : Turn} (h : t.redirected? r = none) :
    ¬t.Redirects := by
  rintro ⟨reply, place, rfl, hcode⟩
  have hcode : reply.status.redirects = true := decide_eq_true hcode
  rw [redirected?, if_pos hcode] at h
  cases h

namespace Peer

theorem run_meet (r : Request) (p : Peer) :
    (meet r).run p = if p.accepts r then (p.turn, p.after r) else (.lost, p) := by
  show (if p.accepts r then _ else _ : StateM Peer _) p = _
  split <;> rfl

/-- Whatever the other side does, a request takes its course. The induction is on the number of
requests that are allowed. -/
theorem exists_course (n : Nat) (r : Request) (p : Peer) :
    ∃ sent, Course n p r sent ((sendWithin n r).run p).1 ((sendWithin n r).run p).2 := by
  induction n generalizing r p with
  | zero => exact ⟨[], .exceeded⟩
  | succ n ih =>
    rw [sendWithin]
    by_cases haccepts : p.accepts r = true
    · have hmeet : (meet r).run p = (p.turn, p.after r) := by rw [run_meet, if_pos haccepts]
      rw [run_bind_of_run hmeet]
      rcases hnext : p.turn.redirected? r with _ | next
      · have hstays := Turn.not_redirects_of_redirected? hnext
        rcases hturn : p.turn with ⟨reply, place⟩ | _
        · exact ⟨[r], .heard haccepts hturn hstays⟩
        · exact ⟨[r], .lost haccepts hturn⟩
      · obtain ⟨reply, place, hturn, hredirects, rfl⟩ := Turn.redirects_of_redirected? hnext
        obtain ⟨sent, hsent⟩ := ih (r.redirected reply.status place) (p.after r)
        exact ⟨r :: sent, .redirected haccepts hturn hredirects hsent⟩
    · have hmeet : (meet r).run p = (.lost, p) := by rw [run_meet, if_neg haccepts]
      rw [run_bind_of_run hmeet]
      exact ⟨[], .refused (Bool.eq_false_iff.mpr haccepts)⟩

theorem exists_exchange (r : Request) (p : Peer) :
    ∃ sent, Exchange p r sent (p.heard r) (p.asked r) :=
  (exists_course 11 r p).imp fun _ => Course.exchange

end Peer

end EntityHub.Http
