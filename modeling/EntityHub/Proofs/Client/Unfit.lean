import EntityHub.Proofs.Client.Verdict
import EntityHub.Proofs.Token.Accounting
/-!
# Tokens that cannot be shown

A call for a token that fails leaves no token behind (`TokenCache.Leaves`), so the next operation
authenticates again. An operation also fails for want of authentication if its token cannot be the
value of a header, and then the cache keeps that token. `Client.failsHolding_iff` says that this is
the only way in which an operation fails so with a token still held, and that operations go on to
fail on the same token for as long as it may be used again.
-/

namespace EntityHub

namespace TokenCache

variable {σ : Type} {c d d' : TokenCache σ} {e : Event} {r : Option TokenAnswer} {l : List Act}
  {now : Instant} {observed id : Nat} {a : TokenAnswer}

/-! ## What a call leaves behind -/

/-- What is held when a call has come to an answer: the token that it got, and none if it failed. -/
def Leaves (d : TokenCache σ) : TokenAnswer → Prop
  | .ok (some t) => d.token = some t
  | .ok none => True
  | .error _ => d.token = none

theorem leaves_settle (now : Instant) (a : TokenAnswer) (c : TokenCache σ) :
    Leaves (c.settle now a).2 (c.settle now a).1 := by
  rcases h : (c.settle now a).1 with e | _ | t
  · exact (settle_of_error h).1
  · trivial
  · exact (token_of_settle h).1

variable [TokenSource σ]

theorem Turn.leaves (h : Turn d now observed id r d' l) (ha : r = some a) : Leaves d' a := by
  cases h with
  | share _ hshare =>
    cases ha
    exact (token_of_share? hshare).1
  | wait | start => cases ha
  | finish | fetch =>
    cases ha
    exact leaves_settle _ _ _

theorem Move.leaves (h : Move d e r d' l) (ha : r = some a) : Leaves d' a := by
  cases h with
  | reuse hreuse =>
    cases ha
    exact (token_of_reusable? hreuse).1
  | lead _ _ ht | turn _ ht => exact ht.leaves ha
  | _ => cases ha

theorem leaves_complete (now : Instant) (c : TokenCache σ) :
    Leaves (c.complete now).2 (c.complete now).1 := by
  obtain ⟨observed, r, d, l, hturn, ⟨hr, hd⟩ | ⟨-, f, -, hsettle⟩⟩ := c.exists_turn_complete now
  · rw [← hd]
    exact hturn.leaves hr
  · rw [hsettle]
    exact leaves_settle now f.answer d

theorem leaves_ensure (now : Instant) (c : TokenCache σ) :
    Leaves (c.ensure now).2 (c.ensure now).1 := by
  obtain ⟨r, d, l, hmove, ⟨hr, hd⟩ | ⟨-, hcomplete⟩⟩ := c.exists_move_ensure now
  · rw [← hd]
    exact hmove.leaves hr
  · rw [hcomplete]
    exact d.leaves_complete now

theorem ensure_of_reusable? {t : Token} (h : c.reusable? now = some t) :
    c.ensure now = (.ok (some t), c) := by
  unfold ensure enter
  rw [h]

end TokenCache

namespace Client

open TokenCache (Event)

variable {τ α β : Type}

/-! ## Failures -/

/-- No header can show the token. -/
def Unfit (t : Token) : Prop := Http.isHeaderValue (Http.bearerCredentials t.accessToken) = false

/-- Something has failed for want of authentication, and the client holds a token afterwards. -/
structure FailsHolding (x : Except Error α × Client τ) (t : Token) : Prop where
  failed : ∃ e, x.1 = .error e ∧ e.kind = .authentication
  held : x.2.tokens.token = some t

theorem Verdict.kind_of_error {read? : List UInt8 → Option α} {reply : Except Fault Http.Reply}
    {x : Except Error α} {e : Error} (h : Verdict read? reply x) (hx : x = .error e) :
    e.kind = .request ∨ e.kind = .clientProcessing := by
  cases h with
  | lost hkind | refused _ hkind | cut _ _ hkind =>
    obtain rfl := Except.error.inj hx
    exact .inl hkind
  | unread _ _ _ hkind =>
    obtain rfl := Except.error.inj hx
    exact .inr hkind
  | read => cases hx

variable [TokenSource τ]

/-- The client after an event of its cache. -/
def after (d : Client τ) (e : Event) : Client τ := { d with tokens := (d.tokens.step e).2 }

/-- What an operation comes to that was asked of `c`, if its call for a token is answered at an
event of `d`, to which `c` has come in the meantime. -/
def Operation.ending? (op : Operation α) (c d : Client τ) (e : Event) :
    Option (Except Error α × Client τ) :=
  match op.plan c, (d.tokens.step e).1 with
  | .send g, some answer => some (g.deliver answer (d.after e))
  | _, _ => none

theorem Errand.deliver_of_unfit {g : Errand α} {d : Client τ} {t : Token} (h : Unfit t) :
    g.deliver (.ok (some t)) d = (.error (unfitToken d.strategy), d) :=
  deliver_of_error (headerFor_of_unfit d.strategy h)

/-- What an errand fails with. It is the error of the call for a token, or that of a token which
cannot be shown, and then nothing is sent; or its kind tells that something was. -/
theorem Errand.Reads.of_deliver_eq_error {g : Errand α} {read? : List UInt8 → Option α}
    (h : g.Reads read?) {d : Client τ} {answer : TokenAnswer} {e : Error}
    (he : (g.deliver answer d).1 = .error e) :
    ((g.deliver answer d).2 = d ∧
      (answer = .error e ∨ ∃ t, answer = .ok (some t) ∧ Unfit t ∧ e = unfitToken d.strategy)) ∨
      e.kind = .request ∨ e.kind = .clientProcessing := by
  rcases hheader : headerFor d.strategy answer with x | authorization
  · rw [deliver_of_error hheader] at he ⊢
    obtain rfl := Except.error.inj he
    refine .inl ⟨rfl, ?_⟩
    rcases answer with y | _ | t
    · exact .inl (congrArg Except.error (Except.error.inj hheader))
    · cases hheader
    · by_cases hfit : Http.isHeaderValue (Http.bearerCredentials t.accessToken) = true
      · rw [headerFor_of_fit _ hfit] at hheader
        cases hheader
      · have hunfit : Unfit t := Bool.eq_false_iff.mpr hfit
        rw [headerFor_of_unfit _ hunfit] at hheader
        exact .inr ⟨t, rfl, hunfit, (Except.error.inj hheader).symm⟩
  · obtain ⟨-, heard, -, -, -, hverdict⟩ := h.decided d answer authorization hheader
    exact .inr (hverdict.kind_of_error he)

/-- An errand fails so only on a token that no header can show. -/
theorem Errand.Reads.failsHolding_deliver_iff {g : Errand α} {read? : List UInt8 → Option α}
    (h : g.Reads read?) {d : Client τ} {answer : TokenAnswer} (hd : d.tokens.Leaves answer)
    (t : Token) :
    FailsHolding (g.deliver answer d) t ↔ answer = .ok (some t) ∧ Unfit t := by
  constructor
  · rintro ⟨⟨e, he, hkind⟩, hheld⟩
    rcases h.of_deliver_eq_error he with
      ⟨hleft, rfl | ⟨u, rfl, hunfit, -⟩⟩ | hrequest | hprocessing
    · have hnone : d.tokens.token = none := hd
      rw [hleft, hnone] at hheld
      cases hheld
    · rw [hleft] at hheld
      obtain rfl : u = t := Option.some.inj (Eq.trans (Eq.symm hd) hheld)
      exact ⟨rfl, hunfit⟩
    · rw [hrequest] at hkind
      cases hkind
    · rw [hprocessing] at hkind
      cases hkind
  · rintro ⟨rfl, hunfit⟩
    rw [deliver_of_unfit hunfit]
    exact ⟨⟨_, rfl, rfl⟩, hd⟩

/-- A token that cannot be shown but may be used again fails every errand. -/
theorem perform_of_unfit {op : Operation α} {c : Client τ} {now : Instant} {t : Token}
    (hsends : (op.plan c).sends = true) (ht : c.tokens.reusable? now = some t) (hunfit : Unfit t) :
    op.perform now c = (.error (unfitToken c.strategy), c) := by
  have hauthenticated : c.authenticated now = c := by
    rw [authenticated, TokenCache.ensure_of_reusable? ht]
  rw [perform_eq_carry]
  rcases hplan : op.plan c with x | g <;> rw [hplan] at hsends
  · cases hsends
  · rw [Plan.carry, TokenCache.ensure_of_reusable? ht, hauthenticated,
      Errand.deliver_of_unfit hunfit]

theorem failsHolding_perform_iff (now : Instant) (c : Client τ) (op : Operation α) (t : Token) :
    FailsHolding (op.perform now c) t ↔
      (op.plan c).sends = true ∧ (c.tokens.ensure now).1 = .ok (some t) ∧ Unfit t := by
  rw [perform_eq_carry]
  rcases hplan : op.plan c with x | g
  · refine iff_of_false ?_ fun h => by cases h.1
    rintro ⟨⟨e, hx, hkind⟩, -⟩
    obtain rfl : x = .error e := hx
    cases unsent_of_plan hplan with
    | refused hparameter =>
      rw [hparameter] at hkind
      cases hkind
  · have hleaves : (c.authenticated now).tokens.Leaves (c.tokens.ensure now).1 :=
      c.tokens.leaves_ensure now
    rw [Plan.carry, (reads_of_plan hplan).failsHolding_deliver_iff hleaves]
    exact (and_iff_right rfl).symm

theorem failsHolding_ending_iff (c d : Client τ) (op : Operation α) (e : Event) (t : Token) :
    (∃ x ∈ op.ending? c d e, FailsHolding x t) ↔
      (op.plan c).sends = true ∧ (d.tokens.step e).1 = some (.ok (some t)) ∧ Unfit t := by
  unfold Operation.ending?
  rcases hplan : op.plan c with x | g
  · refine iff_of_false ?_ fun h => by cases h.1
    rintro ⟨x, hx, -⟩
    cases hx
  · rcases hanswer : (d.tokens.step e).1 with _ | answer
    · simp
    · have hleaves : (d.after e).tokens.Leaves answer := (d.tokens.move_step e).leaves hanswer
      simp only [Option.mem_some_iff, exists_eq_left', Option.some.injEq,
        (reads_of_plan hplan).failsHolding_deliver_iff hleaves]
      exact (and_iff_right rfl).symm

/-- A call for a token that fails leaves none. -/
theorem not_failsHolding_authenticate (now : Instant) (c : Client τ) (t : Token) :
    ¬FailsHolding ((authenticate now).run.run c) t := by
  rw [run_authenticate]
  rintro ⟨⟨e, he, -⟩, hheld⟩
  have hleaves := c.tokens.leaves_ensure now
  rw [show (c.tokens.ensure now).1 = .error e from he] at hleaves
  cases hheld.symm.trans hleaves

/-- A call for a token that fails leaves none. An operation fails for want of authentication with a
token still held exactly if its call for a token has got one that no header can show, and it is that
token. This is so also if others do something to the client while the operation waits for its token.
From then on every operation that sends something fails in the same way and changes nothing, for as
long as the token may be used again. -/
theorem failsHolding_iff (now : Instant) (c : Client τ) (op : Operation α) (t : Token) :
    ¬FailsHolding ((authenticate now).run.run c) t ∧
    (FailsHolding (op.perform now c) t ↔
      (op.plan c).sends = true ∧ (c.tokens.ensure now).1 = .ok (some t) ∧ Unfit t) ∧
    (∀ (d : Client τ) (e : Event), (∃ x ∈ op.ending? c d e, FailsHolding x t) ↔
      (op.plan c).sends = true ∧ (d.tokens.step e).1 = some (.ok (some t)) ∧ Unfit t) ∧
    (FailsHolding (op.perform now c) t → ∀ (later : Instant) (β : Type) (next : Operation β),
      let left := (op.perform now c).2
      TokenCache.isReusable left.tokens.config later t = true → (next.plan left).sends = true →
        next.perform later left = (.error (unfitToken left.strategy), left)) := by
  refine ⟨not_failsHolding_authenticate now c t, failsHolding_perform_iff now c op t,
    fun d e => failsHolding_ending_iff c d op e t, ?_⟩
  intro hfails later β next left hreusable hsends
  refine perform_of_unfit hsends ?_ ((failsHolding_perform_iff now c op t).mp hfails).2.2
  rw [TokenCache.reusable?, hfails.held, Option.filter_some, if_pos hreusable]

/-- A client whose token has a line break in it. -/
def misled : Client StaticSource :=
  { loopback with tokens.token := some { accessToken := "a\nb" } }

/-- The registered clients cannot be asked for with such a token, now or later. -/
theorem failsHolding_iff_misled :
    FailsHolding (Operation.clients.perform .epoch misled) { accessToken := "a\nb" } ∧
      Operation.clients.perform .last (Operation.clients.perform .epoch misled).2 =
        (.error (unfitToken .none), (Operation.clients.perform .epoch misled).2) := by
  have hunfit : Unfit { accessToken := "a\nb" } := by
    unfold Unfit
    decide
  have hsends : (Operation.clients.plan misled).sends = true := by decide +kernel
  have hreusable : TokenCache.isReusable {} .epoch { accessToken := "a\nb" } = true := by decide
  have hlater : TokenCache.isReusable {} .last { accessToken := "a\nb" } = true := by decide
  have hensure : misled.tokens.ensure .epoch =
      (.ok (some { accessToken := "a\nb" }), misled.tokens) :=
    TokenCache.ensure_of_reusable? rfl
  obtain ⟨-, hnow, -, hagain⟩ := failsHolding_iff .epoch misled .clients { accessToken := "a\nb" }
  have hfails := hnow.mpr ⟨hsends, congrArg Prod.fst hensure, hunfit⟩
  have hleft : (Operation.clients.perform .epoch misled).2 = misled := by
    rw [perform_of_unfit hsends rfl hunfit]
  refine ⟨hfails, ?_⟩
  have hnext := hagain hfails .last _ .clients
  rw [hleft] at hnext ⊢
  exact hnext hlater hsends

end Client

end EntityHub
