import EntityHub.Proofs.Token.Invalidation
/-!
# Tokens that can be used

A token that is fresh can be used at that instant (`TokenCache.isValidAt_of_isFresh`). The cache
looks whether a token is fresh before it hands out one that it holds, also when a fetch has brought
none. The token that a call has fetched itself goes out as it came.
`TokenCache.handsOutUnusable_iff` says that this is the only way by which a call gets a token that is
empty or has expired, and that each such token does go out.
-/

namespace EntityHub.TokenCache

variable {σ : Type} {c d d' : TokenCache σ} {e : Event} {r : Option TokenAnswer} {l : List Act}
  {config : TokenConfig} {now at' : Instant} {observed id : Nat} {t : Token}

/-- The leeway leads forward, so what is fresh can be used now. -/
theorem isValidAt_of_isFresh (h : isFresh config now t = true) : t.isValidAt now = true := by
  have hlater : now ≤ (now.add? config.expiryLeeway.toSpan).getD .last := by
    have hspan := config.expiryLeeway.toSpan_nonneg
    have hlast := now.le_last
    rw [Instant.le_iff, now.nanos_add?_getD hspan]
    omega
  exact Token.isValidAt_of_le hlater h

/-- The reading of the clock with which a call takes a step. -/
def Event.now? : Event → Option Instant
  | .enter now _ | .resume now _ => some now
  | .drop _ | .set _ | .invalidate => none

variable [TokenSource σ]

/-- At `now` a call gets a token that cannot be used then. -/
def HandsOutUnusable (c : TokenCache σ) (e : Event) (now : Instant) (t : Token) : Prop :=
  e.now? = some now ∧ (c.step e).1 = some (.ok (some t)) ∧ t.isValidAt now = false

/-- The call that holds the gate gets a fresh token, or the one that its fetch ends with. -/
theorem Turn.fresh_or_ended (h : Turn d now observed id r d' l) (hr : r = some (.ok (some t))) :
    isFresh d.config now t = true ∨ .ended now (.ok (some t)) ∈ l := by
  cases h with
  | share _ hshare =>
    cases hr
    exact .inl (token_of_share? hshare).2
  | wait | start => cases hr
  | finish =>
    obtain ⟨-, ⟨-, hfresh⟩ | hown⟩ := token_of_settle (Option.some.inj hr)
    · exact .inl hfresh
    · rw [hown]
      exact .inr List.mem_cons_self
  | fetch =>
    obtain ⟨-, ⟨-, hfresh⟩ | hown⟩ := token_of_settle (Option.some.inj hr)
    · exact .inl hfresh
    · rw [hown]
      exact .inr (List.mem_cons_of_mem _ List.mem_cons_self)

/-- A fetch that ends with a token ends its call with that token. -/
theorem Turn.answer_of_ended (h : Turn d now observed id r d' l)
    (ht : .ended at' (.ok (some t)) ∈ l) : now = at' ∧ r = some (.ok (some t)) := by
  cases h with
  | share | wait | start => simp at ht
  | finish =>
    obtain ⟨rfl, hans⟩ : at' = now ∧ _ = _ := by simpa using ht
    exact ⟨rfl, by rw [← hans]; rfl⟩
  | fetch =>
    obtain ⟨rfl, hans⟩ : at' = now ∧ _ = _ := by simpa using ht
    exact ⟨rfl, by rw [← hans]; rfl⟩

theorem Move.fresh_or_ended (h : Move d e r d' l) (hnow : e.now? = some now)
    (hr : r = some (.ok (some t))) :
    isFresh d.config now t = true ∨ .ended now (.ok (some t)) ∈ l := by
  cases h with
  | reuse hreuse =>
    cases hnow
    cases hr
    exact .inl (token_of_reusable? hreuse).2
  | lead _ _ ht | turn _ ht =>
    cases hnow
    exact ht.fresh_or_ended hr
  | _ => cases hr

theorem Move.answer_of_ended (h : Move d e r d' l) (ht : .ended now (.ok (some t)) ∈ l) :
    e.now? = some now ∧ r = some (.ok (some t)) := by
  cases h with
  | lead _ _ hturn | turn _ hturn =>
    obtain ⟨rfl, hr⟩ := hturn.answer_of_ended ht
    exact ⟨rfl, hr⟩
  | _ => simp at ht

/-- In any state of the cache, whatever was done before, a call gets a token that cannot be used
exactly if its own fetch ends with that token. -/
theorem handsOutUnusable_iff (c : TokenCache σ) (es : List Event) (e : Event) (now : Instant)
    (t : Token) : HandsOutUnusable (c.run es) e now t ↔
      .ended now (.ok (some t)) ∈ (c.run es).acts e ∧ t.isValidAt now = false := by
  have hmove := (c.run es).move_step e
  constructor
  · rintro ⟨hnow, hr, hunusable⟩
    refine ⟨?_, hunusable⟩
    rcases hmove.fresh_or_ended hnow hr with hfresh | hended
    · rw [isValidAt_of_isFresh hfresh] at hunusable
      cases hunusable
    · exact hended
  · rintro ⟨hended, hunusable⟩
    obtain ⟨hnow, hr⟩ := hmove.answer_of_ended hended
    exact ⟨hnow, hr, hunusable⟩

/-- An empty token is handed out, and so the state of the cache is that it has none to use. -/
example :
    let c : TokenCache ScriptedSource :=
      { source := { outcomes := [{ answer := .ok (some { accessToken := "" }) }] } }
    HandsOutUnusable c (.enter .epoch 0) .epoch { accessToken := "" } ∧
      (c.step (.enter .epoch 0)).2.state .epoch = .expired :=
  ⟨⟨rfl, rfl, rfl⟩, rfl⟩

end EntityHub.TokenCache
