import EntityHub.Token.Cache
/-!
# Freshness and the clock

A token that is fresh at an instant was fresh before it (`TokenCache.isFresh_of_le`), and so was one
that could be used without a fetch. What is stale stays stale as long as the clock does not run
backwards.
-/

namespace EntityHub

theorem Duration.toSpan_nonneg (d : Duration) : 0 ≤ d.toSpan.nanos := by
  unfold toSpan Span.ofNanos?
  split
  · simp
  · exact (by decide : 0 ≤ longestSpan)

/-- A later instant by a span that leads forward, held within the calendar. -/
theorem Instant.nanos_add?_getD (t : Instant) {d : Span} (hd : 0 ≤ d.nanos) :
    ((t.add? d).getD .last).nanos = min (t.nanos + d.nanos) lastNano := by
  have hf := t.first_le
  unfold add? ofNanos?
  split
  · simp only [Option.getD_some]
    omega
  · simp only [Option.getD_none, last]
    omega

theorem Token.isValidAt_of_le {t : Token} {a b : Instant} (hab : a ≤ b)
    (h : t.isValidAt b = true) : t.isValidAt a = true := by
  unfold isValidAt at *
  rcases he : t.expiry with _ | expiry
  · simpa [he] using h
  · simp only [he, Option.all_some, Bool.and_eq_true, decide_eq_true_eq, Instant.lt_iff,
      Instant.le_iff] at h hab ⊢
    exact ⟨h.1, by omega⟩

namespace TokenCache

variable {config : TokenConfig} {a b : Instant} {t : Token}

theorem isFresh_of_le (hab : a ≤ b) (h : isFresh config b t = true) :
    isFresh config a t = true := by
  have hd := config.expiryLeeway.toSpan_nonneg
  refine Token.isValidAt_of_le ?_ h
  rw [Instant.le_iff] at hab ⊢
  rw [a.nanos_add?_getD hd, b.nanos_add?_getD hd]
  omega

theorem isFresh_of_isReusable (h : isReusable config a t = true) : isFresh config a t = true := by
  simp only [isReusable, Bool.and_eq_true] at h
  exact h.1

theorem isReusable_of_le (hab : a ≤ b) (h : isReusable config b t = true) :
    isReusable config a t = true := by
  simp only [isReusable, Bool.and_eq_true] at h ⊢
  exact ⟨isFresh_of_le hab h.1, h.2⟩

theorem isFresh_eq_false_of_le (hab : a ≤ b) (h : isFresh config a t = false) :
    isFresh config b t = false :=
  Bool.eq_false_iff.mpr fun hb => by simp [isFresh_of_le hab hb] at h

theorem isReusable_eq_false_of_le (hab : a ≤ b) (h : isReusable config a t = false) :
    isReusable config b t = false :=
  Bool.eq_false_iff.mpr fun hb => by simp [isReusable_of_le hab hb] at h

end TokenCache

end EntityHub
