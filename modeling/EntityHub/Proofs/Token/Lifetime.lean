import EntityHub.Proofs.Token.Freshness
import EntityHub.Token.Reply
/-!
# Lifetimes and leeways without bounds

The calendar has a first and a last instant, and a span has a greatest length. A lifetime that leads
beyond the calendar gives a token no expiry, one that leads before it gives it the present, and a
leeway that leads beyond it reaches to the last instant. None of this shows in a verdict: a token is
valid (`TokenReply.toToken_unbounded`) and fresh (`TokenCache.isFresh_unbounded`) as if instants and
lengths of time were any integers.

Both rest on one comparison of the bounds: the longest span reaches across the whole calendar
(`lastNano_le_firstNano_add`), so that a sum within the calendar needs no longer one.
-/

namespace EntityHub

/-! ## Sums -/

theorem lastNano_le_firstNano_add : lastNano ≤ firstNano + longestSpan := by
  decide

theorem Span.ofNanos?_eq_some_iff {n : Int} {d : Span} : ofNanos? n = some d ↔ d.nanos = n := by
  have h₁ := d.neg_longest_le
  have h₂ := d.le_longest
  simp only [ofNanos?]
  split
  · simp only [Option.some.injEq, Span.ext_iff]
    omega
  · simp only [reduceCtorEq, false_iff]
    omega

theorem Duration.nanos_toSpan (d : Duration) :
    d.toSpan.nanos = min (d.nanos : Int) longestSpan := by
  have hpositive : (0 : Int) ≤ longestSpan := by decide
  unfold toSpan Span.ofNanos?
  split
  · simp only [Option.getD_some]
    omega
  · simp only [Option.getD_none, Span.longest]
    omega

namespace Instant

variable {now e t : Instant} {x : Option Instant} {due : Int}

/-- An instant that many seconds later is found if the calendar has it. -/
theorem ofSeconds?_bind_add?_eq_some_iff {seconds : Int} :
    (Span.ofSeconds? seconds).bind now.add? = some e ↔
      e.nanos = now.nanos + seconds * nanosPerSecond := by
  simp only [Option.bind_eq_some_iff, Span.ofSeconds?, Span.ofNanos?_eq_some_iff, add?,
    ofNanos?_eq_some_iff]
  constructor
  · rintro ⟨d, hd, he⟩
    rw [he, hd]
  · intro he
    have hbounds := lastNano_le_firstNano_add
    have hnow := And.intro now.first_le now.le_last
    have hend := And.intro e.first_le e.le_last
    exact ⟨⟨seconds * nanosPerSecond, by omega, by omega⟩, rfl, he⟩

/-- A leeway reaches as far as its length says, within the calendar. -/
theorem nanos_add?_toSpan (now : Instant) (leeway : Duration) :
    ((now.add? leeway.toSpan).getD .last).nanos = min (now.nanos + leeway.nanos) lastNano := by
  have hbounds := lastNano_le_firstNano_add
  have hfirst := now.first_le
  rw [now.nanos_add?_getD leeway.toSpan_nonneg, leeway.nanos_toSpan]
  omega

/-- The expiry of a token from `now` on that should end at `due`, which is any integer. -/
inductive Expires (now : Instant) (due : Int) : Option Instant → Prop
  | within {e : Instant} : e.nanos = due → Expires now due (some e)
  | never : lastNano < due → Expires now due none
  | already : due < firstNano → Expires now due (some now)

/-- An end that the calendar has is the expiry. -/
theorem Expires.eq_some (h : now.Expires due x) (he : e.nanos = due) : x = some e := by
  have hfirst := e.first_le
  have hlast := e.le_last
  cases h with
  | within h => exact congrArg some (Instant.ext (h.trans he.symm))
  | never h => omega
  | already h => omega

/-- From `now` on, the expiry is still to come exactly as long as the end is. -/
theorem Expires.forall_lt_iff (h : now.Expires due x) (ht : now ≤ t) :
    (∀ e ∈ x, t < e) ↔ t.nanos < due := by
  have hfirst := t.first_le
  have hlast := t.le_last
  rw [le_iff] at ht
  cases h with
  | within h =>
    simp only [Option.mem_some_iff, forall_eq', lt_iff]
    omega
  | never h =>
    simp only [Option.not_mem_none, false_imp_iff, implies_true, true_iff]
    omega
  | already h =>
    simp only [Option.mem_some_iff, forall_eq', lt_iff]
    omega

end Instant

/-! ## Lifetimes -/

namespace Token

variable {t : Token} {now : Instant}

theorem isValidAt_iff :
    t.isValidAt now = true ↔ t.accessToken ≠ "" ∧ ∀ e ∈ t.expiry, now < e := by
  simp [isValidAt, Option.all_eq_true]

theorem accessToken_expiringIn (t : Token) (seconds : Int) (now : Instant) :
    (t.expiringIn seconds now).accessToken = t.accessToken := by
  unfold expiringIn
  split
  · rfl
  · split <;> rfl

/-- A lifetime gives an expiry to a token that has none. -/
theorem expires_expiringIn (ht : t.expiry = none) (seconds : Int) (now : Instant) :
    now.Expires (now.nanos + seconds * nanosPerSecond) (t.expiringIn seconds now).expiry := by
  have hnow := And.intro now.first_le now.le_last
  have hpositive : (0 : Int) < nanosPerSecond := by decide
  unfold expiringIn
  split
  · next e he => exact .within (Instant.ofSeconds?_bind_add?_eq_some_iff.mp he)
  · next hnone =>
    have houtside : ¬(firstNano ≤ now.nanos + seconds * nanosPerSecond ∧
        now.nanos + seconds * nanosPerSecond ≤ lastNano) := by
      intro hinside
      rw [Instant.ofSeconds?_bind_add?_eq_some_iff.mpr
        (rfl : (⟨_, hinside.1, hinside.2⟩ : Instant).nanos = _)] at hnone
      cases hnone
    -- The present is within the calendar, so the sign of the lifetime tells on which side it is
    -- left.
    split
    · next hback =>
      have hsum : seconds * nanosPerSecond < 0 := Int.mul_neg_of_neg_of_pos hback hpositive
      exact .already (by omega)
    · next hforth =>
      have hsum : 0 ≤ seconds * nanosPerSecond := Int.mul_nonneg (by omega) (by omega)
      rw [ht]
      exact .never (by omega)

end Token

/-- A reply gives a token that is valid as long as its text is not empty and the end of its lifetime
is to come, which is the sum of two integers: the present and the lifetime. If the calendar has that
end, it is the expiry of the token, and otherwise the token has no expiry or ends at once. Without a
lifetime there is no end. -/
theorem TokenReply.toToken_unbounded (text : String) (type : Option String) (now : Instant) :
    (∀ seconds : Int64,
      let due := now.nanos + seconds.toInt * nanosPerSecond
      let token := TokenReply.toToken ⟨text, type, some seconds⟩ now
      (∀ t, now ≤ t → (token.isValidAt t = true ↔ text ≠ "" ∧ t.nanos < due)) ∧
      (∀ e : Instant, e.nanos = due → token.expiry = some e) ∧
      now.Expires due token.expiry ∧ token.accessToken = text) ∧
    let token := TokenReply.toToken ⟨text, type, none⟩ now
    (∀ t, token.isValidAt t = true ↔ text ≠ "") ∧ token.expiry = none ∧
      token.accessToken = text := by
  refine ⟨fun seconds => ?_, fun t => ?_, rfl, rfl⟩
  · intro due token
    have htext : token.accessToken = text := Token.accessToken_expiringIn _ _ _
    have hexpires : now.Expires due token.expiry := Token.expires_expiringIn rfl seconds.toInt now
    refine ⟨fun t ht => ?_, fun e he => hexpires.eq_some he, hexpires, htext⟩
    rw [Token.isValidAt_iff, htext, hexpires.forall_lt_iff ht]
  · simp [Token.isValidAt_iff, toToken]

/-- From the start of 1970 a lifetime may end at the last whole second. The token is over before the
last instant then, and with one second more it is valid there. -/
theorem TokenReply.toToken_unbounded_lastSecond :
    let fitting : Int64 := 8210266876799
    let longer : Int64 := 8210266876800
    (∃ e : Instant, e.nanos = Instant.epoch.nanos + fitting.toInt * nanosPerSecond ∧
      (TokenReply.toToken ⟨"a", none, some fitting⟩ .epoch).expiry = some e) ∧
    Instant.epoch ≤ .last ∧
    (TokenReply.toToken ⟨"a", none, some fitting⟩ .epoch).isValidAt .last ≠ true ∧
    (TokenReply.toToken ⟨"a", none, some longer⟩ .epoch).isValidAt .last = true := by
  intro fitting longer
  have hfitting := (toToken_unbounded "a" none .epoch).1 fitting
  have hlonger := (toToken_unbounded "a" none .epoch).1 longer
  have hsum : 8210266876799000000000 =
      Instant.epoch.nanos + fitting.toInt * nanosPerSecond := by decide
  refine ⟨⟨⟨8210266876799000000000, by decide, by decide⟩, hsum, hfitting.2.1 _ hsum⟩,
    by decide, ?_, ?_⟩
  · exact fun hvalid => absurd ((hfitting.1 .last (by decide)).mp hvalid).2 (by decide)
  · exact (hlonger.1 .last (by decide)).mpr ⟨by decide, by decide⟩

/-! ## Leeways -/

namespace TokenCache

variable {config : TokenConfig} {now : Instant} {t : Token}

/-- A token is fresh if its text is not empty and the sum of the present and the leeway, two
integers, is before its expiry. -/
theorem isFresh_iff : isFresh config now t = true ↔
    t.accessToken ≠ "" ∧ ∀ e ∈ t.expiry, now.nanos + config.expiryLeeway.nanos < e.nanos := by
  rw [isFresh, Token.isValidAt_iff]
  refine and_congr_right fun _ => forall₂_congr fun e _ => ?_
  -- An expiry is not after the last instant, so what reaches beyond that may be cut there.
  have hlast := e.le_last
  rw [Instant.lt_iff, now.nanos_add?_toSpan]
  omega

/-- A token is fresh if its text is not empty and its expiry is later than the sum of the present
and the leeway, whatever the leeway. What the expiry is compared with is that sum within the
calendar, so a longer leeway does not make a stale token fresh. -/
theorem isFresh_unbounded (config : TokenConfig) (now : Instant) (t : Token) :
    (isFresh config now t = true ↔ t.accessToken ≠ "" ∧
      ∀ e ∈ t.expiry, now.nanos + config.expiryLeeway.nanos < e.nanos) ∧
    ((now.add? config.expiryLeeway.toSpan).getD .last).nanos =
      min (now.nanos + config.expiryLeeway.nanos) lastNano ∧
    ∀ longer : TokenConfig, config.expiryLeeway.nanos ≤ longer.expiryLeeway.nanos →
      isFresh config now t = false → isFresh longer now t = false := by
  refine ⟨isFresh_iff, now.nanos_add?_toSpan _, fun longer hle hstale => ?_⟩
  rw [← Bool.not_eq_true, isFresh_iff] at hstale ⊢
  rintro ⟨htext, hlonger⟩
  refine hstale ⟨htext, fun e he => ?_⟩
  have hlt := hlonger e he
  omega

/-- The longest leeway makes a token stale that is good until the last instant, which is fresh
without one; with an empty text it is stale in either case. -/
theorem isFresh_unbounded_longest :
    let longest : TokenConfig :=
      { expiryLeeway := ⟨0xFFFFFFFFFFFFFFFF * 1000000000 + 999999999⟩ }
    isFresh {} .epoch ⟨"a", some .last⟩ = true ∧ isFresh longest .epoch ⟨"a", some .last⟩ ≠ true ∧
      isFresh {} .epoch ⟨"", some .last⟩ = false ∧
      isFresh longest .epoch ⟨"", some .last⟩ = false := by
  intro longest
  have hshort := (isFresh_unbounded {} .epoch ⟨"a", some .last⟩).1
  have hlong := (isFresh_unbounded longest .epoch ⟨"a", some .last⟩).1
  have hempty : isFresh {} .epoch ⟨"", some .last⟩ = false := rfl
  refine ⟨hshort.mpr ⟨by decide, ?_⟩, fun h => ?_, hempty, ?_⟩
  · rintro e ⟨⟩
    decide
  · exact absurd ((hlong.mp h).2 .last rfl) (by decide)
  · exact (isFresh_unbounded {} .epoch ⟨"", some .last⟩).2.2 longest (by decide) hempty

end TokenCache

end EntityHub
