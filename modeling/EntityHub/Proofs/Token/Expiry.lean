import EntityHub.Proofs.Token.Lifetime
/-!
# Expiries set in turn

The expiry of a token may be set any number of times, to an instant or by a lifetime. Each setting
takes the place of the one before it, unless it is a lifetime that leads beyond the calendar: that
one sets nothing (`Token.expiry_set`), so what was set earlier stays in force.
`Token.lastDecides_iff` says when the last setting alone decides.
-/

namespace EntityHub.Token

/-! ## One setting -/

/-- One setting of the expiry of a token. -/
inductive Setting where
  | ends (expiry : Instant)
  | lasts (seconds : Int64) (now : Instant)

/-- The token after a setting. -/
def set (t : Token) : Setting → Token
  | .ends expiry => t.withExpiry expiry
  | .lasts seconds now => t.expiringIn seconds.toInt now

namespace Setting

/-- The expiry that a setting gives to a token without one. -/
def expiry? (s : Setting) : Option Instant := (Token.set { accessToken := "" } s).expiry

/-- Whether a setting is a lifetime that leads beyond the calendar. -/
def IsEndless : Setting → Prop
  | .ends _ => False
  | .lasts seconds now => lastNano < now.nanos + seconds.toInt * nanosPerSecond

/-- A setting gives no expiry exactly if it is endless. -/
theorem expiry?_eq_none_iff (s : Setting) : s.expiry? = none ↔ s.IsEndless := by
  cases s with
  | ends e => simp [expiry?, set, withExpiry, IsEndless]
  | lasts seconds now =>
    have hexpires : now.Expires (now.nanos + seconds.toInt * nanosPerSecond)
        (lasts seconds now).expiry? := expires_expiringIn rfl seconds.toInt now
    rw [IsEndless]
    generalize hx : (lasts seconds now).expiry? = x at hexpires ⊢
    cases hexpires with
    | @within e he =>
      have hlast := e.le_last
      simp only [reduceCtorEq, false_iff]
      omega
    | never hbeyond => simp [hbeyond]
    | already hbefore =>
      have hbounds : firstNano ≤ lastNano := by decide
      simp only [reduceCtorEq, false_iff]
      omega

end Setting

/-- A setting takes the place of the expiry from before, if it gives one. -/
theorem expiry_set (t : Token) (s : Setting) : (t.set s).expiry = s.expiry?.or t.expiry := by
  cases s with
  | ends e => rfl
  | lasts seconds now =>
    simp only [Setting.expiry?, set, expiringIn]
    split
    · rfl
    · split <;> rfl

theorem accessToken_set (t : Token) (s : Setting) : (t.set s).accessToken = t.accessToken := by
  cases s with
  | ends e => rfl
  | lasts seconds now => exact accessToken_expiringIn t seconds.toInt now

/-! ## Settings in turn -/

/-- The token after settings in turn. -/
def setAll (t : Token) (l : List Setting) : Token := l.foldl set t

/-- The last setting that gives an expiry decides, and the token from before if none does. -/
theorem expiry_setAll (t : Token) (l : List Setting) :
    (t.setAll l).expiry = (l.filterMap Setting.expiry?).getLast?.or t.expiry := by
  induction l generalizing t with
  | nil => rfl
  | cons s l ih =>
    have hrest : (t.setAll (s :: l)).expiry =
        (l.filterMap Setting.expiry?).getLast?.or (s.expiry?.or t.expiry) := by
      rw [← expiry_set]
      exact ih (t.set s)
    rw [hrest]
    rcases hs : s.expiry? with _ | e
    · rw [List.filterMap_cons_none hs, Option.none_or]
    · rw [List.filterMap_cons_some hs, List.getLast?_cons]
      rcases (l.filterMap Setting.expiry?).getLast? with _ | e' <;> rfl

theorem accessToken_setAll (t : Token) (l : List Setting) :
    (t.setAll l).accessToken = t.accessToken := by
  induction l generalizing t with
  | nil => rfl
  | cons s l ih => exact (ih (t.set s)).trans (accessToken_set t s)

/-- After settings in turn there is no expiry exactly if there was none and all are endless. -/
theorem expiry_setAll_eq_none_iff (t : Token) (l : List Setting) :
    (t.setAll l).expiry = none ↔ t.expiry = none ∧ ∀ s ∈ l, s.IsEndless := by
  rw [expiry_setAll, Option.or_eq_none_iff, List.getLast?_eq_none_iff, List.filterMap_eq_nil_iff,
    and_comm]
  simp only [Setting.expiry?_eq_none_iff]

/-- The setting `s` that follows the settings `l` gives the expiry that it gives to any token
without one. -/
def LastDecides (t : Token) (l : List Setting) (s : Setting) : Prop :=
  ∀ u : Token, u.expiry = none → (t.setAll (l ++ [s])).expiry = (u.set s).expiry

/-- The last setting decides alone, unless it is a lifetime beyond the calendar and there is an
expiry from before. In every case the expiry is that of the last setting that gives one, and the
one that the token had if none does; and nothing else of the token changes. -/
theorem lastDecides_iff (t : Token) (l : List Setting) (s : Setting) :
    (LastDecides t l s ↔ (s.IsEndless → t.expiry = none ∧ ∀ r ∈ l, r.IsEndless)) ∧
    (t.setAll (l ++ [s])).expiry =
      ((l ++ [s]).filterMap Setting.expiry?).getLast?.or t.expiry ∧
    (t.setAll (l ++ [s])).accessToken = t.accessToken := by
  refine ⟨?_, expiry_setAll t _, accessToken_setAll t _⟩
  have hall : (t.setAll (l ++ [s])).expiry = s.expiry?.or (t.setAll l).expiry := by
    rw [← expiry_set, setAll, List.foldl_append]
    rfl
  rw [← expiry_setAll_eq_none_iff, ← s.expiry?_eq_none_iff]
  constructor
  · intro hlast hs
    have hfresh := hlast { accessToken := "" } rfl
    rwa [hall, expiry_set, hs, Option.none_or, Option.none_or] at hfresh
  · intro hstays u hu
    rw [hall, expiry_set, hu]
    rcases hs : s.expiry? with _ | e
    · rw [hstays hs]
    · rfl

/-- A lifetime beyond the calendar leaves the expiry that was set before it. -/
example : (setAll { accessToken := "t" } [.ends .epoch, .lasts Int64.maxValue .epoch]).expiry =
    some .epoch := by
  decide

end EntityHub.Token
