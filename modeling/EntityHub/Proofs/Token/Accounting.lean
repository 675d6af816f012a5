import EntityHub.Proofs.Token.Invalidation
import EntityHub.Proofs.Token.SingleFlight
import Mathlib.Data.List.Induction
import Mathlib.Data.List.Nodup
/-!
# The accounts of a cache

What is seen of a run tells which calls are in progress and which of them fetch
(`TokenCache.Ledger`), how many tokens were brought (`TokenCache.Act.brought`) and which token was
given last and not dropped since (`TokenCache.Act.Holds`). Nothing of this looks into the cache.
`TokenCache.run_accounted` says that after every run the cache agrees with it: its line, its counter,
its token and the state that it reports.

The calls are followed step by step (`Kept`), and the token is what the acts make of it one after
another (`Act.held`).
-/

namespace EntityHub.TokenCache

variable {σ : Type}

/-! ## Tokens that are given -/

namespace Act

/-- The token that an act gives to the cache: one that is set, or one that a fetch has brought. -/
def given? : Act → Option Token
  | .set t | .ended _ (.ok (some t)) => some t
  | _ => none

/-- Whether an act drops the token held: an invalidation, or a fetch that fails. -/
def drops : Act → Bool
  | .invalidated | .ended _ (.error _) => true
  | _ => false

/-- The token was given last, and nothing has dropped it since. -/
def Holds (t : Token) (l : List Act) : Prop :=
  ∃ before a after, l = before ++ a :: after ∧ a.given? = some t ∧
    ∀ b ∈ after, b.given? = none ∧ b.drops = false

/-- The tokens that fetches have brought to their calls. -/
def brought (l : List Act) : List Token := (answers l).filterMap fun x => x.2.toOption.join

theorem brought_append (l m : List Act) : brought (l ++ m) = brought l ++ brought m := by
  rw [brought, answers_append, List.filterMap_append, brought, brought]

/-- The token held after an act. -/
def held (token : Option Token) (a : Act) : Option Token :=
  if a.drops then none else a.given?.or token

@[simp] theorem held_ended (token : Option Token) (now : Instant) (a : TokenAnswer) :
    held token (.ended now a) = a.hold token := by
  rcases a with x | _ | t <;> rfl

/-- The last act decides, unless it does nothing to the token. -/
theorem holds_concat {t : Token} {l : List Act} {a : Act} : Holds t (l ++ [a]) ↔
    a.given? = some t ∨ a.given? = none ∧ a.drops = false ∧ Holds t l := by
  constructor
  · rintro ⟨before, b, after, heq, hgiven, hafter⟩
    rcases List.eq_nil_or_concat after with rfl | ⟨after', z, rfl⟩
    · obtain ⟨-, ha⟩ := List.append_inj' heq rfl
      rw [List.singleton_inj.mp ha]
      exact .inl hgiven
    · have heq' : l ++ [a] = (before ++ b :: after') ++ [z] := by simpa using heq
      obtain ⟨rfl, ha⟩ := List.append_inj' heq' rfl
      obtain rfl := List.singleton_inj.mp ha
      obtain ⟨hnone, hkept⟩ := hafter a (by simp)
      exact .inr ⟨hnone, hkept, before, b, after', rfl, hgiven, fun x hx => hafter x (by simp [hx])⟩
  · rintro (hgiven | ⟨hnone, hkept, before, b, after, rfl, hgiven, hafter⟩)
    · exact ⟨l, a, [], rfl, hgiven, by simp⟩
    · refine ⟨before, b, after ++ [a], by simp, hgiven, fun x hx => ?_⟩
      rcases List.mem_append.mp hx with hx | hx
      · exact hafter x hx
      · rw [List.mem_singleton.mp hx]
        exact ⟨hnone, hkept⟩

theorem given?_eq_none_of_drops {a : Act} (h : a.drops = true) : a.given? = none := by
  unfold drops at h
  split at h
  · rfl
  · rfl
  · cases h

theorem foldl_held_eq_some_iff {t : Token} {l : List Act} :
    l.foldl held none = some t ↔ Holds t l := by
  induction l using List.reverseRecOn with
  | nil => simp [Holds]
  | append_singleton l a ih =>
    rw [List.foldl_append, List.foldl_cons, List.foldl_nil, holds_concat, held]
    rcases hdrops : a.drops with _ | _
    · rcases hgiven : a.given? with _ | u
      · simp [ih]
      · simp
    · simp [given?_eq_none_of_drops hdrops]

end Act

/-! ## States -/

/-- What line and token are like when the cache reports a state. -/
def Reported (now : Instant) (d : TokenCache σ) : TokenState → Prop
  | .authenticating => d.line ≠ []
  | .unauthenticated => d.line = [] ∧ ∀ t, d.token ≠ some t
  | .authenticated => d.line = [] ∧ ∃ t, d.token = some t ∧ isFresh d.config now t = true
  | .expired => d.line = [] ∧ ∃ t, d.token = some t ∧ isFresh d.config now t = false

theorem state_eq_iff (now : Instant) (d : TokenCache σ) (s : TokenState) :
    d.state now = s ↔ d.Reported now s := by
  unfold state
  rcases hl : d.line with _ | ⟨caller, rest⟩
  · rcases ht : d.token with _ | t
    · cases s <;> simp [Reported, hl, ht]
    · by_cases hfresh : isFresh d.config now t = true
      · cases s <;> simp [Reported, hl, ht, hfresh]
      · cases s <;> simp [Reported, hl, ht, hfresh]
  · cases s <;> simp [Reported, hl]

/-! ## Calls in progress -/

/-- What is seen of the calls. -/
structure Ledger where
  /-- The calls that have started and neither returned nor been dropped, in the order in which they
  started. The first of them holds the gate. -/
  inProgress : List Nat := []
  /-- The calls whose fetches are under way, once for each fetch. -/
  fetching : List Nat := []

namespace Ledger

/-- The ledger after an act of a call. -/
def note (id : Nat) (b : Ledger) : Act → Ledger
  | .started _ => { b with fetching := id :: b.fetching }
  | .ended _ _ => { b with fetching := b.fetching.erase id }
  | .returned own _ => { b with inProgress := b.inProgress.erase own }
  | .set _ | .invalidated => b

/-- The ledger after an event with those acts. A call that is dropped gives up its fetch. -/
def book (b : Ledger) (acts : List Act) : Event → Ledger
  | .enter _ id => acts.foldl (note id) { b with inProgress := b.inProgress ++ [id] }
  | .resume _ id => acts.foldl (note id) b
  | .drop id => { inProgress := b.inProgress.erase id, fetching := b.fetching.erase id }
  | .set _ | .invalidate => b

end Ledger

section Drop

variable (c : TokenCache σ) (id : Nat)

@[simp] theorem drop_token : (c.drop id).token = c.token := by
  unfold drop
  split
  · rfl
  · split <;> rfl

@[simp] theorem drop_refreshes : (c.drop id).refreshes = c.refreshes := by
  unfold drop
  split
  · rfl
  · split <;> rfl

theorem drop_flight : (c.drop id).flight =
    if (c.line.map Caller.id).head? = some id then none else c.flight := by
  unfold drop
  rcases hl : c.line with _ | ⟨caller, rest⟩
  · rfl
  · by_cases hid : caller.id = id
    · simp [hid, release]
    · simp [hid]

/-- Of calls with names of their own, the one that is dropped leaves the line. -/
theorem drop_line (h : (c.line.map Caller.id).Nodup) :
    (c.drop id).line.map Caller.id = (c.line.map Caller.id).erase id := by
  unfold drop
  rcases hl : c.line with _ | ⟨caller, rest⟩
  · simp [hl]
  · rw [hl, List.map_cons, List.nodup_cons] at h
    by_cases hid : caller.id = id
    · simp [hid, release, hl]
    · have hfilter : (rest.filter fun other => other.id ≠ id).map Caller.id =
          (rest.map Caller.id).filter (· ≠ id) := by
        rw [List.filter_map]
        rfl
      have herase : (rest.map Caller.id).erase id = (rest.map Caller.id).filter (· ≠ id) := by
        rw [h.2.erase_eq_filter]
        refine List.filter_congr fun other _ => ?_
        simp only [bne, ne_eq, decide_not, beq_eq_decide]
      simp only [hid, if_false, List.map_cons, hfilter]
      rw [List.erase_cons_tail (by simpa using hid), herase]

end Drop

/-- A cache whose calls are those of a ledger, each under a name of its own. -/
structure Kept (d : TokenCache σ) (b : Ledger) : Prop where
  inProgress : d.line.map Caller.id = b.inProgress
  idle : d.flight = none → b.fetching = []
  /-- A fetch under way is that of the first call. -/
  busy : d.flight ≠ none → ∃ id rest, b.inProgress = id :: rest ∧ b.fetching = [id]
  nodup : b.inProgress.Nodup

variable {c d d' : TokenCache σ} {b : Ledger} {e : Event} {r : Option TokenAnswer} {acts : List Act}
  {now : Instant} {observed id : Nat}

theorem Kept.drop (h : Kept d b) (id : Nat) : Kept (d.drop id)
    { inProgress := b.inProgress.erase id, fetching := b.fetching.erase id } := by
  have hline := drop_line d id (h.inProgress ▸ h.nodup)
  have hflight := drop_flight d id
  rw [h.inProgress] at hline hflight
  refine ⟨hline, fun hnone => ?_, fun hsome => ?_, h.nodup.erase id⟩
  · rcases hf : d.flight with _ | f
    · rw [h.idle hf, List.erase_nil]
    · obtain ⟨first, rest, hb, hfetching⟩ := h.busy (by simp [hf])
      obtain rfl : first = id := by
        by_contra hne
        simp [hflight, hb, hne, hf] at hnone
      simp [hfetching]
  · rw [hflight] at hsome
    split at hsome
    · exact absurd rfl hsome
    · next hhead =>
      obtain ⟨first, rest, hb, hfetching⟩ := h.busy hsome
      have hne : first ≠ id := fun heq => hhead (by simp [hb, heq])
      exact ⟨first, rest.erase id, by simp [hb, hne], by simp [hfetching, hne]⟩

/-- A call starts under a name that no call in progress has. -/
theorem Kept.join (h : Kept d b) (hid : id ∉ b.inProgress) (observed : Nat) :
    Kept { d with line := d.line ++ [⟨id, observed⟩] }
      { b with inProgress := b.inProgress ++ [id] } where
  inProgress := by simp [h.inProgress]
  idle := h.idle
  busy hf := by
    obtain ⟨first, rest, hb, hfetching⟩ := h.busy hf
    exact ⟨first, rest ++ [id], by simp [hb], hfetching⟩
  nodup := List.nodup_append.mpr
    ⟨h.nodup, List.nodup_singleton id, fun other hother own hown heq =>
      hid (List.mem_singleton.mp hown ▸ heq ▸ hother)⟩

/-- The first call starts a fetch. -/
theorem Kept.start (h : Kept d b) {rest : List Nat} (hb : b.inProgress = id :: rest)
    (hf : d.flight = none) (hline : d'.line = d.line) (hflight : d'.flight ≠ none) :
    Kept d' { b with fetching := id :: b.fetching } where
  inProgress := by rw [hline, h.inProgress]
  idle hnone := absurd hnone hflight
  busy _ := ⟨id, rest, hb, by rw [h.idle hf]⟩
  nodup := h.nodup

/-- The fetch of the first call ends. -/
theorem Kept.end (h : Kept d b) {rest : List Nat} (hb : b.inProgress = id :: rest)
    (hf : d.flight ≠ none) (hline : d'.line = d.line) (hflight : d'.flight = none) :
    Kept d' { b with fetching := b.fetching.erase id } where
  inProgress := by rw [hline, h.inProgress]
  idle _ := by
    obtain ⟨first, rest', hb', hfetching⟩ := h.busy hf
    obtain ⟨rfl, -⟩ := List.cons.inj (hb.symm.trans hb')
    simp [hfetching]
  busy hsome := absurd hflight hsome
  nodup := h.nodup

/-- The first call leaves the line, without a fetch under way. -/
theorem Kept.leave (h : Kept d b) {rest : List Nat} (hb : b.inProgress = id :: rest)
    (hf : d.flight = none) (hline : d'.line = d.line.tail) (hflight : d'.flight = none) :
    Kept d' { b with inProgress := b.inProgress.erase id } where
  inProgress := by simp [hline, List.map_tail, h.inProgress, hb]
  idle _ := h.idle hf
  busy hsome := absurd hflight hsome
  nodup := h.nodup.erase id

/-! ## The end of a fetch -/

theorem settle_refreshes (now : Instant) (a : TokenAnswer) (c : TokenCache σ) :
    (c.settle now a).2.refreshes = c.refreshes + (Act.brought [.ended now a]).length := by
  rcases a with x | _ | t <;> rfl

theorem settle_of_error {a : TokenAnswer} {x : Error} (h : (c.settle now a).1 = .error x) :
    (c.settle now a).2.token = none ∧ (c.settle now a).2.refreshes = c.refreshes := by
  rcases a with y | _ | t
  · exact ⟨rfl, rfl⟩
  · cases h
  · cases h

/-! ## Steps -/

variable [TokenSource σ]

theorem Turn.kept (h : Turn d now observed id r d' acts) (hk : Kept d b) {rest : List Nat}
    (hb : b.inProgress = id :: rest) : Kept d' (acts.foldl (Ledger.note id) b) := by
  cases h with
  | share hf => exact hk.leave hb hf rfl rfl
  | wait hf => exact ⟨hk.inProgress, by simp, fun _ => hk.busy (by simp [hf]), hk.nodup⟩
  | @finish f hf =>
    have hended : Kept { d with flight := none } { b with fetching := b.fetching.erase id } :=
      hk.end hb (by simp [hf]) rfl rfl
    exact hended.leave hb rfl (settle_line _ _ _) (settle_flight _ _ _)
  | start hf => exact hk.start hb hf rfl (by simp)
  | @fetch f source hf =>
    have hstarted : Kept { d with source, flight := some f } { b with fetching := id :: b.fetching } :=
      hk.start hb hf rfl (by simp)
    have hended : Kept { d with source } { b with fetching := (id :: b.fetching).erase id } :=
      hstarted.end hb (by simp) rfl hf
    exact hended.leave hb hf (settle_line _ _ _) (settle_flight _ _ _)

theorem Move.kept (h : Move d e r d' acts) (hk : Kept d b) (hdrop : ∀ id, e ≠ .drop id)
    (hid : ∀ id ∈ entered [e], id ∉ b.inProgress) : Kept d' (b.book acts e) := by
  cases h with
  | @reuse now id t =>
    have herase : (b.inProgress ++ [id]).erase id = b.inProgress := by
      rw [List.erase_append_right _ (hid id List.mem_cons_self), List.erase_cons_head,
        List.append_nil]
    have hsame : b.book [.returned id (.ok (some t))] (.enter now id) = b :=
      congrArg (fun l => { b with inProgress := l }) herase
    rwa [hsame]
  | @queue _ id => exact hk.join (hid id List.mem_cons_self) d.refreshes
  | @lead _ id _ _ _ _ hl ht =>
    have hjoin := hk.join (hid id List.mem_cons_self) d.refreshes
    have hnil : b.inProgress = [] := by rw [← hk.inProgress, hl, List.map_nil]
    have hfirst : b.inProgress ++ [id] = id :: [] := by rw [hnil, List.nil_append]
    rw [hl, List.nil_append] at hjoin
    exact ht.kept hjoin hfirst
  | @turn _ caller rest _ _ _ hl ht =>
    have hfirst : b.inProgress = caller.id :: rest.map Caller.id := by
      rw [← hk.inProgress, hl, List.map_cons]
    exact ht.kept hk hfirst
  | idle => exact hk
  | giveUp => exact (hdrop _ rfl).elim
  | leave => exact (hdrop _ rfl).elim
  | set => exact ⟨hk.inProgress, hk.idle, hk.busy, hk.nodup⟩
  | invalidate => exact ⟨hk.inProgress, hk.idle, hk.busy, hk.nodup⟩

/-! ## Runs -/

/-- The ledger after a run, from the one before it. -/
def ledgerFrom : Ledger → TokenCache σ → List Event → Ledger
  | b, _, [] => b
  | b, c, e :: l => ledgerFrom (b.book (c.acts e) e) (c.step e).2 l

/-- What is seen of the calls in a run. -/
def ledger (c : TokenCache σ) (l : List Event) : Ledger := ledgerFrom {} c l

/-- Each call starts under a name that no call in line has. -/
def OwnNames : TokenCache σ → List Event → Prop
  | _, [] => True
  | c, e :: l => (∀ id ∈ entered [e], id ∉ c.line.map Caller.id) ∧ OwnNames (c.step e).2 l

theorem kept_run (hk : Kept c b) {es : List Event} (hown : OwnNames c es) :
    Kept (c.run es) (ledgerFrom b c es) := by
  induction es generalizing c b with
  | nil => exact hk
  | cons e es ih =>
    obtain ⟨hid, hrest⟩ := hown
    rw [hk.inProgress] at hid
    refine ih ?_ hrest
    cases e with
    | drop id => exact hk.drop id
    | _ => exact (c.move_step _).kept hk (by simp) hid

theorem Turn.token (h : Turn d now observed id r d' acts) :
    d'.token = acts.foldl Act.held d.token := by
  cases h with
  | finish | fetch =>
    rw [settle_token, ← Act.held_ended]
    rfl
  | _ => rfl

/-- The token held is what the acts make of it. -/
theorem Move.token (h : Move d e r d' acts) : d'.token = acts.foldl Act.held d.token := by
  cases h with
  | lead _ _ ht | turn _ ht => exact ht.token
  | _ => rfl

theorem token_run (c : TokenCache σ) (es : List Event) :
    (c.run es).token = (c.trace es).foldl Act.held c.token := by
  induction es generalizing c with
  | nil => rfl
  | cons e es ih => rw [run_cons, ih, trace, List.foldl_append, (c.move_step e).token]

theorem Turn.refreshes_eq (h : Turn d now observed id r d' acts) :
    d'.refreshes = d.refreshes + (Act.brought acts).length := by
  cases h with
  | finish | fetch =>
    rw [settle_refreshes]
    rfl
  | _ => rfl

theorem Move.refreshes_eq (h : Move d e r d' acts) :
    d'.refreshes = d.refreshes + (Act.brought acts).length := by
  cases h with
  | lead _ _ ht | turn _ ht => exact ht.refreshes_eq
  | _ => rfl

/-- The counter counts the tokens that were brought. -/
theorem refreshes_run (c : TokenCache σ) (es : List Event) :
    (c.run es).refreshes = c.refreshes + (Act.brought (c.trace es)).length := by
  induction es generalizing c with
  | nil => rfl
  | cons e es ih =>
    rw [run_cons, ih, trace, Act.brought_append, List.length_append, (c.move_step e).refreshes_eq,
      Nat.add_assoc]

theorem Turn.failed (h : Turn d now observed id r d' acts) {x : Error}
    (hr : r = some (.error x)) : d'.token = none ∧ d'.refreshes = d.refreshes := by
  cases h with
  | share | wait | start => cases hr
  | finish | fetch => exact settle_of_error (Option.some.inj hr)

/-- A call that returns an error leaves no token, and counts nothing. -/
theorem Move.failed (h : Move d e r d' acts) {x : Error} (hr : r = some (.error x)) :
    d'.token = none ∧ d'.refreshes = d.refreshes := by
  cases h with
  | lead _ _ ht | turn _ ht => exact ht.failed hr
  | _ => cases hr

/-! ## The accounts -/

/-- A cache after a run agrees with what is seen of the run. -/
structure Accounted (c : TokenCache σ) (es : List Event) : Prop where
  /-- The calls in line are those in progress. -/
  line : (c.run es).line.map Caller.id = (c.ledger es).inProgress
  /-- At most one fetch is under way, that of the call that holds the gate. -/
  fetching : (c.ledger es).fetching = [] ∨
    ∃ id rest, (c.ledger es).inProgress = id :: rest ∧ (c.ledger es).fetching = [id]
  authenticating : ∀ now, (c.run es).state now = .authenticating ↔ (c.ledger es).inProgress ≠ []
  unauthenticated : ∀ now, (c.run es).state now = .unauthenticated ↔
    (c.ledger es).inProgress = [] ∧ ∀ t, ¬ Act.Holds t (c.trace es)
  authenticated : ∀ now, (c.run es).state now = .authenticated ↔ (c.ledger es).inProgress = [] ∧
    ∃ t, Act.Holds t (c.trace es) ∧ isFresh c.config now t = true
  expired : ∀ now, (c.run es).state now = .expired ↔ (c.ledger es).inProgress = [] ∧
    ∃ t, Act.Holds t (c.trace es) ∧ isFresh c.config now t = false
  refreshes : (c.run es).refreshes = (Act.brought (c.trace es)).length
  refreshes_le : ∀ more, (c.run es).refreshes ≤ (c.run (es ++ more)).refreshes
  token : ∀ t, (c.run es).token = some t ↔ Act.Holds t (c.trace es)
  failed : ∀ e x, ((c.run es).step e).1 = some (.error x) →
    ((c.run es).step e).2.token = none ∧ ((c.run es).step e).2.refreshes = (c.run es).refreshes
  /-- A call that is dropped leaves the line, and token and counter as they are. -/
  dropped : ∀ id, (c.run (es ++ [.drop id])).token = (c.run es).token ∧
    (c.run (es ++ [.drop id])).refreshes = (c.run es).refreshes ∧
    (c.run (es ++ [.drop id])).line.map Caller.id = (c.ledger es).inProgress.erase id
  /-- If it held the gate, its fetch is given up, and the next call holds the gate. -/
  released : ∀ id rest, (c.ledger es).inProgress = id :: rest →
    (c.run (es ++ [.drop id])).flight = none ∧
    (c.run (es ++ [.drop id])).line.map Caller.id = rest

/-- Whatever calls do to a new cache and whatever is done to it from outside, as long as each call has
a name of its own: the cache agrees with what is seen of it. -/
theorem run_accounted (config : TokenConfig) (source : σ) {es : List Event}
    (hown : OwnNames { config, source } es) : Accounted { config, source } es := by
  generalize hc : ({ config, source } : TokenCache σ) = c at *
  have htoken : ∀ t, (c.run es).token = some t ↔ Act.Holds t (c.trace es) := by
    intro t
    rw [token_run, ← Act.foldl_held_eq_some_iff, ← hc]
  have hkept : Kept (c.run es) (c.ledger es) := by
    have hnew : Kept c {} := by
      rw [← hc]
      exact ⟨rfl, fun _ => rfl, fun hf => absurd rfl hf, List.nodup_nil⟩
    exact kept_run hnew hown
  have hline : (c.run es).line = [] ↔ (c.ledger es).inProgress = [] := by
    rw [← hkept.inProgress, List.map_eq_nil_iff]
  have hconfig : (c.run es).config = c.config := by
    have hsound : Sound c.config c 0 := by
      rw [← hc]
      exact ⟨rfl, by simp, by simp⟩
    exact (hsound.run es).config
  have hdrop : ∀ id, c.run (es ++ [.drop id]) = (c.run es).drop id := fun id => run_append c es _
  refine
    { line := hkept.inProgress
      fetching := ?_
      authenticating := fun now => ?_
      unauthenticated := fun now => ?_
      authenticated := fun now => ?_
      expired := fun now => ?_
      refreshes := ?_
      refreshes_le := fun more => ?_
      token := htoken
      failed := fun e x => ((c.run es).move_step e).failed
      dropped := fun id => ?_
      released := fun id rest hfirst => ?_ }
  · by_cases hf : (c.run es).flight = none
    · exact .inl (hkept.idle hf)
    · exact .inr (hkept.busy hf)
  · rw [state_eq_iff, Reported, ne_eq, hline]
  · simp only [state_eq_iff, Reported, hline, ne_eq, htoken]
  · simp only [state_eq_iff, Reported, hline, htoken, hconfig]
  · simp only [state_eq_iff, Reported, hline, htoken, hconfig]
  · rw [refreshes_run, ← hc, Nat.zero_add]
  · rw [run_append, refreshes_run (c.run es)]
    exact Nat.le_add_right _ _
  · rw [hdrop]
    exact ⟨drop_token _ id, drop_refreshes _ id, (hkept.drop id).inProgress⟩
  · rw [hdrop]
    refine ⟨?_, ?_⟩
    · rw [drop_flight, hkept.inProgress, hfirst, List.head?_cons, if_pos rfl]
    · rw [(hkept.drop id).inProgress, hfirst, List.erase_cons_head]

/-- A cache over a source that answers with a token, with an error, with a token and with none. -/
def moody : TokenCache ScriptedSource where
  source :=
    { outcomes :=
        [{ suspensions := 1, answer := .ok (some { accessToken := "a" }) },
          { answer := .error (.of .emptyContinuation) },
          { answer := .ok (some { accessToken := "c" }) },
          { suspensions := 1, answer := .ok none }] }

/-- The first call is dropped while it fetches, and the one behind it fails. The next call gets a
token, which is dropped, and a call after that fetches again while another waits. -/
def hectic : List Event :=
  [.enter .epoch 0, .enter .epoch 1, .drop 0, .resume .epoch 1, .enter .epoch 2, .invalidate,
    .enter .epoch 3, .enter .epoch 4]

theorem run_accounted_hectic :
    OwnNames moody hectic ∧ Accounted moody hectic ∧
      (moody.ledger hectic).inProgress = [3, 4] ∧ (moody.ledger hectic).fetching = [3] ∧
      (moody.run hectic).state .epoch = .authenticating ∧ (moody.run hectic).refreshes = 1 ∧
      (moody.run hectic).token = none ∧
      (moody.run (hectic ++ [.drop 3])).line.map Caller.id = [4] := by
  have hown : OwnNames moody hectic :=
    ⟨by decide, by decide, by decide, by decide, by decide, by decide, by decide, by decide, trivial⟩
  have haccounted : Accounted moody hectic := run_accounted _ _ hown
  have hcalls : (moody.ledger hectic).inProgress = [3, 4] := rfl
  have hbusy : (moody.run hectic).state .epoch = .authenticating := by
    rw [haccounted.authenticating, hcalls]
    exact List.cons_ne_nil _ _
  exact ⟨hown, haccounted, hcalls, rfl, hbusy, rfl, rfl, (haccounted.released 3 [4] hcalls).2⟩

end EntityHub.TokenCache
