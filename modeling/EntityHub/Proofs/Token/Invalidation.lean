import EntityHub.Proofs.Token.Freshness
import EntityHub.Proofs.Token.Trace
import Mathlib.Data.Fintype.EquivFin
/-!
# Invalidations that are lost

The token held is the one that some fetch brought, and its origin is the number of that fetch
(`TokenCache.origin`). When the token is dropped while a fetch is under way, that fetch still stores
its token when it ends, and calls that start after the drop take it.
`TokenCache.losesInvalidation_iff` says when this happens: exactly if a fetch is under way that
brings a token, and the token is fresh when the later call returns.

The proof follows a run from the drop on (`After`). What is held with an origin before the drop is
what the fetch under way at the drop has brought, and that fetch belongs to a call from before it.
-/

namespace EntityHub.TokenCache

variable {σ : Type}

/-! ## Origins -/

/-- The number of the fetch that brought the token held after an answer to fetch number `i`, if the
token held before was brought by `o`. -/
def originOf (i : Nat) (o : Option Nat) : TokenAnswer → Option Nat
  | .ok (some _) => some i
  | .ok none => o
  | .error _ => none

/-- The number of the fetch that brought the token held after acts, if before them `n` fetches had
been started and the token held was brought by `o`. -/
def originFrom : Nat → Option Nat → List Act → Option Nat
  | _, o, [] => o
  | n, o, .started _ :: l => originFrom (n + 1) o l
  | n, o, .ended _ a :: l => originFrom n (originOf (n - 1) o a) l
  | n, o, .returned _ _ :: l => originFrom n o l
  | n, _, .set _ :: l => originFrom n none l
  | n, _, .invalidated :: l => originFrom n none l

/-- The number of the fetch that brought the token held after acts, counted from 0. -/
def origin (l : List Act) : Option Nat := originFrom 0 none l

theorem originFrom_append (n : Nat) (o : Option Nat) (l m : List Act) :
    originFrom n o (l ++ m) = originFrom (n + (Act.starts l).length) (originFrom n o l) m := by
  induction l generalizing n o with
  | nil => rfl
  | cons a l ih =>
    cases a <;> simp [originFrom, Act.starts, ih, Nat.add_assoc, Nat.add_comm 1]

/-! ## Answers and what is held -/

theorem token_of_fresh? {c : TokenCache σ} {now : Instant} {t : Token}
    (h : c.fresh? now = some t) : c.token = some t ∧ isFresh c.config now t = true := by
  simpa [fresh?, Option.filter_eq_some_iff] using h

theorem token_of_reusable? {c : TokenCache σ} {now : Instant} {t : Token}
    (h : c.reusable? now = some t) : c.token = some t ∧ isFresh c.config now t = true := by
  rw [reusable?, Option.filter_eq_some_iff] at h
  exact ⟨h.1, isFresh_of_isReusable h.2⟩

/-- A token that is shared is the one held. -/
theorem token_of_share? {c : TokenCache σ} {now : Instant} {observed : Nat} {t : Token}
    (h : c.share? now observed = some t) : c.token = some t ∧ isFresh c.config now t = true := by
  unfold share? at h
  split at h
  · exact (Option.or_eq_some_iff.mp h).elim token_of_fresh? fun h => token_of_reusable? h.2
  · exact token_of_reusable? h

theorem token_of_settle {c : TokenCache σ} {now : Instant} {a : TokenAnswer} {t : Token}
    (h : (c.settle now a).1 = .ok (some t)) : (c.settle now a).2.token = some t ∧
      (a = .ok none ∧ isFresh c.config now t = true ∨ a = .ok (some t)) := by
  rcases a with e | _ | u
  · cases h
  · have hf := token_of_fresh? (Except.ok.inj h)
    exact ⟨hf.1, .inl ⟨rfl, hf.2⟩⟩
  · cases h
    exact ⟨rfl, .inr rfl⟩

variable {c c' d d' s : TokenCache σ} {e : Event} {r : Option TokenAnswer} {l : List Act}
  {config : TokenConfig} {now : Instant} {observed id n n₀ : Nat} {o : Option Nat} {t : Token}

/-! ## Runs from an invalidation on -/

/-- What is true of a cache `d` at any time, if `n` fetches were started before. -/
structure Sound (config : TokenConfig) (d : TokenCache σ) (n : Nat) : Prop where
  config : d.config = config
  flying : d.flight ≠ none → d.line ≠ [] ∧ 0 < n
  observed : ∀ caller ∈ d.line, caller.observed ≤ d.refreshes

theorem Sound.settle (hs : Sound config d n) (now : Instant)
    (a : TokenAnswer) (k : Nat) : Sound config (d.settle now a).2 k where
  config := by rw [settle_config, hs.config]
  flying := by simp
  observed caller hc := by
    rw [settle_line] at hc
    exact Nat.le_trans (hs.observed caller (List.mem_of_mem_tail hc)) (settle_refreshes_le now a d)

/-- What is true of a cache `d` on the way from an invalidation of `s`, when `n₀` fetches had been
started, to the point at which `n` are and the token held was brought by `o`. -/
structure After (s d : TokenCache σ) (n₀ n : Nat) (o : Option Nat) : Prop where
  le : n₀ ≤ n
  /-- Nothing is held from before but what the fetch that was under way has brought. -/
  held : ∀ i ∈ o, i < n₀ → ∃ f ∈ s.flight, ∃ t, f.answer = .ok (some t) ∧ d.token = some t
  /-- Until another one is started, the fetch under way is that one, for the same call. -/
  flying : ∀ f ∈ d.flight, n = n₀ →
    d.line.head? = s.line.head? ∧ ∃ g ∈ s.flight, g.answer = f.answer

theorem After.settle (ha : After s d n₀ n o) (now : Instant) {a : TokenAnswer}
    (hown : n = n₀ → ∃ g ∈ s.flight, g.answer = a) :
    After s (d.settle now a).2 n₀ n (originOf (n - 1) o a) := by
  refine ⟨ha.le, fun i hi hlt => ?_, by simp⟩
  rcases a with x | _ | t
  · cases hi
  · exact ha.held i hi hlt
  · have hi' : n - 1 = i := Option.some.inj hi
    have hle := ha.le
    obtain ⟨g, hg, hga⟩ := hown (by omega)
    exact ⟨g, hg, t, hga, rfl⟩

theorem After.started (ha : After s d n₀ n o) (ht : d'.token = d.token) :
    After s d' n₀ (n + 1) o :=
  ⟨Nat.le_succ_of_le ha.le, by rw [ht]; exact ha.held, fun _ _ hn => absurd ha.le (by omega)⟩

variable [TokenSource σ]

/-- A call gets `t` by a fetch that it has started, now or before. -/
inductive Fetched (d : TokenCache σ) (now : Instant) (id : Nat) (t : Token) : List Act → Prop
  | now : Fetched d now id t
      [.started now, .ended now (.ok (some t)), .returned id (.ok (some t))]
  | before {f : Flight} {caller : Caller} : d.flight = some f → d.line.head? = some caller →
      caller.id = id → Fetched d now id t [.ended now (.ok (some t)), .returned id (.ok (some t))]

/-- A token that a call gets is the one held then. It is fresh, or the call has fetched it. -/
theorem Turn.token_of_answer (h : Turn d now observed id r d' l) (hr : r = some (.ok (some t)))
    (hhead : ∃ caller ∈ d.line.head?, caller.id = id) :
    d'.token = some t ∧ (isFresh d.config now t = true ∨ Fetched d now id t l) := by
  cases h with
  | share _ hs =>
    cases hr
    exact ⟨(token_of_share? hs).1, .inl (token_of_share? hs).2⟩
  | wait => cases hr
  | start => cases hr
  | finish hf =>
    have ha := Option.some.inj hr
    obtain ⟨htoken, ⟨-, hfresh⟩ | hown⟩ := token_of_settle ha
    · exact ⟨htoken, .inl hfresh⟩
    · obtain ⟨caller, hcaller, hid⟩ := hhead
      rw [ha, hown]
      exact ⟨hown ▸ htoken, .inr (.before hf hcaller hid)⟩
  | fetch =>
    have ha := Option.some.inj hr
    obtain ⟨htoken, ⟨-, hfresh⟩ | hown⟩ := token_of_settle ha
    · exact ⟨htoken, .inl hfresh⟩
    · rw [ha, hown]
      exact ⟨hown ▸ htoken, .inr .now⟩

theorem Move.token_of_answer (h : Move d e r d' l) (hf : d.flight ≠ none → d.line ≠ [])
    (he : e = .enter now id ∨ e = .resume now id) (hr : r = some (.ok (some t))) :
    d'.token = some t ∧ (isFresh d.config now t = true ∨ Fetched d now id t l) := by
  cases h with
  | reuse hre =>
    obtain ⟨rfl, rfl⟩ : _ = now ∧ _ = id := by simpa using he
    cases hr
    exact ⟨(token_of_reusable? hre).1, .inl (token_of_reusable? hre).2⟩
  | lead _ hl ht =>
    obtain ⟨rfl, rfl⟩ : _ = now ∧ _ = id := by simpa using he
    obtain ⟨htoken, hfresh | hfetched⟩ := ht.token_of_answer hr ⟨_, rfl, rfl⟩
    · exact ⟨htoken, .inl hfresh⟩
    · cases hfetched with
      | now => exact ⟨htoken, .inr .now⟩
      | before hflight => exact absurd hl (hf (by simp [show d.flight = _ from hflight]))
  | turn hl ht =>
    obtain ⟨rfl, rfl⟩ : _ = now ∧ _ = id := by simpa using he
    exact ht.token_of_answer hr ⟨_, by rw [hl]; rfl, rfl⟩
  | _ => cases hr

theorem Turn.sound (h : Turn d now observed id r d' l)
    (hs : Sound config d n) (hl : d.line ≠ []) : Sound config d' (n + (Act.starts l).length) := by
  cases h with
  | share =>
    exact ⟨hs.config, by simp [release], fun caller hc => hs.observed _ (List.mem_of_mem_tail hc)⟩
  | wait hf => exact ⟨hs.config, fun _ => hs.flying (by simp [hf]), hs.observed⟩
  | finish => exact hs.settle _ _ _
  | start => exact ⟨hs.config, fun _ => ⟨hl, by simp [Act.starts]⟩, hs.observed⟩
  | @fetch f source =>
    have hsource : Sound config { d with source } n := ⟨hs.config, hs.flying, hs.observed⟩
    exact hsource.settle _ _ _

theorem Move.sound (h : Move d e r d' l) (hs : Sound config d n) :
    Sound config d' (n + (Act.starts l).length) := by
  have hjoin : ∀ id, Sound config { d with line := d.line ++ [⟨id, d.refreshes⟩] } n := fun id =>
    ⟨hs.config, fun hf => ⟨by simp, (hs.flying hf).2⟩, fun caller hc => by
      rcases List.mem_append.mp hc with hc | hc
      · exact hs.observed caller hc
      · exact Nat.le_of_eq (by rw [List.mem_singleton.mp hc])⟩
  cases h with
  | reuse | idle => exact hs
  | @queue _ id => exact hjoin id
  | @lead _ id _ _ _ _ hl ht =>
    have hlead := hjoin id
    rw [hl, List.nil_append] at hlead
    exact ht.sound hlead (by simp)
  | turn hl ht => exact ht.sound hs (by simp [hl])
  | giveUp =>
    exact ⟨hs.config, by simp [release], fun caller hc => hs.observed _ (List.mem_of_mem_tail hc)⟩
  | @leave _ m hm hsub =>
    refine ⟨hs.config, fun hf => ⟨fun hnil => ?_, (hs.flying hf).2⟩,
      fun caller hc => hs.observed caller (hsub.subset hc)⟩
    have hm' : m = [] := hnil
    rw [hm', List.head?_nil, eq_comm, List.head?_eq_none_iff] at hm
    exact (hs.flying hf).1 hm
  | set => exact ⟨hs.config, hs.flying, hs.observed⟩
  | invalidate => exact ⟨hs.config, hs.flying, hs.observed⟩

theorem Sound.run (hs : Sound config d n) (m : List Event) :
    Sound config (d.run m) (n + (Act.starts (d.trace m)).length) := by
  induction m generalizing d n with
  | nil => exact hs
  | cons e m ih =>
    rw [run_cons, trace, Act.starts_append, List.length_append, ← Nat.add_assoc]
    exact ih ((d.move_step e).sound hs)

theorem Turn.after (h : Turn d now observed id r d' l) (ha : After s d n₀ n o) :
    After s d' n₀ (n + (Act.starts l).length) (originFrom n o l) := by
  cases h with
  | share => exact ⟨ha.le, ha.held, by simp [release]⟩
  | @wait f m hf =>
    refine ⟨ha.le, ha.held, fun g hg hn => ?_⟩
    obtain ⟨hhead, hflight⟩ := ha.flying f hf hn
    obtain rfl := Option.some.inj hg
    exact ⟨hhead, hflight⟩
  | @finish f hf => exact ha.settle now fun hn => (ha.flying f hf hn).2
  | start => exact ha.started rfl
  | @fetch f source =>
    have hstarted : After s { d with source } n₀ (n + 1) o := ha.started rfl
    exact hstarted.settle now fun hn => absurd ha.le (by omega)

theorem Move.after (h : Move d e r d' l) (hf : d.flight ≠ none → d.line ≠ [])
    (ha : After s d n₀ n o) : After s d' n₀ (n + (Act.starts l).length) (originFrom n o l) := by
  cases h with
  | reuse | idle => exact ha
  | @queue _ id _ hl =>
    refine ⟨ha.le, ha.held, fun f hf hn => ?_⟩
    obtain ⟨hhead, hflight⟩ := ha.flying f hf hn
    exact ⟨by rw [← hhead]; exact List.head?_append_of_ne_nil _ hl, hflight⟩
  | @lead _ id _ _ _ _ hl ht =>
    have hnone : d.flight = none := by
      by_contra hne
      exact hf hne hl
    have hlead : After s { d with line := [⟨id, d.refreshes⟩] } n₀ n o :=
      ⟨ha.le, ha.held, by simp [hnone]⟩
    exact ht.after hlead
  | turn hl ht => exact ht.after ha
  | giveUp => exact ⟨ha.le, ha.held, by simp [release]⟩
  | leave hm => exact ⟨ha.le, ha.held, fun f hf hn => ⟨hm.trans (ha.flying f hf hn).1,
      (ha.flying f hf hn).2⟩⟩
  | set | invalidate => exact ⟨ha.le, by simp [originFrom], ha.flying⟩

theorem After.run (ha : After s d n₀ n o) (hs : Sound config d n)
    (m : List Event) :
    After s (d.run m) n₀ (n + (Act.starts (d.trace m)).length) (originFrom n o (d.trace m)) := by
  induction m generalizing d n o with
  | nil => exact ha
  | cons e m ih =>
    rw [run_cons, trace, Act.starts_append, List.length_append, ← Nat.add_assoc, originFrom_append]
    exact ih ((d.move_step e).after (fun hf => (hs.flying hf).1) ha) ((d.move_step e).sound hs)

/-- A token from before that a later call gets is fresh, and the fetch under way brought it. -/
theorem Move.answer_of_after (h : Move d e r d' l) (hs : Sound config d n) (ha : After s d n₀ n o)
    (hid : ∀ caller ∈ s.line, caller.id ≠ id) (he : e = .enter now id ∨ e = .resume now id)
    (hr : r = some (.ok (some t))) {i : Nat} (hi : originFrom n o l = some i) (hlt : i < n₀) :
    ∃ f ∈ s.flight, f.answer = .ok (some t) ∧ isFresh config now t = true := by
  have hflying : d.flight ≠ none → d.line ≠ [] := fun hf => (hs.flying hf).1
  obtain ⟨f, hf, u, hans, hheld⟩ := (h.after hflying ha).held i hi hlt
  obtain ⟨htoken, hfresh | hfetched⟩ := h.token_of_answer hflying he hr
  · obtain rfl : t = u := Option.some.inj (htoken.symm.trans hheld)
    exact ⟨f, hf, hans, hs.config ▸ hfresh⟩
  · have hle := ha.le
    cases hfetched with
    | now =>
      have hi' : n + 1 - 1 = i := Option.some.inj hi
      omega
    | before hflight hhead hown =>
      -- A fetch from before is one for a call that was in line before.
      have hi' : n - 1 = i := Option.some.inj hi
      rw [(ha.flying _ hflight (by omega)).1] at hhead
      exact (hid _ (List.mem_of_mem_head? hhead) hown).elim

/-! ## The token of a fetch that was under way -/

/-- The step of a call, or an invalidation. -/
def Event.isOrdinary : Event → Bool
  | .enter _ _ | .resume _ _ | .invalidate => true
  | .drop _ | .set _ => false

theorem step_share {c : TokenCache σ} {caller : Caller} {rest : List Caller}
    (hl : c.line = caller :: rest) (hf : c.flight = none) (ht : c.token = some t)
    (hfresh : isFresh c.config now t = true) (hc : c.refreshes ≠ caller.observed) :
    c.step (.resume now caller.id) = (some (.ok (some t)), c.release) ∧
      c.acts (.resume now caller.id) = [.returned caller.id (.ok (some t))] := by
  have hs : c.share? now caller.observed = some t := by
    simp [share?, hc, fresh?, ht, hfresh]
  have hadvance : c.advance now caller.observed = (some (.ok (some t)), c.release) := by
    simp [advance, hf, hs]
  rw [step_resume hl, acts_resume hl, hadvance]
  exact ⟨rfl, by simp [turnActs, hf, hs]⟩

/-- Calls in line from before a fetch share the token that it has brought. -/
theorem run_shares (now : Instant) {rest : List Caller} :
    ∀ (m : List Caller) (c : TokenCache σ), c.line = m ++ rest → c.flight = none →
      c.token = some t → isFresh c.config now t = true →
      (∀ caller ∈ m, c.refreshes ≠ caller.observed) →
      c.run (m.map fun caller => .resume now caller.id) = { c with line := rest } ∧
      ∀ n o, originFrom n o (c.trace (m.map fun caller => .resume now caller.id)) = o
  | [], c, hl, _, _, _, _ => ⟨by rw [← hl.trans (List.nil_append rest)]; rfl, fun _ _ => rfl⟩
  | caller :: m, c, hl, hf, ht, hfresh, hm => by
    obtain ⟨hstep, hacts⟩ := step_share hl hf ht hfresh (hm caller (by simp))
    have hline : c.release.line = m ++ rest := by simp [release, hl]
    obtain ⟨hrun, htrace⟩ := run_shares now m c.release hline rfl ht hfresh
      fun caller hc => hm caller (List.mem_cons_of_mem _ hc)
    refine ⟨?_, fun n o => ?_⟩
    · rw [List.map_cons, run_cons, hstep, hrun, release, hf]
    · rw [List.map_cons, trace, hacts, hstep]
      exact htrace n o

/-- The steps in which a fetch under way ends and the calls `m` behind it share what it has
brought. -/
def feeding (now : Instant) (f : Flight) (caller : Caller) (m : List Caller) : List Event :=
  List.replicate (f.suspensions + 1) (.resume now caller.id) ++
    m.map fun other => .resume now other.id

theorem isOrdinary_of_mem_feeding {f : Flight} {caller : Caller} {m : List Caller} {e : Event}
    (he : e ∈ feeding now f caller m) : e.isOrdinary = true := by
  rw [feeding, List.mem_append, List.mem_replicate, List.mem_map] at he
  rcases he with ⟨-, rfl⟩ | ⟨_, -, rfl⟩ <;> rfl

/-- Calls that were in line before a fetch ended leave with its token, which stays. -/
theorem run_feeding {c : TokenCache σ} {f : Flight} {caller : Caller} {m rest : List Caller}
    (hl : c.line = caller :: (m ++ rest)) (hf : c.flight = some f) (ha : f.answer = .ok (some t))
    (hfresh : isFresh c.config now t = true) (hm : ∀ other ∈ m, other.observed ≤ c.refreshes) :
    c.run (feeding now f caller m) = { (c.settle now f.answer).2 with line := rest } ∧
      ∀ n o, originFrom n o (c.trace (feeding now f caller m)) = some (n - 1) := by
  obtain ⟨hend, hendActs⟩ := run_resumes now f.suspensions c f hl hf rfl
  have htoken : (c.settle now f.answer).2.token = some t := by rw [ha]; rfl
  have hrefreshes : (c.settle now f.answer).2.refreshes = c.refreshes + 1 := by rw [ha]; rfl
  have hfresh' : isFresh (c.settle now f.answer).2.config now t = true := by
    rwa [settle_config]
  have hline : (c.settle now f.answer).2.line = m ++ rest := by rw [settle_line, hl, List.tail_cons]
  obtain ⟨hshare, hshareActs⟩ := run_shares now m _ hline (settle_flight _ _ _) htoken hfresh'
    fun other hother => by
      have := hm other hother
      omega
  refine ⟨by rw [feeding, run_append, hend, hshare], fun n o => ?_⟩
  rw [feeding, trace_append, hend, hendActs, originFrom_append, hshareActs, ha]
  rfl

/-- After the run `es` and an invalidation, a call can start that gets `t` at `now`, though the
fetch that brought `t` was started before the invalidation. Meanwhile calls take steps and the token
is invalidated, but nothing is set and no call is dropped. -/
def LosesInvalidation (c : TokenCache σ) (es : List Event) (now : Instant) (t : Token) : Prop :=
  ∃ more id e i, (∀ e ∈ more, e.isOrdinary = true) ∧
    (∀ caller ∈ (c.run es).line, caller.id ≠ id) ∧ (e = .enter now id ∨ e = .resume now id) ∧
    ((c.run (es ++ .invalidate :: more)).step e).1 = some (.ok (some t)) ∧
    origin (c.trace (es ++ .invalidate :: (more ++ [e]))) = some i ∧
    i < (Act.starts (c.trace es)).length

/-- The origin of what is held, in a run with an invalidation. -/
theorem origin_trace_invalidate (c : TokenCache σ) (es m : List Event) :
    origin (c.trace (es ++ .invalidate :: m)) =
      originFrom (Act.starts (c.trace es)).length none ((c.run es).invalidate.trace m) := by
  rw [trace_append, origin, originFrom_append, Nat.zero_add]
  rfl

theorem run_invalidate (c : TokenCache σ) (es m : List Event) :
    c.run (es ++ .invalidate :: m) = (c.run es).invalidate.run m :=
  run_append c es _

/-- After an invalidation a call gets in line behind the others. -/
theorem enter_invalidate {d : TokenCache σ} (hne : d.line ≠ []) (now : Instant) (id : Nat) :
    d.invalidate.step (.enter now id) =
        (none, { d.invalidate with line := d.line ++ [⟨id, d.refreshes⟩] }) ∧
      d.invalidate.acts (.enter now id) = [] := by
  have hempty : d.line.isEmpty = false := by simpa using hne
  simp [acts, fetchActs, step, enter, reusable?, invalidate, hempty]

/-- A fetch that is under way at an invalidation hands its token to a call that starts after it. -/
theorem LosesInvalidation.of_flight {c : TokenCache σ} {es : List Event} {f : Flight}
    (hs : Sound config (c.run es) (Act.starts (c.trace es)).length)
    (hf : (c.run es).flight = some f) (ha : f.answer = .ok (some t))
    (hfresh : isFresh config now t = true) : LosesInvalidation c es now t := by
  generalize hd : c.run es = d at hs hf
  obtain ⟨hne, hstarts⟩ := hs.flying (by simp [hf])
  obtain ⟨caller, rest, hl⟩ := List.exists_cons_of_ne_nil hne
  obtain ⟨id, hid⟩ := Infinite.exists_notMem_finset (d.line.map Caller.id).toFinset
  have hid' : ∀ caller ∈ d.line, caller.id ≠ id := fun caller hc heq =>
    hid (List.mem_toFinset.mpr (List.mem_map.mpr ⟨caller, hc, heq⟩))
  -- The later call gets in line, the fetch ends, and the calls ahead of the later one share.
  let joined : TokenCache σ := { d.invalidate with line := d.line ++ [⟨id, d.refreshes⟩] }
  obtain ⟨henter, henterActs⟩ := enter_invalidate hne now id
  have hconfig : isFresh joined.config now t = true := hs.config ▸ hfresh
  have hline : joined.line = caller :: (rest ++ [⟨id, d.refreshes⟩]) := by simp [joined, hl]
  obtain ⟨hfed, hfedActs⟩ := run_feeding hline hf ha hconfig fun other hother =>
    hs.observed other (by rw [hl]; exact List.mem_cons_of_mem _ hother)
  have htoken : (joined.settle now f.answer).2.token = some t := by rw [ha]; rfl
  have hmoved : (joined.settle now f.answer).2.refreshes ≠ d.refreshes := by
    rw [ha]
    exact Nat.succ_ne_self _
  obtain ⟨hlast, hlastActs⟩ :=
    step_share (c := { (joined.settle now f.answer).2 with line := [⟨id, d.refreshes⟩] }) rfl
      (settle_flight _ _ _) htoken (by rw [settle_config]; exact hconfig) hmoved
  refine ⟨.enter now id :: feeding now f caller rest, id, .resume now id,
    (Act.starts (c.trace es)).length - 1, ?_, ?_, .inr rfl, ?_, ?_, by omega⟩
  · intro e he
    rcases List.mem_cons.mp he with rfl | he
    · rfl
    · exact isOrdinary_of_mem_feeding he
  · rwa [hd]
  · rw [run_invalidate, hd, run_cons, henter, hfed, hlast]
  · rw [origin_trace_invalidate, hd, List.cons_append, trace, henter, henterActs, List.nil_append,
      trace_append, hfed, trace_singleton, hlastActs, originFrom_append, hfedActs]
    rfl

/-- An invalidation is lost exactly if a fetch is under way at it that brings the token, as long as
that token is fresh. -/
theorem losesInvalidation_iff (config : TokenConfig) (source : σ) (es : List Event) (now : Instant)
    (t : Token) : LosesInvalidation { config, source } es now t ↔
      ∃ f ∈ (({ config, source } : TokenCache σ).run es).flight,
        f.answer = .ok (some t) ∧ isFresh config now t = true := by
  generalize hc : ({ config, source } : TokenCache σ) = c
  have hs : Sound config (c.run es) (Act.starts (c.trace es)).length := by
    have hstart : Sound config c 0 := by rw [← hc]; exact ⟨rfl, by simp, by simp⟩
    have hrun := hstart.run es
    rwa [Nat.zero_add] at hrun
  constructor
  · rintro ⟨more, id, e, i, -, hid, he, hr, hi, hlt⟩
    have hinv : Sound config (c.run es).invalidate (Act.starts (c.trace es)).length :=
      ⟨hs.config, hs.flying, hs.observed⟩
    have hafter : After (c.run es) (c.run es).invalidate (Act.starts (c.trace es)).length
        (Act.starts (c.trace es)).length none :=
      ⟨Nat.le_refl _, by simp, fun f hf _ => ⟨rfl, f, hf, rfl⟩⟩
    rw [run_invalidate] at hr
    rw [origin_trace_invalidate, trace_append, trace_singleton, originFrom_append] at hi
    exact (move_step _ e).answer_of_after (hinv.run more) (hafter.run hinv more) hid he hr hi hlt
  · rintro ⟨f, hf, ha, hfresh⟩
    exact .of_flight hs hf ha hfresh

end EntityHub.TokenCache
