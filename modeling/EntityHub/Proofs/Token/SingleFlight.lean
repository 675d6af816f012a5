import EntityHub.Proofs.Token.Freshness
import EntityHub.Proofs.Token.Trace
/-!
# Single flight

Calls that overlap before the first of their fetches ends form a batch (`TokenCache.Batch`). The
calls of a batch fetch one after another until a fetch brings a fresh token, and the calls behind
share that token: `TokenCache.single_flight`.

The proof keeps one of two states up. As long as no fresh token was brought (`Stale`), nobody can
use what the cache holds, so the call that holds the gate fetches. Once one was (`Fed`), the counter
has moved past what the calls observed, so each of them takes that token.
-/

namespace EntityHub.TokenCache

variable {σ : Type}

/-! ## What a fetch brings -/

/-- Whether an answer is a token that is fresh at an instant. -/
def isFreshAnswer (config : TokenConfig) (now : Instant) : TokenAnswer → Bool
  | .ok (some t) => isFresh config now t
  | _ => false

theorem isFreshAnswer_iff {config : TokenConfig} {now : Instant} {a : TokenAnswer} :
    isFreshAnswer config now a = true ↔ ∃ t, a = .ok (some t) ∧ isFresh config now t = true := by
  rcases a with e | _ | t <;> simp [isFreshAnswer]

/-- What a call returns whose own fetch ends with an answer: an error and a token as they are, and
for no token the one held, if it is fresh. -/
def own (config : TokenConfig) (held : Option Token) (now : Instant) : TokenAnswer → TokenAnswer
  | .ok none => .ok (held.filter (isFresh config now))
  | a => a

/-- What calls return that fetch one after another. -/
def owns (config : TokenConfig) : Option Token → List (Instant × TokenAnswer) → List TokenAnswer
  | _, [] => []
  | held, (now, a) :: l => own config held now a :: owns config (a.hold held) l

/-- The token held after answers. -/
def heldAfter (held : Option Token) (l : List (Instant × TokenAnswer)) : Option Token :=
  l.foldl (fun held x => x.2.hold held) held

theorem owns_append (config : TokenConfig) (held : Option Token) (l : List (Instant × TokenAnswer))
    (now : Instant) (a : TokenAnswer) : owns config held (l ++ [(now, a)]) =
      owns config held l ++ [own config (heldAfter held l) now a] := by
  induction l generalizing held with
  | nil => rfl
  | cons x l ih => simp [owns, heldAfter, ih]

@[simp] theorem length_owns (config : TokenConfig) (held : Option Token)
    (l : List (Instant × TokenAnswer)) : (owns config held l).length = l.length := by
  induction l generalizing held with
  | nil => rfl
  | cons x l ih => simp [owns, ih]

theorem settle_fst (now : Instant) (a : TokenAnswer) (c : TokenCache σ) :
    (c.settle now a).1 = own c.config c.token now a := by
  rcases a with e | _ | t <;> rfl

/-! ## The state of a batch -/

/-- No fetch of the batch has brought a fresh token: each has ended the call that made it, and what
the cache holds is of no use to those in line. -/
structure Stale (c d : TokenCache σ) (due now : Instant) (l : List Act) (ids : List Nat) :
    Prop where
  answers : ∀ x ∈ Act.answers l, isFreshAnswer c.config due x.2 = false
  returns : (Act.returns l).map Prod.snd = owns c.config c.token (Act.answers l)
  token : d.token = heldAfter c.token (Act.answers l)
  unusable : ids ≠ [] → ∀ t, d.token = some t → isReusable c.config now t = false ∧
    (d.refreshes ≠ c.refreshes → isFresh c.config now t = false)

/-- The last fetch of the batch has brought a fresh token, and the calls after it took that. -/
structure Fed (c d : TokenCache σ) (due : Instant) (l : List Act) (t : Token) : Prop where
  answers : ∃ o now, Act.answers l = o ++ [(now, .ok (some t))] ∧
    ∀ x ∈ o, isFreshAnswer c.config due x.2 = false
  returns : ∃ m, (Act.returns l).map Prod.snd =
    owns c.config c.token (Act.answers l) ++ List.replicate m (.ok (some t))
  fresh : isFresh c.config due t = true
  token : d.token = some t
  flight : d.flight = none
  refreshes : d.refreshes ≠ c.refreshes

/-- A batch on `c` that has come to `d`: its calls return in their order, and none has observed
another count than that at the start. -/
structure Shared (c d : TokenCache σ) (due now : Instant) (l : List Act) (ids : List Nat) :
    Prop where
  config : d.config = c.config
  order : (Act.returns l).map Prod.fst ++ d.line.map Caller.id = ids
  observed : ∀ caller ∈ d.line, caller.observed = c.refreshes
  refreshes_le : c.refreshes ≤ d.refreshes
  refreshes_eq : Act.answers l = [] → d.refreshes = c.refreshes
  flying : d.flight ≠ none → d.line ≠ []
  outcome : Stale c d due now l ids ∨ ∃ t, Fed c d due l t

variable {c d d' : TokenCache σ} {due last now : Instant} {l acts : List Act} {ids : List Nat}

theorem Stale.mono (h : Stale c d due last l ids) (hnow : last ≤ now) :
    Stale c d due now l ids where
  answers := h.answers
  returns := h.returns
  token := h.token
  unusable hids t ht :=
    ⟨isReusable_eq_false_of_le hnow (h.unusable hids t ht).1,
      fun hne => isFresh_eq_false_of_le hnow ((h.unusable hids t ht).2 hne)⟩

/-- Acts that bring no answer and end no call leave a batch stale. -/
theorem Stale.append (h : Stale c d due now l ids) (ht : d'.token = d.token)
    (hr : d'.refreshes = d.refreshes) (pre : List Act) (hpre : Act.answers pre = [])
    (hpre' : Act.returns pre = []) : Stale c d' due now (l ++ pre) ids where
  answers := by simpa [hpre] using h.answers
  returns := by simpa [hpre, hpre'] using h.returns
  token := by simpa [hpre, ht] using h.token
  unusable := by simpa [ht, hr] using h.unusable

/-- In a stale batch nobody in line finds a token to take. -/
theorem Stale.share?_eq_none (h : Stale c d due now l ids) (hc : d.config = c.config)
    (hids : ids ≠ []) : d.share? now c.refreshes = none := by
  have hr : d.reusable? now = none := by
    rw [reusable?, Option.filter_eq_none_iff, hc]
    intro t ht
    simp [(h.unusable hids t ht).1]
  unfold share?
  split
  · rename_i hne
    have hf : d.fresh? now = none := by
      rw [fresh?, Option.filter_eq_none_iff, hc]
      intro t ht
      simp [(h.unusable hids t ht).2 hne]
    rw [hf, hr, Option.or_none]
  · exact hr

/-- What a fetch brings to a stale batch is of no use, unless it is a fresh token. -/
theorem Stale.unusable_settle (h : Stale c d due now l ids) {a : TokenAnswer}
    (ha : ∀ t, a = .ok (some t) → isFresh c.config due t = true ∨ isFresh c.config now t = false)
    (hf : isFreshAnswer c.config due a = false) (hids : ids ≠ []) (t : Token)
    (ht : (d.settle now a).2.token = some t) : isReusable c.config now t = false ∧
      ((d.settle now a).2.refreshes ≠ c.refreshes → isFresh c.config now t = false) := by
  rw [settle_token] at ht
  rcases a with e | _ | t'
  · simp [TokenAnswer.hold] at ht
  · exact h.unusable hids t ht
  · obtain rfl : t' = t := by simpa [TokenAnswer.hold] using ht
    have hstale : isFresh c.config now t' = false := by
      rcases ha t' rfl with hfr | hst
      · simp [isFreshAnswer, hfr] at hf
      · exact hst
    refine ⟨Bool.eq_false_iff.mpr fun hre => ?_, fun _ => hstale⟩
    simp [isFresh_of_isReusable hre] at hstale

/-- A fetch that ends in a stale batch leaves it stale, unless it brings a fresh token. -/
theorem Stale.settle (h : Stale c d due now l ids) (hc : d.config = c.config)
    (hle : c.refreshes ≤ d.refreshes) (pre : List Act) (hpre : Act.answers pre = [])
    (hpre' : Act.returns pre = []) (id : Nat) (a : TokenAnswer)
    (ha : ∀ t, a = .ok (some t) → isFresh c.config due t = true ∨ isFresh c.config now t = false) :
    Stale c (d.settle now a).2 due now
        (l ++ (pre ++ [.ended now a, .returned id (d.settle now a).1])) ids ∨
      ∃ t, Fed c (d.settle now a).2 due
        (l ++ (pre ++ [.ended now a, .returned id (d.settle now a).1])) t := by
  have hans : Act.answers (l ++ (pre ++ [.ended now a, .returned id (d.settle now a).1])) =
      Act.answers l ++ [(now, a)] := by simp [Act.answers, hpre]
  have hret : (Act.returns (l ++ (pre ++ [.ended now a, .returned id (d.settle now a).1]))).map
      Prod.snd = owns c.config c.token (Act.answers l ++ [(now, a)]) := by
    rw [owns_append, ← h.returns, ← h.token, ← hc, ← settle_fst]
    simp [Act.returns, hpre']
  have htoken : (d.settle now a).2.token = heldAfter c.token (Act.answers l ++ [(now, a)]) := by
    rw [settle_token, h.token]
    simp [heldAfter]
  by_cases hf : isFreshAnswer c.config due a = true
  · obtain ⟨t, rfl, hfresh⟩ := isFreshAnswer_iff.mp hf
    have hmoved : (d.settle now (.ok (some t))).2.refreshes ≠ c.refreshes := by
      simp only [TokenCache.settle, release]
      omega
    exact Or.inr ⟨t, ⟨_, now, hans, h.answers⟩, ⟨0, by rw [hret, hans]; simp⟩, hfresh,
      by simp [TokenAnswer.hold], by simp, hmoved⟩
  · rw [Bool.not_eq_true] at hf
    refine Or.inl ⟨?_, by rw [hans, hret], by rw [hans, htoken], h.unusable_settle ha hf⟩
    rw [hans]
    intro x hx
    rcases List.mem_append.mp hx with hx | hx
    · exact h.answers x hx
    · rw [List.mem_singleton.mp hx]
      exact hf

/-- After a fresh token was brought, everybody in line takes it. -/
theorem Fed.share?_eq_some {t : Token} (h : Fed c d due l t) (hc : d.config = c.config)
    (hnow : now ≤ due) : d.share? now c.refreshes = some t := by
  have hf : d.fresh? now = some t := by
    rw [fresh?, h.token, hc, Option.filter_some, if_pos (isFresh_of_le hnow h.fresh)]
  rw [share?, if_pos h.refreshes, hf, Option.some_or]

theorem Fed.share {t : Token} (h : Fed c d due l t) (id : Nat) :
    Fed c d.release due (l ++ [.returned id (.ok (some t))]) t := by
  obtain ⟨m, hm⟩ := h.returns
  exact ⟨by simpa [Act.answers] using h.answers,
    ⟨m + 1, by simp [Act.returns, Act.answers, hm, List.replicate_succ']⟩,
    h.fresh, h.token, rfl, h.refreshes⟩

/-- A call that finds no token to use before the first fetch has ended gets in line. -/
theorem Shared.join (h : Shared c d due now l ids) (hr : d.reusable? now = none)
    (hans : Act.answers l = []) (id : Nat) :
    Shared c { d with line := d.line ++ [⟨id, d.refreshes⟩] } due now l (ids ++ [id]) := by
  have hcount := h.refreshes_eq hans
  refine
    { h with
      order := by simp [← h.order]
      observed := ?_
      flying := by simp
      outcome := ?_ }
  · intro caller hcaller
    rcases List.mem_append.mp hcaller with hc | hc
    · exact h.observed caller hc
    · rw [List.mem_singleton.mp hc]
      exact hcount
  · rcases h.outcome with hst | ⟨t, hfed⟩
    · refine Or.inl ⟨hst.answers, hst.returns, hst.token,
        fun _ t ht => ⟨?_, fun hne => (hne hcount).elim⟩⟩
      rw [reusable?, Option.filter_eq_none_iff, h.config] at hr
      simpa using hr t ht
    · obtain ⟨o, at', ho, -⟩ := hfed.answers
      simp [ho] at hans

theorem Shared.mono (h : Shared c d due last l ids) (hnow : last ≤ now) :
    Shared c d due now l ids :=
  { h with outcome := h.outcome.imp_left fun hst => hst.mono hnow }

/-- If the first answer is a fresh token, it is the only one, and everybody takes that token. -/
theorem Shared.first (h : Shared c d due now l ids) {at' : Instant} {t : Token}
    (hhead : (Act.answers l).head? = some (at', .ok (some t)))
    (hfresh : isFresh c.config due t = true) : Act.answers l = [(at', .ok (some t))] ∧
      ∃ m, (Act.returns l).map Prod.snd = List.replicate m (.ok (some t)) := by
  rcases h.outcome with hst | ⟨t', hfed⟩
  · have := hst.answers _ (List.mem_of_mem_head? hhead)
    simp [isFreshAnswer, hfresh] at this
  · obtain ⟨o, at₀, ho, hstale⟩ := hfed.answers
    obtain ⟨m, hm⟩ := hfed.returns
    rcases o with _ | ⟨x, o⟩
    · rw [ho] at hhead hm ⊢
      obtain ⟨rfl, ht⟩ : at₀ = at' ∧ t' = t := by simpa using hhead
      exact ⟨by simp [ht], m + 1, by rw [hm, ht]; rfl⟩
    · obtain rfl : x = (at', .ok (some t)) := by simpa [ho] using hhead
      have := hstale _ List.mem_cons_self
      simp [isFreshAnswer, hfresh] at this

variable [TokenSource σ]

/-- A turn either leaves the call in line with a fetch under way, or ends it. -/
theorem Turn.line {observed id : Nat} {r : Option TokenAnswer}
    (h : Turn d now observed id r d' acts) :
    (Act.returns acts = [] ∧ d'.line = d.line ∧ ∃ f, d'.flight = some f) ∨
      (∃ a, Act.returns acts = [(id, a)] ∧ d'.line = d.line.tail ∧ d'.flight = none) := by
  cases h with
  | wait | start => exact Or.inl ⟨rfl, rfl, _, rfl⟩
  | share | finish | fetch => exact Or.inr ⟨_, rfl, by simp [release], by simp [release]⟩

theorem Turn.config {observed id : Nat} {r : Option TokenAnswer}
    (h : Turn d now observed id r d' acts) : d'.config = d.config := by
  cases h <;> simp [release]

theorem Turn.refreshes {observed id : Nat} {r : Option TokenAnswer}
    (h : Turn d now observed id r d' acts) :
    d.refreshes ≤ d'.refreshes ∧ (Act.answers acts = [] → d'.refreshes = d.refreshes) := by
  cases h with
  | finish => exact ⟨settle_refreshes_le .., by simp [Act.answers]⟩
  | @fetch f source =>
    exact ⟨settle_refreshes_le now f.answer { d with source }, by simp [Act.answers]⟩
  | _ => exact ⟨Nat.le_refl _, fun _ => rfl⟩

/-- What a batch has come to after the call in front has had a turn. -/
theorem Shared.outcome_turn (h : Shared c d due now l ids) (hids : ids ≠ []) (hnow : now ≤ due)
    {id : Nat} {r : Option TokenAnswer} (ht : Turn d now c.refreshes id r d' acts)
    (hs : ∀ t, (now, .ok (some t)) ∈ Act.answers acts →
      isFresh c.config due t = true ∨ isFresh c.config now t = false) :
    Stale c d' due now (l ++ acts) ids ∨ ∃ t, Fed c d' due (l ++ acts) t := by
  rcases h.outcome with hst | ⟨t, hfed⟩
  · have hnone := hst.share?_eq_none h.config hids
    cases ht with
    | share _ hshare => simp [hnone] at hshare
    | wait => exact Or.inl (hst.append (by rfl) (by rfl) [] rfl rfl)
    | start => exact Or.inl (hst.append (by rfl) (by rfl) [.started now] rfl rfl)
    | finish =>
      exact hst.settle h.config h.refreshes_le [] rfl rfl id _ fun t ht =>
        hs t (by simp [Act.answers, ht])
    | @fetch f source =>
      have hst' : Stale c { d with source } due now l ids :=
        ⟨hst.answers, hst.returns, hst.token, hst.unusable⟩
      exact hst'.settle h.config h.refreshes_le [.started now] rfl rfl id _ fun t ht =>
        hs t (by simp [Act.answers, ht])
  · have hsome := hfed.share?_eq_some h.config hnow
    cases ht with
    | share _ hshare =>
      obtain rfl : t = _ := Option.some.inj (hsome.symm.trans hshare)
      exact Or.inr ⟨t, hfed.share id⟩
    | wait hf => simp [hfed.flight] at hf
    | finish hf => simp [hfed.flight] at hf
    | start _ hshare => simp [hsome] at hshare
    | fetch _ hshare => simp [hsome] at hshare

theorem Shared.turn (h : Shared c d due now l ids) (hnow : now ≤ due) {caller : Caller}
    {rest : List Caller} (hl : d.line = caller :: rest) {r : Option TokenAnswer}
    (ht : Turn d now caller.observed caller.id r d' acts)
    (hs : ∀ t, (now, .ok (some t)) ∈ Act.answers acts →
      isFresh c.config due t = true ∨ isFresh c.config now t = false) :
    Shared c d' due now (l ++ acts) ids := by
  have hids : ids ≠ [] := by
    rw [← h.order, hl]
    simp
  have hobs : caller.observed = c.refreshes := h.observed caller (by simp [hl])
  rw [hobs] at ht
  obtain ⟨hle, heq⟩ := ht.refreshes
  refine
    { config := ht.config.trans h.config
      order := ?_
      observed := ?_
      refreshes_le := Nat.le_trans h.refreshes_le hle
      refreshes_eq := ?_
      flying := ?_
      outcome := h.outcome_turn hids hnow ht hs }
  · rcases ht.line with ⟨hret, hline, -⟩ | ⟨a, hret, hline, -⟩
    · simpa [hret, hline] using h.order
    · simpa [hret, hline, hl] using h.order
  · intro other hother
    rcases ht.line with ⟨-, hline, -⟩ | ⟨a, -, hline, -⟩
    · exact h.observed other (hline ▸ hother)
    · exact h.observed other (List.mem_of_mem_tail (hline ▸ hother))
  · intro hans
    rw [Act.answers_append, List.append_eq_nil_iff] at hans
    rw [heq hans.2, h.refreshes_eq hans.1]
  · intro hf
    rcases ht.line with ⟨-, hline, -⟩ | ⟨a, -, -, hflight⟩
    · simp [hline, hl]
    · exact (hf hflight).elim

/-! ## Batches -/

/-- A step at `now` of a batch that is over by `due`. The clock does not run backwards, and a token
that the step brings is fresh until the batch is over, or not fresh at all. -/
structure Steady (c : TokenCache σ) (last now due : Instant) (e : Event) : Prop where
  le : last ≤ now
  le_due : now ≤ due
  answers : ∀ x ∈ Act.answers (c.acts e),
    isFreshAnswer c.config due x.2 = true ∨ isFreshAnswer c.config now x.2 = false

theorem Shared.enter (h : Shared c d due last l ids) {id : Nat} (hr : d.reusable? now = none)
    (hans : Act.answers l = []) (hs : Steady d last now due (.enter now id)) :
    Shared c (d.step (.enter now id)).2 due now (l ++ d.acts (.enter now id)) (ids ++ [id]) := by
  have hjoin := (h.mono hs.le).join hr hans id
  have hm := d.move_step (.enter now id)
  have hanswers := hs.answers
  rw [h.config] at hanswers
  generalize d.acts (.enter now id) = acts at *
  generalize d.step (.enter now id) = x at *
  obtain ⟨r, d'⟩ := x
  cases hm with
  | reuse hre => simp [hre] at hr
  | queue => simpa using hjoin
  | lead _ hl ht =>
    rw [hl] at hjoin
    exact hjoin.turn hs.le_due rfl ht fun t => hanswers (now, .ok (some t))

theorem Shared.resume (h : Shared c d due last l ids) {id : Nat}
    (hs : Steady d last now due (.resume now id)) :
    Shared c (d.step (.resume now id)).2 due now (l ++ d.acts (.resume now id)) ids := by
  have hmono := h.mono hs.le
  have hm := d.move_step (.resume now id)
  have hanswers := hs.answers
  rw [h.config] at hanswers
  generalize d.acts (.resume now id) = acts at *
  generalize d.step (.resume now id) = x at *
  obtain ⟨r, d'⟩ := x
  cases hm with
  | turn hl ht => exact hmono.turn hs.le_due hl ht fun t => hanswers (now, .ok (some t))
  | idle => simpa using hmono

/-- The calls that enter. -/
def entered : List Event → List Nat
  | [] => []
  | .enter _ id :: l => id :: entered l
  | _ :: l => entered l

/-- A batch of calls on a cache without a call: each enters before the first of their fetches ends,
finds no token to use and gets in line. Nothing else is done to the cache, and no call is
dropped. -/
inductive Batch (c : TokenCache σ) (due : Instant) : Instant → List Event → Prop
  | idle {now : Instant} : c.line = [] → c.flight = none → Batch c due now []
  | enter {last now : Instant} {l : List Event} {id : Nat} : Batch c due last l →
      (c.run l).reusable? now = none → Act.answers (c.trace l) = [] →
      Steady (c.run l) last now due (.enter now id) → Batch c due now (l ++ [.enter now id])
  | resume {last now : Instant} {l : List Event} {id : Nat} : Batch c due last l →
      Steady (c.run l) last now due (.resume now id) → Batch c due now (l ++ [.resume now id])

theorem entered_append (l m : List Event) : entered (l ++ m) = entered l ++ entered m := by
  induction l with
  | nil => rfl
  | cons e l ih => cases e <;> simp [entered, ih]

theorem Batch.shared {es : List Event} (h : Batch c due now es) :
    Shared c (c.run es) due now (c.trace es) (entered es) := by
  induction h with
  | idle hl hf =>
    refine ⟨rfl, by simp [hl, trace, entered, Act.returns], by simp [hl], Nat.le_refl _,
      fun _ => rfl, by simp [hf], Or.inl ?_⟩
    exact ⟨by simp [trace, Act.answers], rfl, rfl, fun hids => (hids rfl).elim⟩
  | @enter last now es id hb hr hans hs ih =>
    rw [run_append, trace_append, entered_append, run_singleton, trace_singleton]
    exact ih.enter hr hans hs
  | @resume last now es id hb hs ih =>
    rw [run_append, trace_append, entered_append, run_singleton, trace_singleton]
    simpa [entered] using ih.resume hs

/-! ## The end of a batch -/

theorem exists_resumes_turn (c : TokenCache σ) (now : Instant) {caller : Caller}
    {rest : List Caller} (hl : c.line = caller :: rest) :
    ∃ es, (∀ e ∈ es, ∃ id, e = .resume now id) ∧ (c.run es).line = rest := by
  have ht := turn_advance c now caller.observed caller.id
  rw [← step_resume hl] at ht
  rcases ht.line with ⟨-, hline, f, hf⟩ | ⟨a, -, hline, -⟩
  · refine ⟨.resume now caller.id :: List.replicate (f.suspensions + 1) (.resume now caller.id),
      by simp +contextual, ?_⟩
    rw [run_cons, (run_resumes now _ _ f (hline.trans hl) hf rfl).1, settle_line, hline, hl,
      List.tail_cons]
  · exact ⟨[.resume now caller.id], by simp, by rw [run_singleton, hline, hl, List.tail_cons]⟩

/-- All calls in line return when they are resumed often enough. -/
theorem exists_resumes (now : Instant) :
    ∀ (line : List Caller) (c : TokenCache σ), c.line = line →
      ∃ es, (∀ e ∈ es, ∃ id, e = .resume now id) ∧ (c.run es).line = []
  | [], c, hl => ⟨[], by simp, hl⟩
  | _ :: rest, c, hl => by
    obtain ⟨es, hes, hrest⟩ := c.exists_resumes_turn now hl
    obtain ⟨more, hmore, hnil⟩ := exists_resumes now rest _ hrest
    refine ⟨es ++ more, fun e he => ?_, by rw [run_append, hnil]⟩
    rcases List.mem_append.mp he with h | h
    · exact hes e h
    · exact hmore e h

theorem Batch.not_drop {es : List Event} (h : Batch c due now es) :
    ∀ e ∈ es, ∀ id, e ≠ .drop id := by
  induction h with
  | idle => simp
  | enter _ _ _ _ ih | resume _ _ ih =>
    intro e he
    rcases List.mem_append.mp he with he | he
    · exact ih e he
    · rw [List.mem_singleton.mp he]
      simp

theorem Batch.flight_eq_none {es : List Event} (h : Batch c due now es) : c.flight = none := by
  induction h with
  | idle _ hf => exact hf
  | enter _ _ _ _ ih | resume _ _ ih => exact ih

/-- The calls of a batch fetch one at a time, and what they get are the successive answers of the
source. Either none of these is a fresh token; then there are as many as calls, and each call gets
its own. Or the last one alone is; then the calls before it and its own get theirs, and the calls
behind share that token. The calls return in the order in which they got in line, and all of them
do when they are resumed often enough. -/
theorem single_flight {es : List Event} (h : Batch c due now es) :
    (∃ more, (∀ e ∈ more, ∃ id, e = .resume now id) ∧ (c.run (es ++ more)).line = []) ∧
    ((c.run es).line = [] →
      Act.OneAtATime false (c.trace es) ∧
      TokenSource.draw (Act.starts (c.trace es)) c.source =
        ((Act.answers (c.trace es)).map Prod.snd, (c.run es).source) ∧
      (Act.returns (c.trace es)).map Prod.fst = entered es ∧
      (((∀ x ∈ Act.answers (c.trace es), isFreshAnswer c.config due x.2 = false) ∧
          (Act.starts (c.trace es)).length = (entered es).length ∧
          (Act.returns (c.trace es)).map Prod.snd =
            owns c.config c.token (Act.answers (c.trace es))) ∨
        ∃ o at' t m, Act.answers (c.trace es) = o ++ [(at', .ok (some t))] ∧
          (∀ x ∈ o, isFreshAnswer c.config due x.2 = false) ∧ isFresh c.config due t = true ∧
          (Act.starts (c.trace es)).length = o.length + 1 ∧
          o.length + 1 + m = (entered es).length ∧
          (Act.returns (c.trace es)).map Prod.snd =
            owns c.config c.token (Act.answers (c.trace es)) ++
              List.replicate m (.ok (some t))) ∧
      ∀ at' t, (Act.answers (c.trace es)).head? = some (at', .ok (some t)) →
        isFresh c.config due t = true → (Act.starts (c.trace es)).length = 1 ∧
          ∀ x ∈ Act.returns (c.trace es), x.2 = .ok (some t)) := by
  refine ⟨?_, fun hover => ?_⟩
  · obtain ⟨more, hmore, hnil⟩ := exists_resumes now _ (c.run es) rfl
    exact ⟨more, hmore, by rw [run_append, hnil]⟩
  have hs := h.shared
  have hflight : (c.run es).flight = none := by
    by_contra hne
    exact hs.flying hne hover
  have hone := c.oneAtATime_trace h.not_drop
  have hdraw := c.draws_trace h.not_drop
  rw [h.flight_eq_none] at hone
  simp only [Draws, underWay, h.flight_eq_none, hflight, Option.toList_none, List.map_nil,
    List.nil_append, List.append_nil] at hdraw
  have horder := hs.order
  rw [hover, List.map_nil, List.append_nil] at horder
  have hstarts : (Act.starts (c.trace es)).length = (Act.answers (c.trace es)).length := by
    rw [← TokenSource.length_draw _ c.source, hdraw.1, List.length_map]
  have hreturns : (Act.returns (c.trace es)).length = (entered es).length := by
    rw [← horder, List.length_map]
  refine ⟨hone, Prod.ext hdraw.1 hdraw.2, horder, hs.outcome.imp (fun hst => ?_) ?_, ?_⟩
  · have hlen := congrArg List.length hst.returns
    rw [List.length_map, length_owns] at hlen
    exact ⟨hst.answers, by omega, hst.returns⟩
  · rintro ⟨t, hfed⟩
    obtain ⟨o, at', ho, hstale⟩ := hfed.answers
    obtain ⟨m, hm⟩ := hfed.returns
    have hlen := congrArg List.length hm
    rw [List.length_map, List.length_append, length_owns, List.length_replicate] at hlen
    rw [ho, List.length_append, List.length_singleton] at hlen hstarts
    exact ⟨o, at', t, m, ho, hstale, hfed.fresh, hstarts, by omega, hm⟩
  · intro at' t hhead hfresh
    obtain ⟨hans, m, hm⟩ := hs.first hhead hfresh
    refine ⟨by rw [hstarts, hans]; rfl, fun x hx => ?_⟩
    have hx' := List.mem_map_of_mem (f := Prod.snd) hx
    rw [hm] at hx'
    exact List.eq_of_mem_replicate hx'

/-- A cache that holds a token which it may not use again. Its source answers that there is no
token, then with an error, with a token that has expired, and with one that is fresh. -/
def reluctant : TokenCache ScriptedSource where
  config := { noExpiryPolicy := .alwaysReauthenticate }
  token := some { accessToken := "held" }
  source :=
    { outcomes :=
        [{ suspensions := 1, answer := .ok none },
          { answer := .error (.of .emptyContinuation) },
          { answer := .ok (some { accessToken := "stale", expiry := some .epoch }) },
          { answer := .ok (some { accessToken := "fresh" }) }] }

/-- Five calls that overlap. -/
def fiveCalls : List Event :=
  [.enter .epoch 0, .enter .epoch 1, .enter .epoch 2, .enter .epoch 3, .enter .epoch 4,
    .resume .epoch 0, .resume .epoch 1, .resume .epoch 2, .resume .epoch 3, .resume .epoch 4]

theorem batch_fiveCalls : Batch reluctant .epoch .epoch fiveCalls := by
  have h₀ : Batch reluctant .epoch .epoch (fiveCalls.take 0) := .idle rfl rfl
  have h₁ : Batch reluctant .epoch .epoch (fiveCalls.take 1) :=
    h₀.enter rfl rfl ⟨by decide, by decide, by decide⟩
  have h₂ : Batch reluctant .epoch .epoch (fiveCalls.take 2) :=
    h₁.enter rfl rfl ⟨by decide, by decide, by decide⟩
  have h₃ : Batch reluctant .epoch .epoch (fiveCalls.take 3) :=
    h₂.enter rfl rfl ⟨by decide, by decide, by decide⟩
  have h₄ : Batch reluctant .epoch .epoch (fiveCalls.take 4) :=
    h₃.enter rfl rfl ⟨by decide, by decide, by decide⟩
  have h₅ : Batch reluctant .epoch .epoch (fiveCalls.take 5) :=
    h₄.enter rfl rfl ⟨by decide, by decide, by decide⟩
  have h₆ : Batch reluctant .epoch .epoch (fiveCalls.take 6) :=
    h₅.resume ⟨by decide, by decide, by decide⟩
  have h₇ : Batch reluctant .epoch .epoch (fiveCalls.take 7) :=
    h₆.resume ⟨by decide, by decide, by decide⟩
  have h₈ : Batch reluctant .epoch .epoch (fiveCalls.take 8) :=
    h₇.resume ⟨by decide, by decide, by decide⟩
  have h₉ : Batch reluctant .epoch .epoch (fiveCalls.take 9) :=
    h₈.resume ⟨by decide, by decide, by decide⟩
  exact h₉.resume ⟨by decide, by decide, by decide⟩

/-- Of the five calls the first four fetch, and the last shares the token of the fourth. -/
theorem single_flight_fiveCalls :
    Batch reluctant .epoch .epoch fiveCalls ∧ (reluctant.run fiveCalls).line = [] ∧
      Act.OneAtATime false (reluctant.trace fiveCalls) ∧
      (Act.returns (reluctant.trace fiveCalls)).map Prod.fst = [0, 1, 2, 3, 4] ∧
      ∃ o at' t, Act.answers (reluctant.trace fiveCalls) = o ++ [(at', .ok (some t))] ∧
        (Act.starts (reluctant.trace fiveCalls)).length = 4 ∧ o.length + 1 = 4 ∧
        (Act.returns (reluctant.trace fiveCalls)).map Prod.snd =
          owns reluctant.config reluctant.token (Act.answers (reluctant.trace fiveCalls)) ++
            [.ok (some t)] := by
  have hover : (reluctant.run fiveCalls).line = [] := by decide
  have hfour : (Act.starts (reluctant.trace fiveCalls)).length = 4 := by decide
  obtain ⟨hone, -, horder, hout, -⟩ := (single_flight batch_fiveCalls).2 hover
  refine ⟨batch_fiveCalls, hover, hone, horder, ?_⟩
  rcases hout with ⟨-, hall, -⟩ | ⟨o, at', t, m, ho, -, -, hstarts, hm, hreturns⟩
  · rw [hfour] at hall
    exact absurd hall (by decide)
  · obtain rfl : m = 1 := by
      have hfive : (entered fiveCalls).length = 5 := by decide
      omega
    exact ⟨o, at', t, ho, hfour, by omega, hreturns⟩

end EntityHub.TokenCache
