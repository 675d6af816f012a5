import EntityHub.Proofs.Token.Accounting
import EntityHub.Proofs.Token.Lifetime
/-!
# What a cache says of itself and what it does

A cache tells whether a call would be answered without a fetch (`TokenCache.isValid`) and what it
has (`TokenCache.state`). `TokenCache.agreement_of_idle` says of a cache with nobody in line that
both foretell what a call does, and where they differ from one another: a token without expiry,
which a cache that always authenticates again has and does not use again.

The call is followed step by step. It starts at one instant and may be resumed at any others, while
its fetch is suspended as often as the source likes (`TokenCache.alone_of_none`).
-/

namespace EntityHub.TokenCache

variable {σ : Type} {c d : TokenCache σ} {config : TokenConfig} {now : Instant} {t : Token}
  {id : Nat}

/-! ## What is told -/

theorem isReusable_iff : isReusable config now t = true ↔ isFresh config now t = true ∧
    ¬(t.expiry = none ∧ config.noExpiryPolicy = .alwaysReauthenticate) := by
  rcases he : t.expiry with _ | e <;> simp [isReusable, he]

theorem isValid_iff :
    c.isValid now = true ↔ ∃ t, c.token = some t ∧ isReusable c.config now t = true := by
  rw [isValid, reusable?, Option.isSome_iff_exists]
  simp only [Option.filter_eq_some_iff]

theorem reusable?_eq_none_of_isValid (h : c.isValid now = false) : c.reusable? now = none := by
  rwa [isValid, Option.isSome_eq_false_iff, Option.isNone_iff_eq_none] at h

theorem state_eq_authenticated_iff (hline : c.line = []) : c.state now = .authenticated ↔
    ∃ t, c.token = some t ∧ isFresh c.config now t = true := by
  rw [state_eq_iff, Reported, and_iff_right hline]

/-- What is valid is authenticated. -/
theorem authenticated_of_isValid (hline : c.line = []) (h : c.isValid now = true) :
    c.state now = .authenticated := by
  obtain ⟨t, ht, hreusable⟩ := isValid_iff.mp h
  exact (state_eq_authenticated_iff hline).mpr ⟨t, ht, isFresh_of_isReusable hreusable⟩

/-- What is authenticated and not valid is a token without expiry that is not used again. -/
theorem authenticated_and_not_isValid_iff (hline : c.line = []) :
    c.state now = .authenticated ∧ c.isValid now = false ↔
      ∃ t, c.token = some t ∧ t.accessToken ≠ "" ∧ t.expiry = none ∧
        c.config.noExpiryPolicy = .alwaysReauthenticate := by
  rw [state_eq_authenticated_iff hline, ← Bool.not_eq_true, isValid_iff]
  constructor
  · rintro ⟨⟨t, ht, hfresh⟩, hinvalid⟩
    have hunused : t.expiry = none ∧ c.config.noExpiryPolicy = .alwaysReauthenticate := by
      by_contra hused
      exact hinvalid ⟨t, ht, isReusable_iff.mpr ⟨hfresh, hused⟩⟩
    exact ⟨t, ht, (isFresh_iff.mp hfresh).1, hunused⟩
  · rintro ⟨t, ht, htext, hunused⟩
    have hfresh : isFresh c.config now t = true := isFresh_iff.mpr ⟨htext, by simp [hunused.1]⟩
    refine ⟨⟨t, ht, hfresh⟩, ?_⟩
    rintro ⟨u, hu, hreusable⟩
    obtain rfl := Option.some.inj (ht.symm.trans hu)
    exact (isReusable_iff.mp hreusable).2 hunused

/-- The token held answers the call whose fetch brings none, if that is what the cache then has. -/
theorem fresh?_eq_token_iff (hline : c.line = []) :
    (∃ t, c.token = some t ∧ c.fresh? now = some t) ↔ c.state now = .authenticated := by
  rw [state_eq_authenticated_iff hline]
  simp only [fresh?, Option.filter_eq_some_iff, and_self_left]

theorem fresh?_eq_none_of_state (hline : c.line = []) (h : c.state now ≠ .authenticated) :
    c.fresh? now = none := by
  rw [ne_eq, state_eq_authenticated_iff hline] at h
  rw [fresh?, Option.filter_eq_none_iff]
  exact fun t ht hfresh => h ⟨t, ht, hfresh⟩

/-! ## A call alone -/

/-- The steps of a call that starts at `now` and is resumed at the instants `later`. -/
def callAt (now : Instant) (id : Nat) (later : List Instant) : List Event :=
  .enter now id :: later.map fun at' => .resume at' id

/-- A call alone whose fetch `f` has been started on `d` and resumed at those instants waits for it
still, or has returned what it came to. -/
inductive Progress (d : TokenCache σ) (id : Nat) (f : Flight) (instants : List Instant) :
    TokenCache σ → List Act → Prop
  | waits {d' : TokenCache σ} : instants.length ≤ f.suspensions → Progress d id f instants d' []
  | done {at' : Instant} : at' ∈ instants → Progress d id f instants (d.settle at' f.answer).2
      [.ended at' f.answer, .returned id (d.settle at' f.answer).1]

/-- A suspension takes up one instant. -/
theorem Progress.suspend {f : Flight} {n : Nat} (hn : f.suspensions = n + 1)
    {flight : Option Flight} {later : List Instant} {d' : TokenCache σ} {acts : List Act}
    (h : Progress { d with flight } id { f with suspensions := n } later d' acts) (at' : Instant) :
    Progress d id f (at' :: later) d' acts := by
  cases h with
  | waits hlength => exact .waits (by rw [List.length_cons, hn]; exact Nat.succ_le_succ hlength)
  | done hmem =>
    rw [settle_flown]
    exact .done (List.mem_cons_of_mem _ hmem)

/-- A fetch is not started twice. -/
theorem Progress.starts {f : Flight} {instants : List Instant} {d' : TokenCache σ} {acts : List Act}
    (h : Progress d id f instants d' acts) : Act.starts acts = [] := by
  cases h <;> rfl

/-- A call that is resumed more often than its fetch is suspended returns. -/
theorem Progress.returns {f : Flight} {instants : List Instant} {d' : TokenCache σ}
    {acts : List Act} (h : Progress d id f instants d' acts)
    (hlength : f.suspensions < instants.length) : ∃ r, Act.returns acts = [(id, r)] := by
  cases h with
  | waits hle => exact absurd hlength (Nat.not_lt.mpr hle)
  | done => exact ⟨_, rfl⟩

/-- A call whose fetch brings no token returns the token held if it is fresh, and leaves it. -/
theorem Progress.settled {f : Flight} {instants : List Instant} {d' : TokenCache σ}
    {acts : List Act} (h : Progress d id f instants d' acts) {at' : Instant}
    (hanswer : (at', .ok none) ∈ Act.answers acts) :
    d'.line = d.line.tail ∧ d'.token = d.token ∧
      Act.returns acts = [(id, .ok (d'.fresh? at'))] := by
  cases h with
  | waits => cases hanswer
  | done =>
    obtain ⟨rfl, hnone⟩ := Prod.mk.inj (List.mem_singleton.mp hanswer)
    rw [← hnone]
    exact ⟨rfl, rfl, rfl⟩

variable [TokenSource σ]

/-- Resuming a call that has returned does nothing. -/
theorem run_idle (hline : c.line = []) (id : Nat) (later : List Instant) :
    c.run (later.map fun at' => .resume at' id) = c ∧
      c.trace (later.map fun at' => .resume at' id) = [] := by
  induction later with
  | nil => exact ⟨rfl, rfl⟩
  | cons at' later ih =>
    have hstep : c.step (.resume at' id) = (none, c) := by simp [step, resume, hline]
    have hacts : c.acts (.resume at' id) = [] := by
      simp [acts, fetchActs, hline, hstep]
    rw [List.map_cons, run_cons, trace, hstep, hacts]
    exact ih

theorem run_idle_settle {caller : Caller} (hline : d.line = [caller]) (at' : Instant)
    {a : TokenAnswer} (id : Nat) (later : List Instant) :
    (d.settle at' a).2.run (later.map fun at' => .resume at' id) = (d.settle at' a).2 ∧
      (d.settle at' a).2.trace (later.map fun at' => .resume at' id) = [] :=
  run_idle (by rw [settle_line, hline, List.tail_cons]) id later

theorem progress_of_flight (caller : Caller) {f : Flight} (hline : d.line = [caller])
    (hflight : d.flight = some f) (later : List Instant) :
    Progress d caller.id f later (d.run (later.map fun at' => .resume at' caller.id))
      (d.trace (later.map fun at' => .resume at' caller.id)) := by
  induction later generalizing d f with
  | nil => exact .waits (Nat.zero_le _)
  | cons at' later ih =>
    rw [List.map_cons, run_cons, trace, step_resume hline, acts_resume hline]
    rcases hn : f.suspensions with _ | n
    · have hadvance : d.advance at' caller.observed =
          (some (d.settle at' f.answer).1, (d.settle at' f.answer).2) := by
        simp [advance, hflight, deliver, hn]
      obtain ⟨hrun, htrace⟩ := run_idle_settle hline at' caller.id later
      rw [hadvance, hrun, htrace]
      simpa [turnActs, endOf, hflight, hn] using Progress.done (d := d) List.mem_cons_self
    · have hadvance : d.advance at' caller.observed =
          (none, { d with flight := some { f with suspensions := n } }) := by
        simp [advance, hflight, deliver, hn]
      have hrest := ih (d := { d with flight := some { f with suspensions := n } }) hline rfl
      rw [hadvance]
      simpa [turnActs, endOf, hflight, hn] using hrest.suspend hn at'

/-- A call that finds nothing to use starts one fetch, and waits for it or has returned what it
came to. -/
theorem alone_of_none (hline : c.line = []) (hflight : c.flight = none)
    (hnone : c.reusable? now = none) (id : Nat) (later : List Instant) :
    ∃ acts, c.trace (callAt now id later) = .started now :: acts ∧
      Progress
        { c with source := (TokenSource.fetch now c.source).2, line := [⟨id, c.refreshes⟩] } id
        (TokenSource.fetch now c.source).1 (now :: later) (c.run (callAt now id later)) acts := by
  have hmove := c.move_step (.enter now id)
  rw [callAt, run_cons, trace]
  generalize c.acts (.enter now id) = acts at hmove ⊢
  generalize (c.step (.enter now id)).1 = r at hmove
  generalize (c.step (.enter now id)).2 = d at hmove ⊢
  cases hmove with
  | reuse hsome => cases hnone.symm.trans hsome
  | queue _ hqueue => exact absurd hline hqueue
  | lead _ _ hturn =>
    cases hturn with
    | @share t _ hshare =>
      rw [share?, if_neg (not_not.mpr rfl)] at hshare
      have hsome : c.reusable? now = some t := hshare
      cases hnone.symm.trans hsome
    | wait hf | finish hf => cases hflight.symm.trans hf
    | start _ _ hfetch hn =>
      rw [hfetch]
      exact ⟨_, rfl, (progress_of_flight ⟨id, c.refreshes⟩ rfl rfl later).suspend hn now⟩
    | @fetch f source _ _ hfetch =>
      rw [hfetch]
      obtain ⟨hrun, htrace⟩ := run_idle_settle
        (d := { c with source, line := [⟨id, c.refreshes⟩] }) rfl now id later
      rw [hrun, htrace]
      exact ⟨_, rfl, .done List.mem_cons_self⟩

/-- A call that finds the token held usable returns it at once, and that is all. -/
theorem alone_of_some (h : c.reusable? now = some t) (hline : c.line = []) (id : Nat)
    (later : List Instant) : c.trace (callAt now id later) = [.returned id (.ok (some t))] ∧
      c.run (callAt now id later) = c := by
  have hstep : c.step (.enter now id) = (some (.ok (some t)), c) := by simp [step, enter, h]
  have hacts : c.acts (.enter now id) = [.returned id (.ok (some t))] := by
    simp [acts, fetchActs, h, hstep, Event.caller?]
  obtain ⟨hrun, htrace⟩ := run_idle hline id later
  rw [callAt, run_cons, trace, hstep, hacts, hrun, htrace, List.append_nil]
  exact ⟨rfl, rfl⟩

/-! ## The agreement -/

/-- At `now`, a cache with nobody in line says of a call what the call then does, whatever its
number and whenever it is resumed. -/
structure Agreement (c : TokenCache σ) (now : Instant) : Prop where
  /-- It is valid exactly if a call contacts the source not at all. -/
  spares : ∀ id later,
    c.isValid now = true ↔ Act.starts (c.trace (callAt now id later)) = []
  /-- The call returns the token held then, and changes nothing. -/
  reuses : c.isValid now = true → ∃ t, c.token = some t ∧ ∀ id later,
    c.trace (callAt now id later) = [.returned id (.ok (some t))] ∧
      c.run (callAt now id later) = c
  /-- Otherwise a call starts one fetch. -/
  fetches : c.isValid now = false → ∀ id later,
    Act.starts (c.trace (callAt now id later)) = [now]
  /-- A call returns once when it is resumed often enough. -/
  returns : ∃ n, ∀ id later, n ≤ later.length →
    ∃ r, Act.returns (c.trace (callAt now id later)) = [(id, r)]
  /-- A call that nothing interrupts is one of these. -/
  ensures : ∃ later, c.run (callAt now 0 later) = (c.ensure now).2 ∧
    Act.returns (c.trace (callAt now 0 later)) = [(0, (c.ensure now).1)]
  authenticated : c.isValid now = true → c.state now = .authenticated
  /-- What is authenticated and not valid is a token without expiry that is to be used once. -/
  differs : c.state now = .authenticated ∧ c.isValid now = false ↔
    ∃ t, c.token = some t ∧ t.accessToken ≠ "" ∧ t.expiry = none ∧
      c.config.noExpiryPolicy = .alwaysReauthenticate
  /-- A call whose fetch brings no token returns the one held if the cache is then authenticated,
  and otherwise none. -/
  tokenless : ∀ id later at', (at', .ok none) ∈ Act.answers (c.trace (callAt now id later)) →
    ∃ r, Act.returns (c.trace (callAt now id later)) = [(id, r)] ∧
      (c.run (callAt now id later)).token = c.token ∧
      ((∃ t, c.token = some t ∧ r = .ok (some t)) ↔
        (c.run (callAt now id later)).state at' = .authenticated) ∧
      ((c.run (callAt now id later)).state at' ≠ .authenticated → r = .ok none)

/-- In every state with no refresh in flight, under every configuration and whatever the token and
the clock, the cache and a call agree. -/
theorem agreement_of_idle (hline : c.line = []) (hflight : c.flight = none) (now : Instant) :
    Agreement c now := by
  have hauthenticated : c.isValid now = true → c.state now = .authenticated :=
    authenticated_of_isValid hline
  have hdiffers : c.state now = .authenticated ∧ c.isValid now = false ↔ _ :=
    authenticated_and_not_isValid_iff hline
  have hensures : ∃ later, c.run (callAt now 0 later) = (c.ensure now).2 ∧
      Act.returns (c.trace (callAt now 0 later)) = [(0, (c.ensure now).1)] := by
    obtain ⟨n, hensure⟩ := exists_run_ensure now hline hflight
    rw [← List.map_replicate (f := fun at' => Event.resume at' 0)] at hensure
    exact ⟨List.replicate n now, hensure⟩
  rcases hvalid : c.isValid now with _ | _
  · have halone := alone_of_none hline hflight (reusable?_eq_none_of_isValid hvalid)
    have hstarts : ∀ id later, Act.starts (c.trace (callAt now id later)) = [now] := by
      intro id later
      obtain ⟨acts, hacts, hprogress⟩ := halone id later
      rw [hacts, Act.starts, hprogress.starts]
    refine
      { spares := fun id later => by simp [hvalid, hstarts]
        reuses := fun h => by simp [hvalid] at h
        fetches := fun _ => hstarts
        returns := ⟨(TokenSource.fetch now c.source).1.suspensions, fun id later hlength => ?_⟩
        ensures := hensures
        authenticated := hauthenticated
        differs := hdiffers
        tokenless := fun id later at' hanswer => ?_ }
    · obtain ⟨acts, hacts, hprogress⟩ := halone id later
      rw [hacts]
      exact hprogress.returns (Nat.lt_succ_of_le hlength)
    · obtain ⟨acts, hacts, hprogress⟩ := halone id later
      rw [hacts] at hanswer ⊢
      obtain ⟨hleft, htoken, hreturns⟩ := hprogress.settled hanswer
      refine ⟨_, hreturns, htoken, ?_, fun hstate => ?_⟩
      · rw [← htoken]
        simp only [Except.ok.injEq]
        exact fresh?_eq_token_iff hleft
      · exact congrArg Except.ok (fresh?_eq_none_of_state hleft hstate)
  · obtain ⟨t, ht⟩ := Option.isSome_iff_exists.mp hvalid
    have halone := alone_of_some ht hline
    exact
      { spares := fun id later => by simp [hvalid, halone, Act.starts]
        reuses := fun _ => ⟨t, (token_of_reusable? ht).1, halone⟩
        fetches := fun h => by simp [hvalid] at h
        returns := ⟨0, fun id later _ => ⟨.ok (some t), by rw [(halone id later).1]; rfl⟩⟩
        ensures := hensures
        authenticated := hauthenticated
        differs := hdiffers
        tokenless := fun id later at' hanswer => by
          rw [(halone id later).1] at hanswer
          cases hanswer }

/-- A cache that authenticates again each time has a token and is not valid. A call fetches, is
given no token, and returns the one held. -/
theorem agreement_of_idle_reluctant :
    reluctant.line = [] ∧ reluctant.flight = none ∧ Agreement reluctant .epoch ∧
      reluctant.state .epoch = .authenticated ∧ reluctant.isValid .epoch = false ∧
      Act.starts (reluctant.trace (callAt .epoch 7 [.last])) = [.epoch] ∧
      Act.returns (reluctant.trace (callAt .epoch 7 [.last])) =
        [(7, .ok (some { accessToken := "held" }))] := by
  have hagree : Agreement reluctant .epoch := agreement_of_idle rfl rfl .epoch
  obtain ⟨hstate, hvalid⟩ := hagree.differs.mpr ⟨_, rfl, by decide, rfl, rfl⟩
  obtain ⟨r, hr, -, htoken, -⟩ := hagree.tokenless 7 [.last] .last List.mem_cons_self
  obtain ⟨t, ht, rfl⟩ := htoken.mpr rfl
  obtain rfl := Option.some.inj ht
  exact ⟨rfl, rfl, hagree, hstate, hvalid, hagree.fetches hvalid 7 [.last], hr⟩

end EntityHub.TokenCache
