import EntityHub.Proofs.Token.Invalidation
import EntityHub.Proofs.Token.SingleFlight
/-!
# Tokens of unknown lifetime

A cache that always authenticates again never reuses a token without expiry, but a call that has
waited for the gate takes one that it finds if the counter has moved meanwhile.
`TokenCache.alwaysReauthenticate_renews` says that such a token is recent all the same: a fetch that
ended after the call got in line has brought it. So calls that do not overlap fetch once each.

The first part follows a run from any point on (`Recent`): once the counter has moved past that
point, what is held was stored since. In the second part nobody is ever in line without a fetch
under way (`Alone`).
-/

namespace EntityHub.TokenCache

variable {σ : Type}

/-! ## Tokens that are stored -/

/-- The last fetch to end has brought the token, and the token has not been dropped since. -/
def Act.Stores (t : Token) (l : List Act) : Prop :=
  ∃ before now after, l = before ++ .ended now (.ok (some t)) :: after ∧ answers after = [] ∧
    .invalidated ∉ after

theorem Act.Stores.append {t : Token} {l m : List Act} (h : Stores t l) (hm : answers m = [])
    (hdrop : .invalidated ∉ m) : Stores t (l ++ m) := by
  obtain ⟨before, now, after, rfl, hafter, hkept⟩ := h
  refine ⟨before, now, after ++ m, by simp, by rw [answers_append, hafter, hm, List.nil_append], ?_⟩
  rw [List.mem_append]
  exact fun hmem => hmem.elim hkept hdrop

variable {c d d' s : TokenCache σ} {e : Event} {r : Option TokenAnswer} {l acts : List Act}
  {config : TokenConfig} {now : Instant} {observed id n : Nat} {t : Token}

/-- A token that is held after a fetch has ended was brought by it, unless the fetch has brought no
token. -/
theorem stores_settle {a x : TokenAnswer} (ha : a ≠ .ok none)
    (h : (d.settle now a).2.token = some t) (l : List Act) (id : Nat) :
    Act.Stores t (l ++ [.ended now a, .returned id x]) := by
  rw [settle_token] at h
  rcases a with error | _ | u
  · cases h
  · exact absurd rfl ha
  · obtain rfl : u = t := Option.some.inj h
    exact ⟨l, now, [.returned id x], rfl, rfl, by simp⟩

/-- A token that may be used again has an expiry. -/
theorem expiry_of_reusable? (hp : c.config.noExpiryPolicy = .alwaysReauthenticate)
    (h : c.reusable? now = some t) : t.expiry ≠ none := by
  intro hnone
  have hreusable := (Option.filter_eq_some_iff.mp h).2
  rw [isReusable, hnone, hp] at hreusable
  simp at hreusable

/-- A token without expiry is shared only if the counter has moved. -/
theorem moved_of_share? (hp : c.config.noExpiryPolicy = .alwaysReauthenticate)
    (h : c.share? now observed = some t) (ht : t.expiry = none) : c.refreshes ≠ observed := by
  intro hsame
  rw [share?, if_neg (not_not_intro hsame)] at h
  exact expiry_of_reusable? hp h ht

/-! ## Runs from a point on -/

/-- What is true of a cache `d` that has come from `s` by the acts `l`, while the call `id` has got
in line. -/
structure Recent (s d : TokenCache σ) (id : Nat) (l : List Act) : Prop where
  le : s.refreshes ≤ d.refreshes
  held : d.refreshes ≠ s.refreshes → ∀ t, d.token = some t → Act.Stores t l
  sampled : ∀ caller ∈ d.line, caller.id = id → s.refreshes ≤ caller.observed

/-- Acts that neither bring nor drop a token. -/
theorem Recent.append (h : Recent s d id l) (ht : d'.token = d.token)
    (hr : d'.refreshes = d.refreshes) (hl : d'.line ⊆ d.line) {m : List Act}
    (hm : Act.answers m = []) (hdrop : .invalidated ∉ m) : Recent s d' id (l ++ m) where
  le := by
    rw [hr]
    exact h.le
  held hne u hu := by
    rw [hr] at hne
    rw [ht] at hu
    exact (h.held hne u hu).append hm hdrop
  sampled caller hc := h.sampled caller (hl hc)

theorem Recent.settle (h : Recent s d id l) {a x : TokenAnswer} (ha : a ≠ .ok none) (now : Instant)
    (own : Nat) : Recent s (d.settle now a).2 id (l ++ [.ended now a, .returned own x]) where
  le := Nat.le_trans h.le (settle_refreshes_le now a d)
  held _ u hu := stores_settle ha hu l own
  sampled caller hc := by
    rw [settle_line] at hc
    exact h.sampled caller (List.mem_of_mem_tail hc)

/-- A call that gets in line observes the counter as it is then. -/
theorem Recent.join (h : Recent s d id l) (own : Nat) :
    Recent s { d with line := d.line ++ [⟨own, d.refreshes⟩] } id l where
  le := h.le
  held := h.held
  sampled caller hc hid := by
    rcases List.mem_append.mp hc with hc | hc
    · exact h.sampled caller hc hid
    · rw [List.mem_singleton.mp hc]
      exact h.le

variable [TokenSource σ]

theorem Turn.recent {own : Nat} (h : Turn d now observed own r d' acts) (hr : Recent s d id l)
    (hans : ∀ x ∈ Act.answers acts, x.2 ≠ .ok none) : Recent s d' id (l ++ acts) := by
  cases h with
  | share =>
    exact hr.append (by rfl) (by rfl) (fun _ hc => List.mem_of_mem_tail hc) (by rfl) (by simp)
  | wait => exact hr.append (by rfl) (by rfl) (by simp) (by rfl) (by simp)
  | finish => exact hr.settle (hans _ List.mem_cons_self) now own
  | start => exact hr.append (by rfl) (by rfl) (by simp) (by rfl) (by simp)
  | @fetch f source =>
    have hstarted : Recent s { d with source } id (l ++ [.started now]) :=
      hr.append (by rfl) (by rfl) (by simp) (by rfl) (by simp)
    rw [List.append_cons]
    exact hstarted.settle (hans _ List.mem_cons_self) now own

theorem Move.recent (h : Move d e r d' acts) (hr : Recent s d id l) (hset : ∀ u, e ≠ .set u)
    (hans : ∀ x ∈ Act.answers acts, x.2 ≠ .ok none) : Recent s d' id (l ++ acts) := by
  cases h with
  | reuse | idle => exact hr.append (by rfl) (by rfl) (by simp) (by rfl) (by simp)
  | @queue _ own =>
    rw [List.append_nil]
    exact hr.join own
  | @lead _ own _ _ _ _ hl ht =>
    have hjoin := hr.join own
    rw [hl, List.nil_append] at hjoin
    exact ht.recent hjoin hans
  | turn _ ht => exact ht.recent hr hans
  | giveUp =>
    exact hr.append (by rfl) (by rfl) (fun _ hc => List.mem_of_mem_tail hc) (by rfl) (by simp)
  | leave _ hsub =>
    exact hr.append (by rfl) (by rfl) (fun _ hc => hsub.subset hc) (by rfl) (by simp)
  | set => exact (hset _ rfl).elim
  | invalidate => exact ⟨hr.le, fun _ u hu => (Option.some_ne_none u hu.symm).elim, hr.sampled⟩

theorem Recent.run (hr : Recent s d id l) {m : List Event} (hset : ∀ u, .set u ∉ m)
    (hans : ∀ x ∈ Act.answers (d.trace m), x.2 ≠ .ok none) :
    Recent s (d.run m) id (l ++ d.trace m) := by
  induction m generalizing d l with
  | nil =>
    rw [trace, List.append_nil]
    exact hr
  | cons e m ih =>
    rw [trace, Act.answers_append] at hans
    have hstep : Recent s (d.step e).2 id (l ++ d.acts e) :=
      (d.move_step e).recent hr (fun u hu => hset u (hu ▸ List.mem_cons_self))
        fun x hx => hans x (List.mem_append_left _ hx)
    have hrest := ih hstep (fun u hu => hset u (List.mem_cons_of_mem _ hu))
      fun x hx => hans x (List.mem_append_right _ hx)
    rw [run_cons, trace, ← List.append_assoc]
    exact hrest

/-- The call that holds the gate gets a token without expiry: it has fetched it, or the counter has
moved since the call got in line. -/
theorem Turn.stores (h : Turn d now observed id r d' acts)
    (hp : d.config.noExpiryPolicy = .alwaysReauthenticate) {own : Nat} (hr : Recent s d own l)
    (hsampled : s.refreshes ≤ observed) (hle : observed ≤ d.refreshes)
    (hans : ∀ x ∈ Act.answers acts, x.2 ≠ .ok none) (hret : r = some (.ok (some t)))
    (ht : t.expiry = none) : Act.Stores t (l ++ acts) := by
  cases h with
  | share _ hs =>
    cases hret
    have hmoved := moved_of_share? hp hs ht
    have hstored := hr.held (by omega) t (token_of_share? hs).1
    exact hstored.append rfl (by simp)
  | wait | start => cases hret
  | finish =>
    have htoken := (token_of_settle (Option.some.inj hret)).1
    exact stores_settle (hans _ List.mem_cons_self) htoken l id
  | fetch =>
    have htoken := (token_of_settle (Option.some.inj hret)).1
    rw [List.append_cons]
    exact stores_settle (hans _ List.mem_cons_self) htoken (l ++ [.started now]) id

theorem Move.stores (h : Move d e r d' acts)
    (hp : config.noExpiryPolicy = .alwaysReauthenticate) (hs : Sound config d n)
    (hr : Recent s d id l) (he : e = .enter now id ∨ e = .resume now id)
    (hans : ∀ x ∈ Act.answers acts, x.2 ≠ .ok none) (hret : r = some (.ok (some t)))
    (ht : t.expiry = none) : Act.Stores t (l ++ acts) := by
  rw [← hs.config] at hp
  cases h with
  | reuse hreuse =>
    cases hret
    exact absurd ht (expiry_of_reusable? hp hreuse)
  | @lead _ own _ _ _ _ hl hturn =>
    have hjoin := hr.join own
    rw [hl, List.nil_append] at hjoin
    exact hturn.stores hp hjoin hr.le (Nat.le_refl _) hans hret ht
  | @turn _ caller rest _ _ _ hl hturn =>
    obtain ⟨rfl, rfl⟩ : _ = now ∧ caller.id = id := by simpa using he
    have hcaller : caller ∈ d.line := by
      rw [hl]
      exact List.mem_cons_self
    have hsampled := hr.sampled caller hcaller rfl
    exact hturn.stores hp hr hsampled (hs.observed caller hcaller) hans hret ht
  | _ => cases hret

/-- A call that starts after the run `pre` and gets a token without expiry gets one that was stored
after that run. -/
theorem stores_of_answer (hp : c.config.noExpiryPolicy = .alwaysReauthenticate)
    (hline : c.line = []) (hflight : c.flight = none) {pre more : List Event}
    (hid : ∀ caller ∈ (c.run pre).line, caller.id ≠ id) (hset : ∀ u, .set u ∉ more)
    (he : e = .enter now id ∨ e = .resume now id)
    (hans : ∀ x ∈ Act.answers ((c.run pre).trace (more ++ [e])), x.2 ≠ .ok none)
    (hret : ((c.run (pre ++ more)).step e).1 = some (.ok (some t))) (ht : t.expiry = none) :
    Act.Stores t ((c.run pre).trace (more ++ [e])) := by
  have hstart : Sound c.config c 0 := ⟨rfl, by simp [hflight], by simp [hline]⟩
  have hsound := (hstart.run pre).run more
  have hhere : Recent (c.run pre) (c.run pre) id [] :=
    ⟨Nat.le_refl _, fun hne => absurd rfl hne, fun caller hc heq => absurd heq (hid caller hc)⟩
  rw [trace_append, Act.answers_append, trace_singleton] at hans
  have hrecent := hhere.run hset fun x hx => hans x (List.mem_append_left _ hx)
  rw [List.nil_append] at hrecent
  rw [run_append] at hret
  rw [trace_append, trace_singleton]
  exact (move_step _ e).stores hp hsound hrecent he
    (fun x hx => hans x (List.mem_append_right _ hx)) hret ht

/-! ## Calls that do not overlap -/

/-- Each call of a run starts when no other is in line. -/
def Sequential : TokenCache σ → List Event → Prop
  | _, [] => True
  | c, e :: l => (entered [e] ≠ [] → c.line = []) ∧ Sequential (c.step e).2 l

/-- At most one call is in line, and its fetch is under way. -/
def Alone (d : TokenCache σ) : Prop :=
  d.line = [] ∧ d.flight = none ∨ ∃ caller f, d.line = [caller] ∧ d.flight = some f

/-- A call that finds nobody in line fetches, unless it takes a token that is held. -/
theorem Turn.alone_of_none {caller : Caller} (h : Turn d now observed id r d' acts)
    (hl : d.line = [caller]) (hf : d.flight = none) (hs : d.share? now observed = none) :
    Alone d' ∧ (Act.starts acts).length = 1 := by
  cases h with
  | share _ hshare =>
    rw [hs] at hshare
    cases hshare
  | wait hflight | finish hflight =>
    rw [hf] at hflight
    cases hflight
  | start => exact ⟨.inr ⟨caller, _, hl, rfl⟩, rfl⟩
  | fetch => exact ⟨.inl ⟨by rw [settle_line, hl, List.tail_cons], settle_flight _ _ _⟩, rfl⟩

/-- A call whose fetch is under way goes on with it. -/
theorem Turn.alone_of_flight {caller : Caller} {f : Flight} (h : Turn d now observed id r d' acts)
    (hl : d.line = [caller]) (hf : d.flight = some f) : Alone d' ∧ Act.starts acts = [] := by
  cases h with
  | wait => exact ⟨.inr ⟨caller, _, hl, rfl⟩, rfl⟩
  | finish => exact ⟨.inl ⟨by rw [settle_line, hl, List.tail_cons], settle_flight _ _ _⟩, rfl⟩
  | share hflight | start hflight | fetch hflight =>
    rw [hf] at hflight
    cases hflight

theorem Move.alone (h : Move d e r d' acts) (hp : d.config.noExpiryPolicy = .alwaysReauthenticate)
    (ha : Alone d) (hseq : entered [e] ≠ [] → d.line = [])
    (hret : ∀ x ∈ Act.returns acts, ∃ t, x.2 = .ok (some t) ∧ t.expiry = none) :
    Alone d' ∧ (Act.starts acts).length = (entered [e]).length := by
  cases h with
  | reuse hreuse =>
    obtain ⟨t, ht, hnone⟩ := hret _ List.mem_cons_self
    cases ht
    exact absurd hnone (expiry_of_reusable? hp hreuse)
  | queue _ hl => exact absurd (hseq (List.cons_ne_nil _ _)) hl
  | lead hreuse hl hturn =>
    have hflight : d.flight = none := by
      rcases ha with ⟨-, hnone⟩ | ⟨caller, f, hone, -⟩
      · exact hnone
      · rw [hl] at hone
        cases hone
    have hshare : share? _ d.refreshes { d with line := _ } = none :=
      (if_neg (not_not_intro rfl)).trans hreuse
    exact hturn.alone_of_none rfl hflight hshare
  | turn hl hturn =>
    rcases ha with ⟨hnil, -⟩ | ⟨caller, f, hone, hflight⟩
    · rw [hnil] at hl
      cases hl
    · obtain ⟨halone, hstarts⟩ := hturn.alone_of_flight hone hflight
      exact ⟨halone, congrArg List.length hstarts⟩
  | idle => exact ⟨ha, rfl⟩
  | giveUp hl =>
    refine ⟨.inl ⟨?_, rfl⟩, rfl⟩
    rcases ha with ⟨hnil, -⟩ | ⟨caller, f, hone, -⟩
    · rw [hnil] at hl
      cases hl
    · rw [release, hone, List.tail_cons]
  | @leave _ m hhead hsub =>
    refine ⟨?_, rfl⟩
    rcases ha with ⟨hnil, hflight⟩ | ⟨caller, f, hone, hflight⟩
    · rw [hnil] at hsub
      exact .inl ⟨List.sublist_nil.mp hsub, hflight⟩
    · rw [hone, List.head?_cons] at hhead
      rw [hone] at hsub
      rcases List.sublist_singleton.mp hsub with rfl | rfl
      · cases hhead
      · exact .inr ⟨caller, f, rfl, hflight⟩
  | set => exact ⟨ha, rfl⟩
  | invalidate => exact ⟨ha, rfl⟩

/-- Calls that do not overlap fetch once each, if they get tokens without expiry. -/
theorem length_starts_of_sequential (hp : config.noExpiryPolicy = .alwaysReauthenticate)
    (hs : Sound config d n) (ha : Alone d) {es : List Event} (hseq : Sequential d es)
    (hret : ∀ x ∈ Act.returns (d.trace es), ∃ t, x.2 = .ok (some t) ∧ t.expiry = none) :
    (Act.starts (d.trace es)).length = (entered es).length := by
  induction es generalizing d n with
  | nil => rfl
  | cons e es ih =>
    rw [trace, Act.returns_append] at hret
    have hpolicy : d.config.noExpiryPolicy = .alwaysReauthenticate := by rw [hs.config, hp]
    obtain ⟨halone, hstarts⟩ := (d.move_step e).alone hpolicy ha hseq.1
      fun x hx => hret x (List.mem_append_left _ hx)
    have hrest := ih ((d.move_step e).sound hs) halone hseq.2
      fun x hx => hret x (List.mem_append_right _ hx)
    have hentered : entered (e :: es) = entered [e] ++ entered es := entered_append [e] es
    rw [trace, Act.starts_append, List.length_append, hstarts, hrest, hentered, List.length_append]

/-! ## Both parts -/

/-- From any point of a run on, as long as nothing is set and every fetch ends with a token or an
error, a call that starts later, and so observes the counter later, and gets a token without expiry
gets one that a fetch has brought since and that is still held. And if calls that do not overlap
all get tokens without expiry, each of them makes one fetch. -/
theorem alwaysReauthenticate_renews (hp : c.config.noExpiryPolicy = .alwaysReauthenticate)
    (hline : c.line = []) (hflight : c.flight = none) :
    (∀ pre more e now id t, (∀ caller ∈ (c.run pre).line, caller.id ≠ id) → (∀ u, .set u ∉ more) →
      (e = .enter now id ∨ e = .resume now id) →
      (∀ x ∈ Act.answers ((c.run pre).trace (more ++ [e])), x.2 ≠ .ok none) →
      ((c.run (pre ++ more)).step e).1 = some (.ok (some t)) → t.expiry = none →
      Act.Stores t ((c.run pre).trace (more ++ [e]))) ∧
    ∀ es, Sequential c es →
      (∀ x ∈ Act.returns (c.trace es), ∃ t, x.2 = .ok (some t) ∧ t.expiry = none) →
      (Act.starts (c.trace es)).length = (entered es).length := by
  refine ⟨fun pre more e now id t hid hset he hans hret ht => ?_, fun es hseq hret => ?_⟩
  · exact stores_of_answer hp hline hflight hid hset he hans hret ht
  · have hsound : Sound c.config c 0 := ⟨rfl, by simp [hflight], by simp [hline]⟩
    exact length_starts_of_sequential hp hsound (.inl ⟨hline, hflight⟩) hseq hret

/-- A cache that always authenticates again, over a source that counts its fetches. -/
def counting : TokenCache CountingSource where
  config := { noExpiryPolicy := .alwaysReauthenticate }
  source := { delayed := true }

/-- Calls that do not overlap. -/
def twoCalls : List Event :=
  [.enter .epoch 0, .resume .epoch 0, .enter .epoch 1, .resume .epoch 1]

/-- Calls that overlap, the second of them waiting for the fetch of the first. -/
def overlap : List Event := [.enter .epoch 2, .enter .epoch 3, .resume .epoch 2]

/-- Two calls make two fetches, and a call that waits later takes the token of the third. -/
theorem alwaysReauthenticate_renews_counting :
    counting.config.noExpiryPolicy = .alwaysReauthenticate ∧ counting.line = [] ∧
      counting.flight = none ∧ Sequential counting twoCalls ∧
      (Act.starts (counting.trace twoCalls)).length = 2 ∧
      Act.Stores { accessToken := "token-2" }
        ((counting.run twoCalls).trace (overlap ++ [.resume .epoch 3])) := by
  obtain ⟨hrecent, hcount⟩ := alwaysReauthenticate_renews (c := counting) rfl rfl rfl
  have hseq : Sequential counting twoCalls :=
    ⟨fun _ => rfl, fun h => absurd rfl h, fun _ => rfl, fun h => absurd rfl h, trivial⟩
  have hreturns : Act.returns (counting.trace twoCalls) =
      [(0, .ok (some { accessToken := "token-0" })),
        (1, .ok (some { accessToken := "token-1" }))] :=
    rfl
  have hanswers : Act.answers ((counting.run twoCalls).trace (overlap ++ [.resume .epoch 3])) =
      [(.epoch, .ok (some { accessToken := "token-2" }))] :=
    rfl
  have hret : ∀ x ∈ Act.returns (counting.trace twoCalls),
      ∃ t, x.2 = .ok (some t) ∧ t.expiry = none := by
    rw [hreturns]
    simp
  have hans : ∀ x ∈ Act.answers ((counting.run twoCalls).trace (overlap ++ [.resume .epoch 3])),
      x.2 ≠ .ok none := by
    rw [hanswers]
    simp
  have hid : ∀ caller ∈ (counting.run twoCalls).line, caller.id ≠ 3 := by decide
  have hset : ∀ u, Event.set u ∉ overlap := by simp [overlap]
  exact ⟨rfl, rfl, rfl, hseq, hcount twoCalls hseq hret,
    hrecent twoCalls overlap (.resume .epoch 3) .epoch 3 { accessToken := "token-2" } hid hset
      (.inr rfl) hans rfl rfl⟩

end EntityHub.TokenCache
