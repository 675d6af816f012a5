import EntityHub.Client.Options
import EntityHub.Proofs.Auth.Exchange
import EntityHub.Proofs.Client.Unfit
/-!
# Local errors

An error of a local kind is found before anything is sent. Either the operation is refused by its
plan, which is made without a token, or the settings of the client are. Such settings send nothing,
and since nothing else gets tokens for the client, no call for a token ever does (`Client.Barren`).
`Client.sends_nothing_of_isLocal` says so of every client that is built with settings, whatever has
been done with it since (`Client.Reached`).
-/

namespace EntityHub

open Http (Peer)

namespace Authenticator

variable {a : Authenticator} {e : Error}

/-- The authenticator may come to an answer. -/
def Gives (a : Authenticator) (x : TokenAnswer) : Prop :=
  ∃ now id p, ((a.authenticate now id).run p).1 = x

/-- What goes wrong in an exchange is no local error, so an authenticator that gives one sends
nothing. -/
theorem Gives.rests (h : a.Gives (.error e)) (hlocal : e.kind.isLocal = true) :
    a.waits = false ∧ a.Rests (.error e) := by
  obtain ⟨now, id, p, hx⟩ := h
  rcases hwaits : a.waits with _ | _
  · obtain ⟨x, hrun, hrests⟩ := a.rests_of_not_waits now id p hwaits
    rw [hrun] at hx
    exact ⟨rfl, hx ▸ hrests⟩
  · obtain ⟨-, l, x, q, hrun, -⟩ := a.exists_obtains_of_waits now id p hwaits
    rw [hrun] at hx
    rcases x with f | t
    · obtain rfl := Except.error.inj hx
      cases hlocal
    · cases hx

end Authenticator

variable {τ α : Type}

theorem Connection.fetch_of_authenticator [TokenSource τ] {a : Authenticator} {s : Connection τ}
    (h : s.source = .authenticator a) (now : Instant) : TokenSource.fetch now s =
      ({ suspensions := if a.waits then 1 else 0
         answer := ((a.authenticate now s.nextId).run s.peer).1 },
        { s with
          peer := ((a.authenticate now s.nextId).run s.peer).2, nextId := s.nextId + 1 }) := by
  show s.fetch now = _
  rw [Connection.fetch]
  cases s
  cases h
  rfl

namespace TokenCache

/-! ## Caches that run on an authenticator -/

variable {a : Authenticator} {c d d' : TokenCache (Connection τ)} {e : Event} {now : Instant}
  {observed id : Nat} {r : Option TokenAnswer} {l : List Act}

/-- A cache gets its tokens from an authenticator, the fetch that is under way included. -/
structure RunsOn (a : Authenticator) (d : TokenCache (Connection τ)) : Prop where
  source : d.source.source = .authenticator a
  flight : ∀ f ∈ d.flight, a.Gives f.answer

/-- What is kept from one cache to another, with the answer that may be given in between. -/
structure Abides (a : Authenticator) (d : TokenCache (Connection τ)) (r : Option TokenAnswer)
    (d' : TokenCache (Connection τ)) : Prop where
  runsOn : d'.RunsOn a
  /-- Errors are those of the authenticator. -/
  gives : ∀ x, r = some (.error x) → a.Gives (.error x)
  /-- An authenticator that does not wait for a reply leaves the other side alone. -/
  quiet : a.waits = false → d'.source.peer = d.source.peer

theorem Abides.trans {d'' : TokenCache (Connection τ)} {r' : Option TokenAnswer}
    (h : Abides a d r d') (h' : Abides a d' r' d'') : Abides a d r' d'' where
  runsOn := h'.runsOn
  gives := h'.gives
  quiet hwaits := (h'.quiet hwaits).trans (h.quiet hwaits)

/-- A step that starts no fetch and gives no error. -/
theorem RunsOn.abides (h : d.RunsOn a) (hsource : d'.source = d.source)
    (hflight : ∀ f ∈ d'.flight, f ∈ d.flight) (hr : ∀ x, r ≠ some (.error x)) :
    Abides a d r d' where
  runsOn := ⟨hsource ▸ h.source, fun f hf => h.flight f (hflight f hf)⟩
  gives x hx := (hr x hx).elim
  quiet _ := congrArg Connection.peer hsource

theorem RunsOn.settle (h : d.RunsOn a) (now : Instant) {x : TokenAnswer} (hx : a.Gives x) :
    Abides a d (some (d.settle now x).1) (d.settle now x).2 where
  runsOn := by
    refine ⟨by rw [settle_source]; exact h.source, fun f hf => ?_⟩
    rw [settle_flight] at hf
    cases hf
  gives y hy := by
    rcases x with z | _ | t
    · exact Option.some.inj hy ▸ hx
    · cases hy
    · cases hy
  quiet _ := by rw [settle_source]

variable [TokenSource τ]

theorem RunsOn.fetch (h : d.RunsOn a) {f : Flight} {source : Connection τ}
    (hfetch : TokenSource.fetch now d.source = (f, source)) :
    a.Gives f.answer ∧ ∀ flight, (∀ f' ∈ flight, a.Gives f'.answer) →
      Abides a d none { d with source, flight } := by
  rw [Connection.fetch_of_authenticator h.source] at hfetch
  obtain ⟨rfl, rfl⟩ := Prod.mk.inj hfetch
  refine ⟨⟨now, d.source.nextId, d.source.peer, rfl⟩, fun flight hflight => ?_⟩
  refine ⟨⟨h.source, hflight⟩, by simp, fun hwaits => ?_⟩
  obtain ⟨x, hrun, -⟩ := a.rests_of_not_waits now d.source.nextId d.source.peer hwaits
  exact congrArg Prod.snd hrun

theorem Turn.abides (h : Turn d now observed id r d' l) (hd : d.RunsOn a) : Abides a d r d' := by
  cases h with
  | share => exact hd.abides rfl (by simp [release]) (by simp)
  | wait hf =>
    refine ⟨⟨hd.source, fun f' hf' => ?_⟩, by simp, fun _ => rfl⟩
    obtain rfl := Option.some.inj hf'
    have hgives := hd.flight _ hf
    exact hgives
  | finish hf => exact hd.settle now (hd.flight _ hf)
  | start _ _ hfetch =>
    obtain ⟨hgives, habides⟩ := hd.fetch hfetch
    refine habides _ fun f' hf' => ?_
    obtain rfl := Option.some.inj hf'
    exact hgives
  | fetch hnone _ hfetch =>
    obtain ⟨hgives, habides⟩ := hd.fetch hfetch
    have hstarted := habides d.flight fun f' hf' => by
      rw [hnone] at hf'
      cases hf'
    exact hstarted.trans (hstarted.runsOn.settle now hgives)

theorem Move.abides (h : Move d e r d' l) (hd : d.RunsOn a) : Abides a d r d' := by
  have hkept : ∀ f ∈ d.flight, f ∈ d.flight := fun _ hf => hf
  cases h with
  | @lead now id _ _ _ _ _ ht =>
    have hjoined : Abides a d none { d with line := [⟨id, d.refreshes⟩] } :=
      hd.abides rfl hkept (by simp)
    exact hjoined.trans (ht.abides hjoined.runsOn)
  | turn _ ht => exact ht.abides hd
  | giveUp => exact hd.abides rfl (by simp [release]) (by simp)
  | _ => exact hd.abides rfl hkept (by simp)

theorem RunsOn.abides_step (h : c.RunsOn a) (e : Event) : Abides a c (c.step e).1 (c.step e).2 :=
  (c.move_step e).abides h

theorem RunsOn.abides_complete (h : c.RunsOn a) (now : Instant) :
    Abides a c (some (c.complete now).1) (c.complete now).2 := by
  obtain ⟨observed, r, d, l, hturn, ⟨hr, hd⟩ | ⟨-, f, hf, hsettle⟩⟩ := c.exists_turn_complete now
  · rw [← hr, ← hd]
    exact hturn.abides h
  · rw [hsettle]
    have habides := hturn.abides h
    exact habides.trans (habides.runsOn.settle now (habides.runsOn.flight f hf))

theorem RunsOn.abides_ensure (h : c.RunsOn a) (now : Instant) :
    Abides a c (some (c.ensure now).1) (c.ensure now).2 := by
  obtain ⟨r, d, l, hmove, ⟨hr, hd⟩ | ⟨-, hcomplete⟩⟩ := c.exists_move_ensure now
  · rw [← hr, ← hd]
    exact hmove.abides h
  · rw [hcomplete]
    have habides := hmove.abides h
    exact habides.trans (habides.runsOn.abides_complete now)

end TokenCache

namespace Client

open TokenCache (Event)

/-! ## Clients with settings -/

variable {a : Authenticator} {c d : Client τ}

theorem runsOn_withPeer (h : d.tokens.RunsOn a) (p : Peer) : (d.withPeer p).tokens.RunsOn a :=
  ⟨h.source, h.flight⟩

theorem runsOn_of_build {o : ClientOptions τ} (hsource : o.source = none)
    {platform : Http.Platform} {p : Peer} {address : String}
    (h : o.build platform p address = .ok c) : ∃ a, a.config = o.auth ∧ c.tokens.RunsOn a := by
  unfold ClientOptions.build at h
  obtain ⟨url, -, h⟩ := exists_of_bind_eq_ok h
  obtain ⟨agent, -, h⟩ := exists_of_bind_eq_ok h
  rw [hsource] at h
  obtain rfl := Except.ok.inj h
  exact ⟨_, rfl, rfl, by simp⟩

variable [TokenSource τ]

/-- What a client comes to in time. Its cache takes steps, operations are performed, and the other
side does what it likes. -/
inductive Reached (c : Client τ) : Client τ → Prop
  | start : Reached c c
  | event {d : Client τ} (e : Event) : Reached c d → Reached c (d.after e)
  | perform {β : Type} {d : Client τ} (now : Instant) (op : Operation β) :
      Reached c d → Reached c (op.perform now d).2
  | withPeer {d : Client τ} (p : Peer) : Reached c d → Reached c (d.withPeer p)

theorem runsOn_deliver (h : d.tokens.RunsOn a) (g : Errand α) (answer : TokenAnswer) :
    (g.deliver answer d).2.tokens.RunsOn a := by
  unfold Errand.deliver
  split
  · exact h
  · exact runsOn_withPeer h _

theorem runsOn_perform (h : d.tokens.RunsOn a) (now : Instant) (op : Operation α) :
    (op.perform now d).2.tokens.RunsOn a := by
  rw [perform_eq_carry]
  rcases op.plan d with x | g
  · exact h
  · exact runsOn_deliver (h.abides_ensure now).runsOn g _

theorem Reached.runsOn (hreached : Reached c d) (h : c.tokens.RunsOn a) : d.tokens.RunsOn a := by
  induction hreached with
  | start => exact h
  | event e _ ih => exact (ih.abides_step e).runsOn
  | perform now op _ ih => exact runsOn_perform ih now op
  | withPeer p _ ih => exact runsOn_withPeer ih p

/-- Whenever a token is wanted, the settings of a client fail with `e`, and nothing is sent. -/
structure Barren (c : Client τ) (config : AuthConfig) (e : Error) : Prop where
  rests : ∃ a : Authenticator, a.config = config ∧ a.Rests (.error e)
  /-- No call for a token sends anything, whatever has been done with the client. -/
  quiet : ∀ (d : Client τ) (ev : Event), Reached c d → (d.after ev).peer = d.peer

variable {e : Error}

theorem barren_of_gives (h : c.tokens.RunsOn a) (hgives : a.Gives (.error e))
    (hlocal : e.kind.isLocal = true) : c.Barren a.config e where
  rests := ⟨a, rfl, (hgives.rests hlocal).2⟩
  quiet _ ev hreached := ((hreached.runsOn h).abides_step ev).quiet (hgives.rests hlocal).1

/-- An errand that fails with a local error has got it in place of a token. -/
theorem Errand.Reads.of_deliver_isLocal {g : Errand α} {read? : List UInt8 → Option α}
    (h : g.Reads read?) {answer : TokenAnswer} {left : Client τ}
    (hx : g.deliver answer d = (.error e, left)) (hlocal : e.kind.isLocal = true) :
    answer = .error e ∧ left = d := by
  rcases h.of_deliver_eq_error (congrArg Prod.fst hx) with
    ⟨hleft, hanswer | ⟨t, -, -, rfl⟩⟩ | hrequest | hprocessing
  · rw [hx] at hleft
    exact ⟨hanswer, hleft⟩
  · cases hlocal
  · rw [hrequest] at hlocal
    cases hlocal
  · rw [hprocessing] at hlocal
    cases hlocal

/-- A local error of an operation is that of its plan, or comes in place of a token. -/
theorem of_perform_isLocal {op : Operation α} {now : Instant} {left : Client τ}
    (hx : op.perform now c = (.error e, left)) (hlocal : e.kind.isLocal = true) :
    op.plan c = .settled (.error e) ∧ left = c ∨
      (c.tokens.ensure now).1 = .error e ∧ left = c.authenticated now := by
  rw [perform_eq_carry] at hx
  rcases hplan : op.plan c with x | g <;> rw [hplan] at hx
  · obtain ⟨rfl, rfl⟩ := Prod.mk.inj hx
    exact .inl ⟨rfl, rfl⟩
  · exact .inr ((reads_of_plan hplan).of_deliver_isLocal hx hlocal)

theorem of_ending?_isLocal {op : Operation α} {ev : Event} {left : Client τ}
    (hx : op.ending? c d ev = some (.error e, left)) (hlocal : e.kind.isLocal = true) :
    (d.tokens.step ev).1 = some (.error e) ∧ left = d.after ev := by
  unfold Operation.ending? at hx
  rcases hplan : op.plan c with x | g <;> rw [hplan] at hx
  · cases hx
  · rcases hanswer : (d.tokens.step ev).1 with _ | answer <;> rw [hanswer] at hx
    · cases hx
    · obtain ⟨rfl, hleft⟩ := (reads_of_plan hplan).of_deliver_isLocal (Option.some.inj hx) hlocal
      exact ⟨rfl, hleft⟩

/-- A client that is built with settings sends nothing when something fails with a local error,
whatever has been done with it. That is so of a call for a token and of an operation, also if they
wait while others do something to the client. The plan of an operation refuses it before a token is
seen to, or the settings of the client fail. -/
theorem sends_nothing_of_isLocal {o : ClientOptions τ} (hsource : o.source = none)
    {platform : Http.Platform} {p : Peer} {address : String} {c₀ c : Client τ}
    (hbuild : o.build platform p address = .ok c₀) (hreached : Reached c₀ c) {e : Error}
    (hlocal : e.kind.isLocal = true) :
    (∀ now left, (authenticate now).run.run c = (.error e, left) →
      left.peer = c.peer ∧ c₀.Barren o.auth e) ∧
    (∀ ev, (c.tokens.step ev).1 = some (.error e) →
      (c.after ev).peer = c.peer ∧ c₀.Barren o.auth e) ∧
    (∀ (β : Type) (op : Operation β) now left, op.perform now c = (.error e, left) →
      left.peer = c.peer ∧ (op.plan c = .settled (.error e) ∧ left = c ∨
        (c.tokens.ensure now).1 = .error e ∧ left = c.authenticated now ∧
          c₀.Barren o.auth e)) ∧
    (∀ (β : Type) (op : Operation β) (asked : Client τ) ev left,
      op.ending? asked c ev = some (.error e, left) →
        left.peer = c.peer ∧ (c.tokens.step ev).1 = some (.error e) ∧ left = c.after ev ∧
          c₀.Barren o.auth e) := by
  obtain ⟨a, hconfig, hbuilt⟩ := runsOn_of_build hsource hbuild
  have hruns : c.tokens.RunsOn a := hreached.runsOn hbuilt
  have hfailed : ∀ tokens, TokenCache.Abides a c.tokens (some (.error e)) tokens →
      tokens.source.peer = c.peer ∧ c₀.Barren o.auth e := by
    intro tokens habides
    have hgives := habides.gives e rfl
    exact ⟨habides.quiet (hgives.rests hlocal).1, hconfig ▸ barren_of_gives hbuilt hgives hlocal⟩
  refine ⟨fun now left hx => ?_, fun ev hanswer => ?_, fun β op now left hx => ?_,
    fun β op asked ev left hx => ?_⟩
  · rw [run_authenticate] at hx
    obtain ⟨hanswer, rfl⟩ := Prod.mk.inj hx
    exact hfailed _ (hanswer ▸ hruns.abides_ensure now)
  · exact hfailed _ (hanswer ▸ hruns.abides_step ev)
  · rcases of_perform_isLocal hx hlocal with ⟨hplan, rfl⟩ | ⟨hanswer, rfl⟩
    · exact ⟨rfl, .inl ⟨hplan, rfl⟩⟩
    · obtain ⟨hpeer, hbarren⟩ := hfailed _ (hanswer ▸ hruns.abides_ensure now)
      exact ⟨hpeer, .inr ⟨hanswer, rfl, hbarren⟩⟩
  · obtain ⟨hanswer, rfl⟩ := of_ending?_isLocal hx hlocal
    obtain ⟨hpeer, hbarren⟩ := hfailed _ (hanswer ▸ hruns.abides_step ev)
    exact ⟨hpeer, hanswer, rfl, hbarren⟩

/-- Settings whose secret is blank. -/
def blankSecret : ClientOptions StaticSource where
  auth := .basic { clientId := "me", clientSecret := " " }

/-- The client that they make for a hub on the same machine. -/
def secretless : Client StaticSource where
  url := loopback.url
  agent := { userAgent := some (Http.Agent.nameOf ⟨"linux", "x86_64"⟩ none) }
  tokens.source.source := .authenticator
    { agent := { userAgent := some (Http.Agent.nameOf ⟨"linux", "x86_64"⟩ none) }
      serverUrl := dropTrailingSlashes loopback.url.text
      config := blankSecret.auth }

/-- The registered clients are not asked for, and nothing else is. -/
theorem sends_nothing_of_isLocal_secretless :
    blankSecret.build ⟨"linux", "x86_64"⟩ {} "http://[::1]/" = .ok secretless ∧
      ∃ e left, Operation.clients.perform .epoch secretless = (.error e, left) ∧
        e.kind = .configuration ∧ left.peer = secretless.peer := by
  have hagent : Http.Agent.ofConfig? ⟨"linux", "x86_64"⟩ {} = .ok secretless.agent := by
    unfold Http.Agent.ofConfig?
    exact if_pos (by decide)
  have hbuild : blankSecret.build ⟨"linux", "x86_64"⟩ {} "http://[::1]/" = .ok secretless := by
    have hconfig : blankSecret.httpConfig = {} := rfl
    rw [ClientOptions.build, serverUrl?_loopback, hconfig, hagent]
    rfl
  have hsends : (Operation.clients.plan secretless).sends = true := by decide +kernel
  obtain ⟨e, hanswer, hkind⟩ : ∃ e, (secretless.tokens.ensure .epoch).1 = .error e ∧
      e.kind = .configuration := ⟨_, rfl, rfl⟩
  have hperform : Operation.clients.perform .epoch secretless =
      (.error e, secretless.authenticated .epoch) := by
    rw [perform_eq_carry]
    rcases hplan : Operation.clients.plan secretless with x | g <;> rw [hplan] at hsends
    · cases hsends
    · rw [Plan.carry, hanswer, Errand.deliver]
      rfl
  have hlocal : e.kind.isLocal = true := by rw [hkind]; rfl
  obtain ⟨-, -, hoperation, -⟩ := sends_nothing_of_isLocal rfl hbuild .start hlocal
  exact ⟨hbuild, e, _, hperform, hkind, (hoperation _ _ _ _ hperform).1⟩

end Client

end EntityHub
