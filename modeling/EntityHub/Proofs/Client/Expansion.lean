import EntityHub.Proofs.Client.Operation
/-!
# Expansion on the way

A stream of a dataset that expands identifiers comes to what the plain one comes to with every
record expanded afterwards (`Client.browse_expand`). The two walk over the same pages, but they know
the prefixes from different places. The expanding one goes by what its feed keeps for pages without
a context (`Expansion.turn`), and its records are expanded before the stream has seen the page. Who
expands afterwards goes by the context of the stream (`RecordStream.turn`).

That both memories agree after every page is `RecordStream.turn_toPage_prefixes`. A page keeps the
agreement (`RecordStream.expanded_turn`), hence so does a call (`DatasetFeed.call_expanded`), and
hence do any number of them (`DatasetFeed.calls_expanded`).
-/

namespace EntityHub

variable {τ : Type}

theorem Context.eq_empty_of_isEmpty {k : Context} (h : k.isEmpty = true) : k = {} := by
  have hentries : k.namespaces.entries = [] := List.isEmpty_iff.mp h
  exact Context.ext (Dict.ext hentries)

/-! ## Pages -/

namespace RecordStream

variable (s : RecordStream Entity) (p : EntityPage)

/-- The prefixes that the records of a walk are read with: those in force, and none before any are
known. -/
def prefixes : Context := s.context.getD {}

/-- The walk with the records of its page expanded. -/
def expanded : RecordStream Entity :=
  { s with buffered := s.buffered.map (Entity.expand s.prefixes) }

/-- A page puts its own prefixes in force if it has any. -/
theorem prefixes_turn :
    (s.turn p.toPage).prefixes = if p.context.isEmpty then s.prefixes else p.context := by
  have hcontext : (s.turn p.toPage).context =
      (if p.context.isEmpty then none else some p.context).or s.context := rfl
  unfold prefixes
  rw [hcontext]
  split
  · rw [Option.none_or]
  · rw [Option.some_or, Option.getD_some]

/-- What a feed keeps stays what its stream has in force. -/
theorem turn_toPage_prefixes :
    Expansion.turn (some s.prefixes) p = some (s.turn p.toPage).prefixes := by
  rw [prefixes_turn]
  rfl

/-- Turning to a page that was expanded with what the feed keeps is turning to the page and
expanding it then. -/
theorem expanded_turn :
    s.expanded.turn ((Expansion.turn (some s.prefixes) p).apply p).toPage =
      (s.turn p.toPage).expanded := by
  rw [turn_toPage_prefixes]
  rfl

end RecordStream

/-- Without anything kept from earlier pages, a page is expanded by its own context. -/
theorem EntityPage.apply_turn_empty (p : EntityPage) :
    (Expansion.turn (some {}) p).apply p = p.expand := by
  have hturn : Expansion.turn (some {}) p = some p.context := by
    unfold Expansion.turn
    rw [Option.map_some]
    split
    · next h => rw [Context.eq_empty_of_isEmpty h]
    · rfl
  rw [hturn]
  rfl

/-! ## Calls -/

namespace DatasetFeed

/-- What a call of `next` on a stream of a dataset has come to: its result, and the stream, the
client and the feed after it. -/
structure Call (τ : Type) where
  result : Except Error (Option Entity)
  after : RecordStream Entity
  left : Client τ
  kept : Expansion

/-- The call with its record expanded by the context that the stream has then. The client is the
same, so it has sent the same requests. -/
def Call.expanded (d : Call τ) : Call τ where
  result := d.result.map (Option.map (Entity.expand d.after.prefixes))
  after := d.after.expanded
  left := d.left
  kept := some d.after.prefixes

variable [TokenSource τ] (f : DatasetFeed)

/-- The call of `next` on a stream. -/
def call (now : Instant) (s : RecordStream Entity) (c : Client τ) (e : Expansion) : Call τ where
  result := (s.next (f.fetch now) (c, e)).1.1
  after := (s.next (f.fetch now) (c, e)).1.2
  left := (s.next (f.fetch now) (c, e)).2.1
  kept := (s.next (f.fetch now) (c, e)).2.2

/-- Calls of `next` on a stream, one after another. -/
def calls : List (Query.Visit τ) → RecordStream Entity → Client τ → Expansion → List (Call τ)
  | [], _, _, _ => []
  | v :: l, s, c, e =>
    let d := f.call v.now s (v.meanwhile c) e
    d :: calls l d.after d.left d.kept

theorem call_of_cons {s : RecordStream Entity} {x : Entity} {l : List Entity}
    (hb : s.buffered = x :: l) (now : Instant) (c : Client τ) (e : Expansion) :
    f.call now s c e = ⟨.ok (some x), { s with buffered := l }, c, e⟩ := by
  unfold call
  rw [RecordStream.next_of_cons (f.fetch now) hb]

theorem call_of_error {s : RecordStream Entity} (hb : s.buffered = []) {now : Instant}
    {c left : Client τ} {x : Error}
    (hp : (c.feedPlan f s.continuation).carry now c = (.error x, left)) (e : Expansion) :
    f.call now s c e = ⟨.error x, s, left, e⟩ := by
  have hf : f.fetch now s.continuation (c, e) = (.error x, left, e) := by
    rw [Client.fetch_feed, hp]
    rfl
  unfold call
  rw [RecordStream.next_of_error hb hf]

theorem call_of_page {s : RecordStream Entity} (hb : s.buffered = []) {now : Instant}
    {c left : Client τ} {p : EntityPage}
    (hp : (c.feedPlan f s.continuation).carry now c = (.ok p, left)) (e : Expansion) :
    f.call now s c e =
      let t := s.turn ((e.turn p).apply p).toPage
      ⟨.ok t.buffered.head?, { t with buffered := t.buffered.tail }, left, e.turn p⟩ := by
  have hf : f.fetch now s.continuation (c, e) =
      (.ok ((e.turn p).apply p).toPage, left, e.turn p) := by
    rw [Client.fetch_feed, hp]
    rfl
  unfold call
  rw [RecordStream.next_of_page hb hf]
  rfl

/-- A plain feed keeps nothing. -/
theorem kept_call (now : Instant) (s : RecordStream Entity) (c : Client τ) :
    (f.call now s c none).kept = none := by
  rcases hb : s.buffered with _ | ⟨x, l⟩
  · rcases hp : (c.feedPlan f s.continuation).carry now c with ⟨x | p, left⟩
    · rw [f.call_of_error hb hp]
    · rw [f.call_of_page hb hp]
      rfl
  · rw [f.call_of_cons hb]

/-- A call of the expanding stream is the call of the plain one, expanded afterwards. -/
theorem call_expanded (now : Instant) (s : RecordStream Entity) (c : Client τ) :
    f.call now s.expanded c (some s.prefixes) = (f.call now s c none).expanded := by
  have hcursor : s.expanded.continuation = s.continuation := rfl
  have hbuffered : s.expanded.buffered = s.buffered.map (Entity.expand s.prefixes) := rfl
  rcases hb : s.buffered with _ | ⟨x, l⟩ <;> rw [hb] at hbuffered
  · rw [List.map_nil] at hbuffered
    rcases hp : (c.feedPlan f s.continuation).carry now c with ⟨x | p, left⟩
    · rw [f.call_of_error hb hp, f.call_of_error hbuffered hp]
      rfl
    · rw [f.call_of_page hb hp, f.call_of_page hbuffered hp, s.expanded_turn p,
        s.turn_toPage_prefixes p]
      -- both streams turn to the same page, whose first record is handed out at once
      generalize ht : s.turn p.toPage = t
      have hplain : s.turn ((Expansion.turn none p).apply p).toPage = t := ht
      rw [hplain]
      refine congrArg₂ (fun result after => Call.mk result after left (some t.prefixes)) ?_ ?_
      · exact congrArg Except.ok List.head?_map
      · exact congrArg (fun l => { t with buffered := l }) List.map_tail.symm
  · rw [List.map_cons] at hbuffered
    rw [f.call_of_cons hb, f.call_of_cons hbuffered]
    rfl

theorem calls_expanded (l : List (Query.Visit τ)) (s : RecordStream Entity) (c : Client τ) :
    f.calls l s.expanded c (some s.prefixes) = (f.calls l s c none).map Call.expanded := by
  induction l generalizing s c with
  | nil => rfl
  | cons v l ih =>
    have hkept := f.kept_call v.now s (v.meanwhile c)
    have hcall := f.call_expanded v.now s (v.meanwhile c)
    unfold calls
    rw [hcall, List.map_cons, hkept]
    exact congrArg (_ :: ·) (ih _ _)

end DatasetFeed

/-! ## Streams -/

namespace Client

/-- A stream of a dataset from its opening on. -/
structure Browsing (τ : Type) where
  opened : Except Error (RecordStream Entity)
  /-- The client after the opening. -/
  left : Client τ
  calls : List (DatasetFeed.Call τ)

/-- The stream with everything that it gives expanded by the context that it has then. -/
def Browsing.expanded (b : Browsing τ) : Browsing τ where
  opened := b.opened.map RecordStream.expanded
  left := b.left
  calls := b.calls.map DatasetFeed.Call.expanded

variable [TokenSource τ]

/-- Opens a stream of a dataset and calls `next` on it. -/
def browse (now : Instant) (dataset : String) (q : DatasetQuery) (cursor : Option Continuation)
    (expand : Bool) (l : List (Query.Visit τ)) (c : Client τ) : Browsing τ :=
  match (datasetStream now dataset q cursor expand).run.run c with
  | (.error e, left) => ⟨.error e, left, []⟩
  | (.ok (feed, s, e), left) => ⟨.ok s, left, feed.calls l s left e⟩

theorem run_datasetStream (now : Instant) (dataset : String) (q : DatasetQuery)
    (cursor : Option Continuation) (expand : Bool) (c : Client τ) :
    (datasetStream now dataset q cursor expand).run.run c =
      ((Operation.openFeed dataset q cursor expand).plan c).carry now c :=
  perform_eq_carry now c (.openFeed dataset q cursor expand)

theorem run_datasetPage (now : Instant) (dataset : String) (q : DatasetQuery)
    (cursor : Option Continuation) (expand : Bool) (c : Client τ) :
    (datasetPage now dataset q cursor expand).run.run c =
      ((Operation.page dataset q cursor expand).plan c).carry now c :=
  perform_eq_carry now c (.page dataset q cursor expand)

theorem browse_expanding (now : Instant) (dataset : String) (q : DatasetQuery)
    (cursor : Option Continuation) (l : List (Query.Visit τ)) (c : Client τ) :
    c.browse now dataset q cursor true l = (c.browse now dataset q cursor false l).expanded := by
  unfold browse
  rw [run_datasetStream, run_datasetStream, Operation.plan, Operation.plan]
  rcases DatasetFeed.ofName? dataset q with e | feed
  · rfl
  · simp only [Plan.checked, Plan.carry_andThen]
    rcases (c.feedPlan feed cursor).carry now c with ⟨e | p, left⟩
    · rfl
    · let s : RecordStream Entity := { continuation := cursor }
      have hkept : Expansion.turn (startExpansion true) p = some (s.turn p.toPage).prefixes :=
        s.turn_toPage_prefixes p
      have hcalls := feed.calls_expanded l (s.turn p.toPage) left
      simp only [Except.bind, hkept]
      exact congrArg (Browsing.mk (.ok (s.turn p.toPage).expanded) left) hcalls

theorem datasetPage_expanding (now : Instant) (dataset : String) (q : DatasetQuery)
    (cursor : Option Continuation) (c : Client τ) :
    (datasetPage now dataset q cursor true).run.run c =
      (((datasetPage now dataset q cursor false).run.run c).1.map EntityPage.expand,
        ((datasetPage now dataset q cursor false).run.run c).2) := by
  rw [run_datasetPage, run_datasetPage, Operation.plan, Operation.plan]
  rcases DatasetFeed.ofName? dataset q with e | feed
  · rfl
  · simp only [Plan.checked, Plan.carry_andThen]
    rcases (c.feedPlan feed cursor).carry now c with ⟨e | p, left⟩
    · rfl
    · have hpage : ((startExpansion true).turn p).apply p = p.expand := p.apply_turn_empty
      simp only [Except.bind, hpage]
      rfl

/-- To expand on the way is to expand afterwards. A stream that expands comes to what the plain
stream comes to with every record expanded by the context that the plain stream has when it hands
the record out, and for the rest they are the same: errors, ends, cursors, contexts, counts of
pages, and the client after every step with all that it has sent. Likewise a single page is the
plain page, expanded. -/
theorem browse_expand (now : Instant) (dataset : String) (q : DatasetQuery)
    (cursor : Option Continuation) (l : List (Query.Visit τ)) (c : Client τ) :
    c.browse now dataset q cursor true l = (c.browse now dataset q cursor false l).expanded ∧
      (datasetPage now dataset q cursor true).run.run c =
        (((datasetPage now dataset q cursor false).run.run c).1.map EntityPage.expand,
          ((datasetPage now dataset q cursor false).run.run c).2) :=
  ⟨browse_expanding now dataset q cursor l c, datasetPage_expanding now dataset q cursor c⟩

end Client

end EntityHub
