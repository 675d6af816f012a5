import EntityHub.Proofs.Client.Address
import EntityHub.Proofs.Client.Expansion
import EntityHub.Proofs.Entity.Page
/-!
# Pages that are asked for

What the request for a page of a dataset says (`Client.perform_asks`). Read as a form, its query holds
what was asked for (`DatasetQuery.AskedBy`), and in front of that nothing if the address has no query.
If it has one, all pairs of the address are sent with every request, and if there is no fragment, the
path of the page is part of the last of them. A cursor is sent as it was given, and the one that the
hub gave with a page is sent for the page after it.
-/

namespace EntityHub

open Json (Decoder Value)

/-! ## What is asked for -/

namespace DatasetQuery

/-- The pairs ask for that page of the dataset and for nothing else. -/
structure AskedBy (q : DatasetQuery) (cursor : Option Continuation) (sent : List (String × String)) :
    Prop where
  limit : ∀ v, ("limit", v) ∈ sent ↔ ∃ n : UInt32, q.limit = some n ∧ 0 < n ∧ v = toString n.toNat
  reverse : ∀ v, ("reverse", v) ∈ sent ↔ q.reverse = true ∧ v = "true"
  latestOnly : ∀ v, ("latestOnly", v) ∈ sent ↔ q.kind = .changes true ∧ v = "true"
  from' : ∀ v, ("from", v) ∈ sent ↔ q.kind = .entities ∧ cursor = some ⟨v⟩
  since : ∀ v, ("since", v) ∈ sent ↔ q.kind ≠ .entities ∧ cursor = some ⟨v⟩
  only : ∀ e ∈ sent, e.1 ∈ ["limit", "reverse", "latestOnly", "from", "since"]
  once : (sent.map Prod.fst).Nodup

theorem mem_pairs {q : DatasetQuery} {cursor : Option Continuation} {e : String × String} :
    e ∈ q.pairs cursor ↔
      (∃ n : UInt32, q.limit = some n ∧ 0 < n ∧ e = ("limit", toString n.toNat)) ∨
      (q.reverse = true ∧ e = ("reverse", "true")) ∨
      (q.kind = .changes true ∧ e = ("latestOnly", "true")) ∨
      ∃ k, cursor = some k ∧ e = (q.cursorName, k.value) := by
  simp only [pairs, List.mem_append, List.mem_map, Option.mem_toList,
    Option.filter_eq_some_iff, decide_eq_true_iff, List.mem_ite_nil_right, List.mem_singleton,
    and_assoc, or_assoc, eq_comm (a := e)]

theorem askedBy_pairs (q : DatasetQuery) (cursor : Option Continuation) :
    q.AskedBy cursor (q.pairs cursor) := by
  have hcursor : ∀ v, (∃ k, cursor = some k ∧ v = k.value) ↔ cursor = some ⟨v⟩ := by
    intro v
    constructor
    · rintro ⟨k, hk, rfl⟩
      exact hk
    · exact fun h => ⟨⟨v⟩, h, rfl⟩
  refine ⟨fun v => ?_, fun v => ?_, fun v => ?_, fun v => ?_, fun v => ?_, fun e he => ?_, ?_⟩
  all_goals obtain ⟨kind, limit, reverse⟩ := q
  · cases kind <;> simp [mem_pairs, cursorName]
  · cases kind <;> simp [mem_pairs, cursorName]
  · cases kind <;> simp [mem_pairs, cursorName]
  · cases kind <;> simp [mem_pairs, cursorName, hcursor]
  · cases kind <;> simp [mem_pairs, cursorName, hcursor]
  · rw [mem_pairs] at he
    rcases he with ⟨n, -, -, rfl⟩ | ⟨-, rfl⟩ | ⟨-, rfl⟩ | ⟨k, -, rfl⟩
    · simp
    · simp
    · simp
    · cases kind <;> simp [cursorName]
  · simp only [pairs]
    generalize limit.filter (0 < ·) = limit
    rcases limit with _ | n <;> cases reverse <;> rcases kind with _ | ⟨_ | _⟩ <;>
      rcases cursor with _ | k <;> simp [cursorName]

end DatasetQuery

/-! ## What the hub gives -/

theorem Json.Slot.ofMembers?_of_lookup {members : List (String × Value)} {k : String} {v : Value}
    {slot : Json.Slot} (hv : members.lookup k = some v)
    (h : Json.Slot.ofMembers? (Value.toRawMembers members) k = some slot) :
    slot = .given v.toRaw := by
  have hfirst : ∃ rest, ((Value.toRawMembers members).filter fun m => m.1 = some k) =
      (some k, v.toRaw) :: rest := by
    clear h
    induction members with
    | nil => cases hv
    | cons m members ih =>
      by_cases hk : k = m.1
      · rw [hk, List.lookup_cons_self] at hv
        obtain rfl := Option.some.inj hv
        exact ⟨_, List.filter_cons_of_pos (by simp [hk]) |>.trans (by rw [hk])⟩
      · rw [Dict.lookup_cons_of_ne hk] at hv
        obtain ⟨rest, hrest⟩ := ih hv
        exact ⟨rest, (List.filter_cons_of_neg (by simpa using Ne.symm hk)).trans hrest⟩
  obtain ⟨rest, hrest⟩ := hfirst
  rw [Json.Slot.ofMembers?, hrest] at h
  rcases rest with _ | ⟨m, rest⟩
  · exact (Option.some.inj h).symm
  · cases h

/-- A continuation is read as the text of its token. -/
theorem Continuation.eq_of_token {v : Value} {k : Continuation} {t : String}
    (hk : decoder.ofValue? v = some k) (ht : v.get? "token" = some (.string t)) : k = ⟨t⟩ := by
  cases v with
  | object members =>
    have hslots : Json.slots? ["token"] Json.maxLevels (Value.object members).toRaw = _ :=
      Json.slots?_object ["token"] (Value.toRawMembers members) 126
    simp only [Decoder.ofValue?, decoder, hslots, List.mapM_cons, List.mapM_nil,
      Option.bind_eq_bind, Option.bind_eq_some_iff, Option.ite_none_right_eq_some,
      Option.map_eq_some_iff] at hk
    obtain ⟨x, ⟨-, slots, ⟨slot, hslot, rest, hrest, hs⟩, rfl⟩, hk⟩ := hk
    obtain rfl := Json.Slot.ofMembers?_of_lookup ht hslot
    obtain rfl := Option.some.inj hrest
    obtain rfl := Option.some.inj hs
    obtain ⟨token, htoken, hk⟩ := Option.bind_eq_some_iff.mp hk
    obtain rfl := Option.some.inj hk
    obtain rfl := Option.some.inj htoken
    rfl
  | null => cases ht
  | bool => cases ht
  | number => cases ht
  | string => cases ht
  | array => cases ht

/-- A page whose last continuation has a token goes on at that token. -/
theorem EntityPage.continuation_of_token {l : List UInt8} {vs : List Value} {v : Value} {t : String}
    (hvs : Decoder.value.ofOctets? l = some (.array vs)) (hformat : Format vs)
    (hlast : (vs.filter fun v => Bears continuationId v).getLast? = some v)
    (ht : v.get? "token" = some (.string t)) :
    ∃ p, ofOctets? l = .ok p ∧ p.continuation = some ⟨t⟩ := by
  obtain ⟨els, hels⟩ := exists_forall₂ (format_iff.mp hformat)
  have hholds := holds_of_reads hels
  refine ⟨_, ofOctets?_eq_ok_iff.mpr ⟨vs, hvs, hformat, hholds⟩, ?_⟩
  obtain ⟨hv, hid⟩ := List.mem_filter.mp (List.mem_of_getLast? hlast)
  obtain ⟨k, hk⟩ := hformat.continuations v hv (of_decide_eq_true hid)
  rw [hholds.continuation, hlast, Option.bind_some, hk, Continuation.eq_of_token hk ht]

namespace DatasetFeed

variable {τ : Type} [TokenSource τ] (f : DatasetFeed)

/-- The walk that calls leave. -/
def left (l : List (Query.Visit τ)) (s : RecordStream Entity) (c : Client τ) (e : Expansion) :
    RecordStream Entity :=
  ((f.calls l s c e).getLast?.map Call.after).getD s

/-- While records are handed out, nothing else of a walk changes. -/
theorem left_of_length_eq {l : List (Query.Visit τ)} {s : RecordStream Entity}
    (hl : l.length = s.buffered.length) (c : Client τ) (e : Expansion) :
    f.left l s c e = { s with buffered := [] } := by
  induction l generalizing s c with
  | nil => exact RecordStream.ext (List.eq_nil_of_length_eq_zero hl.symm) rfl rfl rfl
  | cons v l ih =>
    obtain ⟨x, rest, hb⟩ := List.exists_cons_of_length_eq_add_one hl.symm
    have hcall := f.call_of_cons hb v.now (v.meanwhile c) e
    have hrest : l.length = rest.length := by simpa [hb] using hl
    rw [← ih (s := { s with buffered := rest }) hrest (v.meanwhile c), left, left, calls]
    simp only [hcall, List.getLast?_cons, Option.map_some, Option.getD_some]
    cases (f.calls l { s with buffered := rest } (v.meanwhile c) e).getLast? <;> rfl

end DatasetFeed

namespace Client

variable {τ α : Type}

/-- A page of a dataset, as it is asked for. -/
structure Ask where
  dataset : String
  query : DatasetQuery
  cursor : Option Continuation

/-- The page that an operation asks for, if it asks for one and is not refused. -/
def Operation.ask? : Operation α → Option Ask
  | .page dataset q cursor _ | .openFeed dataset q cursor _ =>
    if isBlank dataset then none else some ⟨dataset, q, cursor⟩
  | .nextEntity feed s _ =>
    if s.buffered.isEmpty then some ⟨feed.dataset, feed.query, s.continuation⟩ else none
  | _ => none

/-- The segments of the path of a page. -/
def Ask.segments (a : Ask) : List String :=
  Place.asked ⟨["datasets"], a.dataset, [a.query.endpoint]⟩

/-- The pairs that an address adds to those of a request. -/
def Ask.foreign (a : Ask) (u : Url) : List (String × String) :=
  Form.decode (((u.below a.segments).query).getD "")

/-- The place of the page. -/
theorem Operation.place?_of_ask? {op : Operation α} {a : Ask} (h : op.ask? = some a) :
    op.place? = some ⟨["datasets"], a.dataset, [a.query.endpoint]⟩ := by
  cases op <;> simp only [ask?, Option.ite_none_left_eq_some, Option.ite_none_right_eq_some,
    Option.some.injEq, reduceCtorEq] at h
  case page | openFeed =>
    obtain ⟨hname, rfl⟩ := h
    exact if_neg hname
  case nextEntity =>
    obtain ⟨hbuffered, rfl⟩ := h
    exact if_pos hbuffered

/-- If a plan sends something, it adds these pairs to the query. -/
def Plan.Adds (pairs : List (String × String)) (p : Plan α) : Prop :=
  ∀ g, p = .send g → g.draft.pairs = some pairs

theorem adds_plan (c : Client τ) {op : Operation α} {a : Ask} (h : op.ask? = some a) :
    (op.plan c).Adds (a.query.pairs a.cursor) := by
  intro g hg
  rw [((routed_plan op).of_send hg).2]
  cases op <;> simp only [Operation.ask?, Option.ite_none_left_eq_some,
    Option.ite_none_right_eq_some, Option.some.injEq, reduceCtorEq] at h
  case page | openFeed | nextEntity =>
    obtain ⟨-, rfl⟩ := h
    rfl

variable [TokenSource τ]

/-- The query of every request for a page says what is asked for, and beside that only what the
address adds to it. A cursor is sent as it was given. If the hub tells a token, that is the cursor with
which the walk asks for the page after this one, as soon as all records were handed out. -/
theorem perform_asks {address : String} {c : Client τ}
    (haddress : ClientOptions.serverUrl? address = .ok c.url) (now : Instant) (op : Operation α)
    {a : Ask} (hask : op.ask? = some a) :
    ((∃ f e, Url.ofText? c.url.text = .error f ∧ op.perform now c = (.error e, c)) ∨
      ∃ g, op.plan c = .send g ∧
        op.perform now c = g.deliver (c.tokens.ensure now).1 (c.authenticated now) ∧
        ∃ sent, a.query.AskedBy a.cursor sent ∧
          ∀ (later : Client τ) (authorization : Option String),
            Form.decode ((later.requestOf g.url authorization g.draft).url.query.getD "") =
              a.foreign c.url ++ sent) ∧
    (c.url.query = none → a.foreign c.url = []) ∧
    (∀ q, c.url.query = some q →
      (c.url.fragment = none → a.foreign c.url ≠ []) ∧
      (c.url.fragment ≠ none → a.foreign c.url = Form.decode q)) ∧
    ∀ {body : List UInt8} {vs : List Value} {v : Value} {t : String},
      Decoder.value.ofOctets? body = some (.array vs) → EntityPage.Format vs →
      (vs.filter fun v => EntityPage.Bears EntityPage.continuationId v).getLast? = some v →
      v.get? "token" = some (.string t) →
      ∃ p, EntityPage.ofOctets? body = .ok p ∧ p.continuation = some ⟨t⟩ ∧
        ∀ (feed : DatasetFeed) (s : RecordStream Entity) (e e' : Expansion)
          (l : List (Query.Visit τ)) (later : Client τ),
          let turned := s.turn ((e.turn p).apply p).toPage
          l.length = turned.buffered.length →
            (Operation.nextEntity feed (feed.left l turned later (e.turn p)) e').ask? =
              some ⟨feed.dataset, feed.query, some ⟨t⟩⟩ := by
  have hregular := Operation.regular_of_place? (Operation.place?_of_ask? hask)
  have hsegments : a.segments ≠ [] := by simp [Ask.segments, Place.asked]
  have hurl := fun u => requestUrl_eq_ok_iff_below (u := u) haddress hregular.plain_asked hsegments
  have hperform := perform_eq_carry now c op
  have htoward := toward_plan (c := c) (Operation.place?_of_ask? hask)
  have hadds := adds_plan c hask
  refine ⟨?_, fun hquery => ?_, fun q hquery => ⟨fun hfragment => ?_, fun hfragment => ?_⟩,
    fun hvs hformat hlast htoken => ?_⟩
  · rcases hplan : op.plan c with x | g <;> rw [hplan] at hperform htoward
    · obtain ⟨he⟩ := htoward
      rcases hread : Url.ofText? c.url.text with f | w
      · exact .inl ⟨f, _, rfl, hperform⟩
      · obtain ⟨front, hown, -⟩ := exists_front haddress hregular.plain_asked hsegments
        rw [hown] at hread
        rcases front with f | w'
        · cases hread
        · obtain rfl := Except.ok.inj hread
          rw [(hurl _).mpr ⟨_, hown, rfl, rfl, rfl, rfl⟩] at he
          cases he
    · obtain - | hsend := htoward
      obtain ⟨w, -, hpath, hquery, hfragment, hw⟩ := (hurl g.url).mp hsend
      refine .inr ⟨g, rfl, hperform, _, a.query.askedBy_pairs a.cursor, fun later authorization => ?_⟩
      rw [decode_requestOf, hadds g hplan, hw, Ask.foreign, Url.query_below, Url.query_below, hquery,
        hfragment]
      rfl
  · rw [Ask.foreign, Url.query_below, hquery]
    rfl
  · have hslash : '/' ∈ Percent.encode Percent.specialQuerySet
        (Url.Path.segments a.segments).text.toList := by
      rw [Url.Path.toList_text_segments, Ask.segments, Place.asked, List.singleton_append,
        List.flatMap_cons, List.cons_append, Percent.encode_cons,
        Percent.encodeChar_of_keep (by decide)]
      exact List.mem_cons_self
    rw [Ask.foreign, Url.query_below, hquery, hfragment]
    exact Form.decode_ne_nil (c := '/') (by simp [hslash]) (by decide)
  · rw [Ask.foreign, Url.query_below, hquery]
    rcases hf : c.url.fragment with _ | f
    · exact absurd hf hfragment
    · rfl
  · obtain ⟨p, hp, hcontinuation⟩ := EntityPage.continuation_of_token hvs hformat hlast htoken
    refine ⟨p, hp, hcontinuation, fun feed s e e' l later hl => ?_⟩
    have hcursor : ((e.turn p).apply p).toPage.continuation = p.continuation := by
      cases e <;> rfl
    rw [feed.left_of_length_eq hl, Operation.ask?, RecordStream.turn, hcursor, hcontinuation]
    rfl

/-- A token with characters that mean something in a query goes out as it came in. -/
theorem perform_asks_loopback :
    let feed : DatasetFeed := ⟨"people", { kind := .changes true, limit := some 5 }⟩
    let entity : Value := .object [("id", .string "a:1")]
    let continuation : Value :=
      .object [("id", .string "@continuation"), ("token", .string "a&b=c+d% é")]
    let body := Utf8.encode (Value.array [entity, continuation]).text
    let asks (w : RecordStream Entity) (cursor : Option Continuation)
        (sent : List (String × String)) : Prop :=
      ∃ g, (Operation.nextEntity feed w none).plan loopback = .send g ∧
        feed.query.AskedBy cursor sent ∧
        ∀ (later : Client StaticSource) (authorization : Option String),
          Form.decode ((later.requestOf g.url authorization g.draft).url.query.getD "") = sent
    ClientOptions.serverUrl? "http://[::1]/" = .ok loopback.url ∧ (∃ sent, asks {} none sent) ∧
      ∃ p, EntityPage.ofOctets? body = .ok p ∧ ∃ sent,
        asks (feed.left [⟨.epoch, id⟩] (RecordStream.turn {} p.toPage) loopback none)
          (some ⟨"a&b=c+d% é"⟩) sent ∧ ("since", "a&b=c+d% é") ∈ sent := by
  intro feed entity continuation body asks
  have hasks : ∀ {w : RecordStream Entity} {cursor : Option Continuation},
      (Operation.nextEntity feed w none).ask? = some ⟨feed.dataset, feed.query, cursor⟩ →
        ∃ sent, asks w cursor sent := by
    intro w cursor h
    obtain ⟨hsent, hforeign, -⟩ := perform_asks serverUrl?_loopback .epoch _ h
    rcases hsent with ⟨f, e, hf, -⟩ | ⟨g, hplan, -, sent, hsent, hquery⟩
    · rw [ofText?_loopback] at hf
      cases hf
    · rw [hforeign rfl] at hquery
      exact ⟨sent, g, hplan, hsent, hquery⟩
  have hbody : Decoder.value.ofOctets? body = some (.array [entity, continuation]) := by
    have hreadable : (Value.array [entity, continuation]).Readable :=
      ⟨⟨trivial, trivial⟩, ⟨trivial, trivial, trivial⟩, trivial⟩
    rw [Decoder.ofOctets?, Json.Raw.ofOctets?_encode_text hreadable]
    rfl
  have hformat : EntityPage.Format [entity, continuation] := by
    simp only [EntityPage.format_iff, List.forall_mem_cons]
    exact ⟨⟨_, .entity (by decide) rfl⟩, ⟨_, .continuation rfl rfl⟩, by simp⟩
  have hstart : (Operation.nextEntity feed {} none).ask? = some ⟨feed.dataset, feed.query, none⟩ :=
    rfl
  obtain ⟨p, hp, -, hnext⟩ := (perform_asks serverUrl?_loopback .epoch _ hstart).2.2.2 hbody
    hformat rfl rfl
  have hentities : p.entities.length = 1 := by
    obtain ⟨vs, hvs, -, hholds⟩ := EntityPage.ofOctets?_eq_ok_iff.mp hp
    obtain rfl := Value.array.inj (Option.some.inj (hbody.symm.trans hvs))
    exact hholds.entities.length_eq.symm
  obtain ⟨sent, g, hplan, hsent, hquery⟩ :=
    hasks (hnext feed {} none none [⟨.epoch, id⟩] loopback hentities.symm)
  exact ⟨serverUrl?_loopback, hasks hstart, p, hp, sent, ⟨g, hplan, hsent, hquery⟩,
    (hsent.since _).mpr ⟨by decide, rfl⟩⟩

end Client

end EntityHub
