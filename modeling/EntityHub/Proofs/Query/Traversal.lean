import EntityHub.Proofs.Client.Post
import EntityHub.Proofs.Query.Cursor
import EntityHub.Proofs.Stream.Walk
/-!
# Traversals

A walk over the results of a query asks for each page with the continuations of the page before, and
stops asking once a page has none. `Client.queryStream_follows` says so of every walk: of its start,
of any number of calls, whatever the other side answers and whatever is done with the client between
the calls.

What is to be sent next is the list that the cursor of the walk carries (`Query.Carries`). A fetch
keeps this up (`Query.Ask`), and so does every call (`Query.Act`).
-/

namespace EntityHub

open Http (Exchange Peer Request)
open Json (Raw Value)

namespace Query

variable {τ : Type} [TokenSource τ] {q : Query} {now : Instant} {c : Client τ}
  {cursor : Option Continuation} {stored : Option (List String)} {l : List String} {r : Request}

/-! ## What is asked for -/

/-- A cursor carries a list, and no cursor carries none. -/
def Carries (cursor : Option Continuation) (stored : Option (List String)) : Prop :=
  cursor.map decodeCursor = stored.map .ok

/-- The list to send, if anything is still to be sent: nothing was stored before the first page, and
an empty list marks the end. -/
def toSend : Option (List String) → Option (List String)
  | none => some []
  | some [] => none
  | some l => some l

/-- The request for the page that follows `l`, if it gets that far. -/
def posting (q : Query) (now : Instant) (l : List String) (c : Client τ) : Option Request :=
  Client.posting now path (q.body l) c

/-- The page that is heard of that request, if it is one. -/
def decoded? (q : Query) (now : Instant) (l : List String) (c : Client τ) : Option QueryPage :=
  (q.posting now l c).bind fun r =>
    ((Client.bodyOf .runQuery ((c.authenticated now).peer.heard r)).bind
      QueryPage.ofOctets?).toOption

/-- The client after it has asked for the page that follows `l`. -/
def asked (q : Query) (now : Instant) (l : List String) (c : Client τ) : Client τ :=
  (q.posting now l c).elim (c.ready now path) fun r =>
    (c.authenticated now).withPeer ((c.authenticated now).peer.asked r)

theorem asked_of_none (h : q.posting now l c = none) : q.asked now l c = c.ready now path := by
  rw [asked, h, Option.elim_none]

theorem asked_of_some (h : q.posting now l c = some r) : q.asked now l c =
    (c.authenticated now).withPeer ((c.authenticated now).peer.asked r) := by
  rw [asked, h, Option.elim_some]

theorem decoded?_of_none (h : q.posting now l c = none) : q.decoded? now l c = none := by
  rw [decoded?, h, Option.bind_none]

theorem decoded?_of_some (h : q.posting now l c = some r) : q.decoded? now l c =
    ((Client.bodyOf .runQuery ((c.authenticated now).peer.heard r)).bind
      QueryPage.ofOctets?).toOption := by
  rw [decoded?, h, Option.bind_some]

theorem run_fetchPage (q : Query) (now : Instant) (l : List String) (c : Client τ) :
    ∃ x, (q.fetchPage now l).run.run c = (x, q.asked now l c) ∧
      x.toOption = q.decoded? now l c := by
  rw [fetchPage, run_bind]
  rcases h : q.posting now l c with _ | r
  · obtain ⟨e, he⟩ := Client.postValue_of_none .runQuery h
    rw [he, asked_of_none h, decoded?_of_none h]
    exact ⟨.error e, rfl, rfl⟩
  · rw [Client.postValue_of_posting .runQuery h, asked_of_some h, decoded?_of_some h]
    rcases Client.bodyOf .runQuery ((c.authenticated now).peer.heard r) with e | body
    · exact ⟨.error e, rfl, rfl⟩
    · exact ⟨QueryPage.ofOctets? body, run_ofExcept _ _, rfl⟩

/-- A post of the query. It is one request with the fields of the query and, if there are any, the
continuations. Should replies redirect it, then what is posted is still the same. -/
structure Posted (q : Query) (now : Instant) (l : List String) (c left : Client τ) : Prop where
  unaddressed : ∀ e, c.requestUrl "/query" = .error e → left = c
  /-- Without a header to show, a token was seen to, and nothing else is sent. -/
  unauthorized : ∀ u e, c.requestUrl "/query" = .ok u → c.authorization now = .error e →
    left = c.authenticated now
  posted : ∀ u authorization, c.requestUrl "/query" = .ok u →
    c.authorization now = .ok authorization → ∃ r sent, q.posting now l c = some r ∧
      r.method = .post ∧ r.url = u.sent ∧
      Raw.ofOctets? r.body = some (.object (
        [(some "startingEntities", .array (q.startingEntities.map fun s => .string (some s))),
          (some "predicate", .string (some q.predicate)), (some "inverse", .bool q.inverse)] ++
        (if q.datasets = [] then [] else
          [(some "datasets", .array (q.datasets.map fun s => .string (some s)))]) ++
        [(some "details", .bool q.details)] ++
        (q.limit.toList.map fun n =>
          (some "limit", .number (some (.integer n.toNat (inRange_toNat n))))) ++
        [(some "noPartialMerging", .bool q.noPartialMerging)] ++
        if l = [] then [] else [(some "continuations", .array (l.map fun s => .string (some s)))])) ∧
      Exchange (c.authenticated now).peer r sent ((c.authenticated now).peer.heard r) left.peer ∧
      left = (c.authenticated now).withPeer left.peer

theorem posted_asked (q : Query) (now : Instant) (l : List String) (c : Client τ) :
    q.Posted now l c (q.asked now l c) where
  unaddressed e hu := by
    have hnone : q.posting now l c = none := Client.posting_of_url_error hu
    rw [asked_of_none hnone, Client.ready, path, hu]
  unauthorized u e hu ha := by
    have hnone : q.posting now l c = none := Client.posting_of_authorization_error ha
    rw [asked_of_none hnone, Client.ready, path, hu]
  posted u authorization hu ha := by
    have hr : q.posting now l c = some (c.postOf u authorization (q.body l)) :=
      Client.posting_of_ok hu ha
    obtain ⟨sent, hsent⟩ :=
      Peer.exists_exchange (c.postOf u authorization (q.body l)) (c.authenticated now).peer
    rw [asked_of_some hr]
    refine ⟨_, sent, hr, Client.postOf_method .., Client.postOf_url .., ?_, hsent, rfl⟩
    rw [Client.postOf_body, q.ofOctets?_body l, q.toRawMembers_fields]

/-- What a fetch of a walk does when `stored` is the list that its cursor carries: its answer, the
client after it and the list that is stored then. -/
inductive Ask (q : Query) (now : Instant) (c : Client τ) (stored : Option (List String)) :
    Except Error (Page QueryResult) → Client τ → Option (List String) → Prop
  /-- Nothing is sent if the last page had no continuations. -/
  | rest : toSend stored = none → Ask q now c stored (.ok {}) c stored
  | fail {l : List String} {left : Client τ} {e : Error} : toSend stored = some l →
      q.Posted now l c left → q.decoded? now l c = none → Ask q now c stored (.error e) left stored
  | page {l : List String} {left : Client τ} {p : QueryPage} : toSend stored = some l →
      q.Posted now l c left → q.decoded? now l c = some p →
      Ask q now c stored (.ok (toPage p)) left (some p.continuations)

theorem fetch_eq (q : Query) (now : Instant) (cursor : Option Continuation) (c : Client τ) :
    q.fetch now cursor c = (q.fetchAt now cursor).run.run c :=
  rfl

theorem fetch_none (q : Query) (now : Instant) (c : Client τ) :
    q.fetch now none c = (toPage <$> q.fetchPage now []).run.run c :=
  rfl

theorem fetch_some {k : Continuation} {l : List String} (hk : decodeCursor k = .ok l) (q : Query)
    (now : Instant) (c : Client τ) : q.fetch now (some k) c =
      if l = [] then (.ok {}, c) else (toPage <$> q.fetchPage now l).run.run c := by
  rw [fetch_eq, fetchAt, run_bind, run_ofExcept, hk]
  rcases l with _ | ⟨s, l⟩ <;> rfl

/-- A fetch at a cursor asks for what the cursor carries. -/
theorem ask_fetch (hc : Carries cursor stored) (q : Query) (now : Instant) (c : Client τ) :
    ∃ next, q.Ask now c stored (q.fetch now cursor c).1 (q.fetch now cursor c).2 next := by
  have hsend : ∀ l, toSend stored = some l →
      q.fetch now cursor c = (toPage <$> q.fetchPage now l).run.run c →
      ∃ next, q.Ask now c stored (q.fetch now cursor c).1 (q.fetch now cursor c).2 next := by
    intro l hl hfetch
    obtain ⟨x, hx, hdecoded⟩ := q.run_fetchPage now l c
    have hposted := q.posted_asked now l c
    rw [run_map, hx] at hfetch
    generalize q.asked now l c = left at *
    generalize hd : q.decoded? now l c = page at *
    rw [hfetch]
    rcases x with e | p
    · exact ⟨_, .fail hl hposted (hd.trans hdecoded.symm)⟩
    · exact ⟨_, .page hl hposted (hd.trans hdecoded.symm)⟩
  rcases cursor with _ | k <;> rcases stored with _ | l
  · exact hsend [] rfl (q.fetch_none now c)
  · cases hc
  · cases hc
  · have hk : decodeCursor k = .ok l := Option.some.inj hc
    have hfetch := fetch_some hk q now c
    rcases l with _ | ⟨s, l⟩
    · rw [hfetch, if_pos rfl]
      exact ⟨_, .rest rfl⟩
    · rw [if_neg (by simp)] at hfetch
      exact hsend _ rfl hfetch

theorem Ask.carries {x : Except Error (Page QueryResult)} {left : Client τ}
    {next : Option (List String)} (h : q.Ask now c stored x left next) (hc : Carries cursor stored)
    (p : Page QueryResult) (hx : x = .ok p) : Carries (p.continuation.or cursor) next := by
  cases h with
  | rest =>
    obtain rfl := Except.ok.inj hx
    exact hc
  | fail => cases hx
  | page =>
    obtain rfl := Except.ok.inj hx
    exact congrArg some (decodeCursor_encodeCursor _)

theorem Ask.of_error {left : Client τ} {next : Option (List String)} {e : Error}
    (h : q.Ask now c stored (.error e) left next) : next = stored := by
  cases h
  rfl

/-! ## Calls -/

/-- A call of `next` on a walk, and the client around it. -/
structure Call (τ : Type) where
  now : Instant
  client : Client τ
  before : RecordStream QueryResult
  result : Except Error (Option QueryResult)
  after : RecordStream QueryResult
  left : Client τ

/-- The call of `next` on a walk. -/
def call (q : Query) (now : Instant) (c : Client τ) (s : RecordStream QueryResult) : Call τ where
  now := now
  client := c
  before := s
  result := (s.next (q.fetch now) c).1.1
  after := (s.next (q.fetch now) c).1.2
  left := (s.next (q.fetch now) c).2

/-- What a call does when `stored` is the list that its cursor carries: it hands out a record of the
buffer, or it fetches. -/
inductive Act (q : Query) (stored : Option (List String)) :
    Call τ → Option (List String) → Prop
  | serve {now : Instant} {c : Client τ} {s : RecordStream QueryResult} {x : QueryResult}
      {l : List QueryResult} : s.buffered = x :: l →
      Act q stored ⟨now, c, s, .ok (some x), { s with buffered := l }, c⟩ stored
  | fail {now : Instant} {c left : Client τ} {s : RecordStream QueryResult} {e : Error} :
      s.buffered = [] → q.Ask now c stored (.error e) left stored →
      Act q stored ⟨now, c, s, .error e, s, left⟩ stored
  | turn {now : Instant} {c left : Client τ} {s : RecordStream QueryResult} {p : Page QueryResult}
      {next : Option (List String)} : s.buffered = [] → q.Ask now c stored (.ok p) left next →
      Act q stored
        ⟨now, c, s, .ok p.items.head?, { s.turn p with buffered := p.items.tail }, left⟩ next

theorem act_call {s : RecordStream QueryResult} (hs : Carries s.continuation stored) (q : Query)
    (now : Instant) (c : Client τ) :
    ∃ next, q.Act stored (q.call now c s) next ∧
      Carries (q.call now c s).after.continuation next := by
  rcases hb : s.buffered with _ | ⟨x, l⟩
  · obtain ⟨next, hask⟩ := ask_fetch hs q now c
    rcases hf : q.fetch now s.continuation c with ⟨e | p, left⟩
    · rw [hf] at hask
      have hcall : q.call now c s = ⟨now, c, s, .error e, s, left⟩ := by
        rw [call, RecordStream.next_of_error hb hf]
      have hsame := hask.of_error
      rw [hsame] at hask
      rw [hcall]
      exact ⟨stored, .fail hb hask, hs⟩
    · rw [hf] at hask
      have hcall : q.call now c s = ⟨now, c, s, .ok p.items.head?,
          { s.turn p with buffered := p.items.tail }, left⟩ := by
        rw [call, RecordStream.next_of_page hb hf]
      rw [hcall]
      exact ⟨next, .turn hb hask, hask.carries hs p rfl⟩
  · have hcall : q.call now c s = ⟨now, c, s, .ok (some x), { s with buffered := l }, c⟩ := by
      rw [call, RecordStream.next_of_cons _ hb]
    rw [hcall]
    exact ⟨stored, .serve hb, hs⟩

/-! ## Walks -/

/-- When a call is made, and what is done with the client before it. -/
structure Visit (τ : Type) where
  now : Instant
  meanwhile : Client τ → Client τ := id

/-- Calls of `next` on a walk, one after another. -/
def calls (q : Query) : List (Visit τ) → RecordStream QueryResult → Client τ → List (Call τ)
  | [], _, _ => []
  | v :: l, s, c =>
    q.call v.now (v.meanwhile c) s ::
      q.calls l (q.call v.now (v.meanwhile c) s).after (q.call v.now (v.meanwhile c) s).left

theorem length_calls (q : Query) (l : List (Visit τ)) (s : RecordStream QueryResult)
    (c : Client τ) : (q.calls l s c).length = l.length := by
  induction l generalizing s c with
  | nil => rfl
  | cons v l ih => rw [calls, List.length_cons, ih, List.length_cons]

/-- Calls follow the continuations: from the walk `s` and the list `stored` each call does what the
list then stored asks for. They leave a walk and a list. -/
inductive Follows (q : Query) : Option (List String) → RecordStream QueryResult → List (Call τ) →
    Option (List String) → RecordStream QueryResult → Prop
  | nil {stored : Option (List String)} {s : RecordStream QueryResult} :
      Follows q stored s [] stored s
  | cons {stored next last : Option (List String)} {call : Call τ} {l : List (Call τ)}
      {s : RecordStream QueryResult} : q.Act stored call next →
      Follows q next call.after l last s → Follows q stored call.before (call :: l) last s

theorem follows_calls (q : Query) (l : List (Visit τ)) (s : RecordStream QueryResult) (c : Client τ)
    (hs : Carries s.continuation stored) :
    ∃ last s' c', q.Follows stored s (q.calls l s c) last s' ∧ Carries s'.continuation last ∧
      ∀ m, q.calls (l ++ m) s c = q.calls l s c ++ q.calls m s' c' := by
  induction l generalizing s c stored with
  | nil => exact ⟨stored, s, c, .nil, hs, fun _ => rfl⟩
  | cons v l ih =>
    obtain ⟨next, hact, hnext⟩ := act_call hs q v.now (v.meanwhile c)
    obtain ⟨last, s', c', hfollows, hlast, happend⟩ :=
      ih _ (q.call v.now (v.meanwhile c) s).left hnext
    have h : q.Follows stored (q.call v.now (v.meanwhile c) s).before _ last s' :=
      .cons hact hfollows
    refine ⟨last, s', c', h, hlast, fun m => ?_⟩
    rw [List.cons_append, calls, happend]
    rfl

/-- Once nothing is left to send, a call hands out what is in the buffer and sends nothing. -/
theorem call_of_exhausted {s : RecordStream QueryResult} (hs : Carries s.continuation (some []))
    (q : Query) (now : Instant) (c : Client τ) :
    (q.call now c s).left = c ∧ (q.call now c s).after.continuation = s.continuation ∧
      (q.call now c s).result = .ok s.buffered.head? ∧
      (q.call now c s).after.buffered = s.buffered.tail := by
  obtain ⟨next, hact, -⟩ := act_call hs q now c
  generalize hcall : q.call now c s = d at *
  have hbefore : d.before = s ∧ d.client = c := by rw [← hcall]; exact ⟨rfl, rfl⟩
  obtain ⟨rfl, rfl⟩ := hbefore
  cases hact with
  | serve hb => exact ⟨rfl, rfl, by rw [hb]; rfl, by rw [hb]; rfl⟩
  | fail _ hask => cases hask with | fail hsend => cases hsend
  | turn hb hask =>
    cases hask with
    | rest => exact ⟨rfl, rfl, by rw [hb], by rw [hb]⟩
    | page hsend => cases hsend

theorem calls_of_exhausted (q : Query) (l : List (Visit τ)) (s : RecordStream QueryResult)
    (c : Client τ) (hs : Carries s.continuation (some [])) (j : Nat) (d : Call τ)
    (hd : (q.calls l s c)[j]? = some d) :
    d.left = d.client ∧ d.after.continuation = s.continuation ∧ d.result = .ok s.buffered[j]? := by
  induction l generalizing s c j with
  | nil => cases hd
  | cons v l ih =>
    obtain ⟨hleft, hcursor, hresult, hbuffered⟩ := call_of_exhausted hs q v.now (v.meanwhile c)
    rcases j with _ | j
    · obtain rfl := Option.some.inj hd
      exact ⟨hleft, hcursor, by rw [hresult, List.head?_eq_getElem?]⟩
    · have hafter : Carries (q.call v.now (v.meanwhile c) s).after.continuation (some []) := by
        rw [hcursor]
        exact hs
      obtain ⟨hl, hc, hr⟩ := ih _ _ hafter j hd
      refine ⟨hl, hc.trans hcursor, ?_⟩
      rw [hr, hbuffered, List.getElem?_tail]

end Query

namespace Client

variable {τ : Type} [TokenSource τ]

theorem run_queryStream {q : Query} (hq : ∃ id ∈ q.startingEntities, isBlank id = false)
    (now : Instant) (cursor : Option Continuation) (c : Client τ) :
    (queryStream now q cursor).run.run c =
      ((q.fetch now cursor c).1.map (RecordStream.turn { continuation := cursor }),
        (q.fetch now cursor c).2) := by
  have hvalid : q.validate = .ok () := by
    obtain ⟨id, hid, hblank⟩ := hq
    rw [Query.validate, if_neg]
    intro hall
    rw [List.all_eq_true.mp hall id hid] at hblank
    cases hblank
  rw [queryStream, run_bind, run_ofExcept, hvalid]
  exact RecordStream.start_eq (q.fetch now) cursor c

/-- A walk over the results of a query asks for each page with the continuations of the last page it
has read, or with those that its first cursor carries, and after a failure with the same ones again.
Once they are none, it sends nothing more: the calls hand out what is left in the buffer and then
tell the end, and the cursor stays. -/
theorem queryStream_follows {q : Query} (hq : ∃ id ∈ q.startingEntities, isBlank id = false)
    {cursor : Option Continuation} {stored : Option (List String)}
    (hc : Query.Carries cursor stored) (now : Instant) (c : Client τ) :
    ∃ x left first, q.Ask now c stored x left first ∧
      (queryStream now q cursor).run.run c =
        (x.map (RecordStream.turn { continuation := cursor }), left) ∧
      ∀ p, x = .ok p → ∀ visits : List (Query.Visit τ),
        let s := RecordStream.turn { continuation := cursor } p
        ∃ last s', q.Follows first s (q.calls visits s left) last s' ∧
          (last = some [] → ∀ later j d,
            (q.calls (visits ++ later) s left)[visits.length + j]? = some d →
            d.left = d.client ∧ d.after.continuation = s'.continuation ∧
              d.result = .ok s'.buffered[j]?) := by
  obtain ⟨first, hask⟩ := Query.ask_fetch hc q now c
  refine ⟨_, _, first, hask, run_queryStream hq now cursor c, fun p hp visits => ?_⟩
  have hcarries := hask.carries hc p hp
  obtain ⟨last, s', c', hfollows, hlast, happend⟩ :=
    q.follows_calls visits (RecordStream.turn { continuation := cursor } p)
      (q.fetch now cursor c).2 hcarries
  refine ⟨last, s', hfollows, fun hnone later j d hd => ?_⟩
  rw [hnone] at hlast
  refine Query.calls_of_exhausted q later s' c' hlast j d ?_
  rw [happend, List.getElem?_append_right (by rw [Query.length_calls]; omega),
    Query.length_calls, Nat.add_sub_cancel_left] at hd
  exact hd

/-- A query for all that is known of one entity. -/
def aboutAlice : Query where
  startingEntities := ["http://data.example.com/people/alice"]

/-- How a hub answers a page. -/
def pageTurn (ids continuations : List String) : Http.Turn :=
  let results := ids.map fun id => (QueryResult.mk "subject" "predicate" { id }).toValue
  .reply ⟨⟨200⟩, some (Utf8.encode (Json.Value.array
    [({} : Context).toValue, .array results, Query.stringsToValue continuations]).text)⟩

/-- A client with a token, of a hub behind a secure connection that has moved, and whose traversal
ends with the page that it answers. -/
def visitor : Client StaticSource :=
  let host : Url.Host := .ipv6 [0, 0, 0, 0, 0, 0, 0, 1]
  { url := { scheme := "https", host := some host, path := .segments [""] }
    agent := {}
    tokens := { source := {
      source := .own ⟨{ accessToken := "t" }⟩
      peer := { turns := [
        .reply ⟨⟨307⟩, some []⟩
          (some { scheme := "https", host := some host, path := .segments ["moved"] }),
        pageTurn ["a"] []] } } } }

/-- A walk that takes up a stored cursor posts the continuations that the cursor carries, twice as
the first reply redirects the request, and has reached its end with the page. -/
theorem queryStream_follows_stored :
    let cursor := some (Query.encodeCursor ["x", "y"])
    let run := (queryStream .epoch aboutAlice cursor).run.run visitor
    (∃ id ∈ aboutAlice.startingEntities, isBlank id = false) ∧
    Query.Carries cursor (some ["x", "y"]) ∧
    (∃ x first, aboutAlice.Ask .epoch visitor (some ["x", "y"]) x run.2 first ∧
      run.1 = x.map (RecordStream.turn { continuation := cursor })) ∧
    aboutAlice.Posted .epoch ["x", "y"] visitor run.2 ∧
    run.2.peer.requests.map (fun r => (r.method, r.url.text)) =
      [(.post, "https://[::1]/query"), (.post, "https://[::1]/moved")] ∧
    run.1.toOption.map (fun s => (s.buffered.map (·.entity.id), s.continuation)) =
      some (["a"], some (Query.encodeCursor [])) := by
  intro cursor run
  have hq : ∃ id ∈ aboutAlice.startingEntities, isBlank id = false := by decide
  have hc : Query.Carries cursor (some ["x", "y"]) :=
    congrArg some (Query.decodeCursor_encodeCursor _)
  obtain ⟨x, left, first, hask, hrun, -⟩ := queryStream_follows hq hc .epoch visitor
  have hstream : run.1 = x.map (RecordStream.turn { continuation := cursor }) :=
    congrArg Prod.fst hrun
  have hleft : run.2 = left := congrArg Prod.snd hrun
  have hposted : aboutAlice.Posted .epoch ["x", "y"] visitor left := by
    cases hask with
    | rest h => cases h
    | fail h hposted | page h hposted =>
      cases h
      exact hposted
  rw [← hleft] at hask hposted
  exact ⟨hq, hc, ⟨x, first, hask, hstream⟩, hposted, by decide +kernel, by decide +kernel⟩

end Client

end EntityHub
