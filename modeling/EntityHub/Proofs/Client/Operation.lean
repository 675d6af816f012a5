import EntityHub.Client.Dataset
import EntityHub.Client.Security
import EntityHub.Proofs.Client.Plan
import EntityHub.Proofs.Query.Traversal
/-!
# Operations on the hub

Everything that a client can be asked for, as one type (`Client.Operation`). What an operation does
is laid down by a plan before a token is seen to (`Client.Operation.plan`), and every operation
keeps to its plan (`Client.perform_eq_carry`). A plan that sends something aims below the address of
the client, so `Client.perform_gated` says of all operations at once how a token comes before a
request.
-/

namespace EntityHub

open Http (Exchange)

namespace Client

variable {τ α β : Type}

/-- What a client can be asked for, by what it gives. -/
inductive Operation : Type → Type
  | page (dataset : String) (query : DatasetQuery) (cursor : Option Continuation) (expand : Bool) :
      Operation EntityPage
  | openFeed (dataset : String) (query : DatasetQuery) (cursor : Option Continuation)
      (expand : Bool) : Operation (DatasetFeed × RecordStream Entity × Expansion)
  | nextEntity (feed : DatasetFeed) (s : RecordStream Entity) (e : Expansion) :
      Operation (Option Entity)
  | query (q : Query) : Operation QueryPage
  | openQuery (q : Query) (cursor : Option Continuation) : Operation (RecordStream QueryResult)
  | nextResult (q : Query) (s : RecordStream QueryResult) : Operation (Option QueryResult)
  | clients : Operation (Dict ClientInfo)
  | addClient (id : String) (key : Option PublicKey) : Operation Unit
  | deleteClient (id : String) : Operation Unit
  | accessRules (id : String) : Operation (List AccessRule)
  | setAccessRules (id : String) (rules : List AccessRule) : Operation Unit

/-- The result of an operation, and the client after it. -/
def Operation.perform [TokenSource τ] (now : Instant) (c : Client τ) :
    Operation α → Except Error α × Client τ
  | .page dataset q cursor expand => (datasetPage now dataset q cursor expand).run.run c
  | .openFeed dataset q cursor expand => (datasetStream now dataset q cursor expand).run.run c
  | .nextEntity feed s e =>
    ((s.next (feed.fetch now) (c, e)).1.1, (s.next (feed.fetch now) (c, e)).2.1)
  | .query q => (Client.query now q).run.run c
  | .openQuery q cursor => (queryStream now q cursor).run.run c
  | .nextResult q s => ((s.next (q.fetch now) c).1.1, (s.next (q.fetch now) c).2)
  | .clients => (Client.clients now).run.run c
  | .addClient id key => (Client.addClient now id key).run.run c
  | .deleteClient id => (Client.deleteClient now id).run.run c
  | .accessRules id => (Client.accessRules now id).run.run c
  | .setAccessRules id rules => (Client.setAccessRules now id rules).run.run c

/-! ## Plans of operations -/

/-- The plan of a walk for its next record. -/
def nextPlan (s : RecordStream α) (fetch : Option Continuation → Plan (Page α)) :
    Plan (Option α) :=
  match s.buffered with
  | x :: _ => .settled (.ok (some x))
  | [] => (fetch s.continuation).andThen fun p => .ok p.items.head?

/-- How a body in JSON is read. -/
def readJson (purpose : Purpose) (d : Json.Decoder α) (l : List UInt8) : Except Error α :=
  match d.ofOctets? l with
  | some a => .ok a
  | none => .error (.ofFault (.responseUnreadable purpose) .json)

/-- The plan for what stands at a path. -/
def getPlan (c : Client τ) (purpose : Purpose) (path : String) (pairs : List (String × String)) :
    Plan (List UInt8) :=
  c.toward purpose path { method := .get, pairs := some pairs }

/-- The plan for a post of a value. -/
def postPlan (c : Client τ) (purpose : Purpose) (path : String) (v : Json.Value) :
    Plan (List UInt8) :=
  c.toward purpose path { method := .post, body := Utf8.encode v.text }

/-- The plan for a page of a feed, as it is. -/
def feedPlan (c : Client τ) (f : DatasetFeed) (cursor : Option Continuation) : Plan EntityPage :=
  (c.getPlan f.query.purpose (f.query.path f.dataset) (f.query.pairs cursor)).andThen
    EntityPage.ofOctets?

/-- The plan for the page of a query that follows continuations. -/
def queryPlan (c : Client τ) (q : Query) (continuations : List String) : Plan QueryPage :=
  (c.postPlan .runQuery Query.path (q.body continuations)).andThen QueryPage.ofOctets?

/-- The plan for the page of a query at a cursor. -/
def resultsPlan (c : Client τ) (q : Query) : Option Continuation → Plan (Page QueryResult)
  | none => (c.queryPlan q []).andThen fun p => .ok (Query.toPage p)
  | some k => .checked (Query.decodeCursor k) fun
    | [] => .settled (.ok {})
    | continuations => (c.queryPlan q continuations).andThen fun p => .ok (Query.toPage p)

/-- What identifiers are expanded by at first. -/
def startExpansion (expand : Bool) : Expansion := if expand then some {} else none

/-- The plan of an operation. -/
def Operation.plan (c : Client τ) : Operation α → Plan α
  | .page dataset q cursor expand =>
    .checked (DatasetFeed.ofName? dataset q) fun feed =>
      (c.feedPlan feed cursor).andThen fun p =>
        .ok (((startExpansion expand).turn p).apply p)
  | .openFeed dataset q cursor expand =>
    .checked (DatasetFeed.ofName? dataset q) fun feed =>
      (c.feedPlan feed cursor).andThen fun p =>
        let e := (startExpansion expand).turn p
        .ok (feed, RecordStream.turn { continuation := cursor } (e.apply p).toPage, e)
  | .nextEntity feed s e => nextPlan s fun cursor =>
      (c.feedPlan feed cursor).andThen fun p => .ok ((e.turn p).apply p).toPage
  | .query q => .checked q.validate fun _ => c.queryPlan q []
  | .openQuery q cursor => .checked q.validate fun _ =>
      (c.resultsPlan q cursor).andThen fun p =>
        .ok (RecordStream.turn { continuation := cursor } p)
  | .nextResult q s => nextPlan s (c.resultsPlan q)
  | .clients => (c.getPlan .getClients clientsPath []).andThen
      (readJson .getClients ClientInfo.dictDecoder)
  | .addClient id key => .checked (checkId id) fun _ =>
      let info : ClientInfo := { clientId := id, publicKey := key.map PublicKey.pem }
      (c.postPlan .addClient clientsPath info.toValue).andThen fun _ => .ok ()
  | .deleteClient id => .checked (checkId id) fun _ =>
      let info : ClientInfo := { clientId := id, deleted := true }
      (c.postPlan .deleteClient clientsPath info.toValue).andThen fun _ => .ok ()
  | .accessRules id => .checked (checkId id) fun _ =>
      (c.getPlan .getAccessRules (rulesPath id) []).andThen
        (readJson .getAccessRules AccessRule.listDecoder)
  | .setAccessRules id rules => .checked (checkId id) fun _ =>
      (c.postPlan .setAccessRules (rulesPath id) (AccessRule.listToValue rules)).andThen
        fun _ => .ok ()

/-! ## Plans are kept -/

theorem run_withExpansion (expand : Bool) (a : ExceptT Error (StateM (Client τ × Expansion)) α)
    (c : Client τ) : (withExpansion expand a).run.run c =
      let x := a.run.run (c, startExpansion expand)
      (x.1.map fun y => (y, x.2.2), x.2.1) := by
  have hget : (get : ClientAction τ (Client τ)).run.run c = (.ok c, c) := rfl
  have hstart : (if expand then some {} else none : Expansion) = startExpansion expand := rfl
  rw [withExpansion, hstart]
  simp only
  rw [run_bind, hget]
  simp only
  rcases a.run.run (c, startExpansion expand) with ⟨e | y, left, last⟩ <;> rfl

section Kept

variable [TokenSource τ]

theorem run_getDecoded (now : Instant) (purpose : Purpose) (path : String) (d : Json.Decoder α)
    (c : Client τ) : (getDecoded now purpose path d).run.run c =
      ((c.getPlan purpose path []).andThen (readJson purpose d)).carry now c := by
  rw [getDecoded, run_bind, run_getBody, Plan.carry_andThen, getPlan]
  rcases Plan.carry now c _ with ⟨e | l, left⟩
  · rfl
  · simp only [readJson, Except.bind]
    cases d.ofOctets? l <;> rfl

theorem run_discard_postValue (now : Instant) (purpose : Purpose) (path : String) (v : Json.Value)
    (c : Client τ) : (discard (postValue now purpose path v)).run.run c =
      ((c.postPlan purpose path v).andThen fun _ => .ok ()).carry now c := by
  have hdiscard : (discard (postValue now purpose path v) : ClientAction τ Unit) =
      (fun _ => ()) <$> postValue now purpose path v := rfl
  rw [hdiscard, run_map, run_postValue_eq_carry, Plan.carry_andThen, postPlan]
  rcases Plan.carry now c _ with ⟨e | l, left⟩ <;> rfl

theorem run_fetchPlain (f : DatasetFeed) (now : Instant) (cursor : Option Continuation)
    (c : Client τ) : (f.fetchPlain now cursor).run.run c = (c.feedPlan f cursor).carry now c :=
  run_bind_ofExcept (run_getBody now _ _ _ c) EntityPage.ofOctets?

/-- A feed expands the page that it gets, and goes on with the context of that page. -/
theorem run_fetchPage_feed (f : DatasetFeed) (now : Instant) (cursor : Option Continuation)
    (c : Client τ) (e : Expansion) : (f.fetchPage now cursor).run.run (c, e) =
      let x := (c.feedPlan f cursor).carry now c
      (x.1.map fun p => (e.turn p).apply p, x.2, x.1.toOption.elim e e.turn) := by
  rw [← run_fetchPlain]
  have hget : (get : ExceptT Error (StateM (Client τ × Expansion)) _).run.run (c, e) =
      (.ok (c, e), (c, e)) := rfl
  rw [DatasetFeed.fetchPage, run_bind, hget]
  simp only
  rcases (f.fetchPlain now cursor).run.run c with ⟨x | p, left⟩ <;> rfl

theorem fetch_feed (f : DatasetFeed) (now : Instant) (cursor : Option Continuation) (c : Client τ)
    (e : Expansion) : f.fetch now cursor (c, e) =
      let x := (c.feedPlan f cursor).carry now c
      (x.1.map fun p => ((e.turn p).apply p).toPage, x.2, x.1.toOption.elim e e.turn) := by
  have hmap : ∀ (a : ExceptT Error (StateM (Client τ × Expansion)) EntityPage) state,
      (do return (← a.run).map EntityPage.toPage : StateM (Client τ × Expansion) _) state =
        ((a.run.run state).1.map EntityPage.toPage, (a.run.run state).2) :=
    fun _ _ => rfl
  rw [DatasetFeed.fetch, hmap, run_fetchPage_feed]
  rcases (c.feedPlan f cursor).carry now c with ⟨x | p, left⟩ <;> rfl

theorem run_fetchPage_query (q : Query) (now : Instant) (continuations : List String)
    (c : Client τ) :
    (q.fetchPage now continuations).run.run c = (c.queryPlan q continuations).carry now c :=
  run_bind_ofExcept (run_postValue_eq_carry now _ _ _ c) QueryPage.ofOctets?

theorem fetch_query (q : Query) (now : Instant) (cursor : Option Continuation) (c : Client τ) :
    q.fetch now cursor c = (c.resultsPlan q cursor).carry now c := by
  have hpage : ∀ l, (Query.toPage <$> q.fetchPage now l).run.run c =
      ((c.queryPlan q l).andThen fun p => .ok (Query.toPage p)).carry now c := by
    intro l
    rw [run_map, run_fetchPage_query, Plan.carry_andThen]
    rcases (c.queryPlan q l).carry now c with ⟨x | p, left⟩ <;> rfl
  rcases cursor with _ | k
  · exact hpage []
  · refine run_checked (Query.decodeCursor k) fun l => ?_
    rcases l with _ | ⟨s, l⟩
    · rfl
    · exact hpage (s :: l)

/-- A walk keeps to its plan if its fetches do. -/
theorem next_nextPlan {σ : Type} (fetch : Fetch σ α) (p : Option Continuation → Plan (Page α))
    (s : RecordStream α) (state : σ) (view : σ → Client τ) {now : Instant} {c : Client τ}
    (hstate : view state = c)
    (h : ((fetch s.continuation state).1, view (fetch s.continuation state).2) =
      (p s.continuation).carry now c) :
    ((s.next fetch state).1.1, view (s.next fetch state).2) = (nextPlan s p).carry now c := by
  rw [nextPlan]
  rcases hb : s.buffered with _ | ⟨x, l⟩
  · simp only
    rw [Plan.carry_andThen, ← h]
    rcases hf : fetch s.continuation state with ⟨e | page, left⟩
    · rw [RecordStream.next_of_error hb hf]
      rfl
    · rw [RecordStream.next_of_page hb hf]
      rfl
  · rw [RecordStream.next_of_cons fetch hb, hstate]
    rfl

/-- Every operation keeps to its plan. -/
theorem perform_eq_carry (now : Instant) (c : Client τ) (op : Operation α) :
    op.perform now c = (op.plan c).carry now c := by
  cases op with
  | page dataset q cursor expand =>
    refine run_checked (DatasetFeed.ofName? dataset q) fun feed => ?_
    rw [Plan.carry_andThen, run_bind, run_withExpansion, run_fetchPage_feed]
    rcases (c.feedPlan feed cursor).carry now c with ⟨x | p, left⟩ <;> rfl
  | openFeed dataset q cursor expand =>
    refine run_checked (DatasetFeed.ofName? dataset q) fun feed => ?_
    have hrun : (ExceptT.mk (RecordStream.start (feed.fetch now) cursor)).run.run
        (c, startExpansion expand) =
        RecordStream.start (feed.fetch now) cursor (c, startExpansion expand) := rfl
    rw [Plan.carry_andThen, run_bind, run_withExpansion, hrun, RecordStream.start_eq, fetch_feed]
    rcases (c.feedPlan feed cursor).carry now c with ⟨x | p, left⟩ <;> rfl
  | nextEntity feed s e =>
    let p (cursor : Option Continuation) : Plan (Page Entity) :=
      (c.feedPlan feed cursor).andThen fun p => .ok ((e.turn p).apply p).toPage
    have hfetch : ((feed.fetch now s.continuation (c, e)).1,
        (feed.fetch now s.continuation (c, e)).2.1) = (p s.continuation).carry now c := by
      rw [fetch_feed, Plan.carry_andThen]
      rcases (c.feedPlan feed s.continuation).carry now c with ⟨x | p, left⟩ <;> rfl
    exact next_nextPlan (feed.fetch now) p s (c, e) Prod.fst rfl hfetch
  | query q => exact run_checked q.validate fun _ => run_fetchPage_query q now [] c
  | openQuery q cursor =>
    refine run_checked q.validate fun _ => ?_
    have hrun : (ExceptT.mk (RecordStream.start (q.fetch now) cursor)).run.run c =
        RecordStream.start (q.fetch now) cursor c := rfl
    rw [hrun, RecordStream.start_eq, fetch_query, Plan.carry_andThen]
    rcases (c.resultsPlan q cursor).carry now c with ⟨x | p, left⟩ <;> rfl
  | nextResult q s =>
    have hfetch := fetch_query q now s.continuation c
    exact next_nextPlan (q.fetch now) (c.resultsPlan q) s c id rfl hfetch
  | clients => exact run_getDecoded now .getClients clientsPath ClientInfo.dictDecoder c
  | addClient id key =>
    exact run_checked (checkId id) fun _ => run_discard_postValue now .addClient clientsPath _ c
  | deleteClient id =>
    exact run_checked (checkId id) fun _ => run_discard_postValue now .deleteClient clientsPath _ c
  | accessRules id =>
    exact run_checked (checkId id) fun _ =>
      run_getDecoded now .getAccessRules (rulesPath id) AccessRule.listDecoder c
  | setAccessRules id rules =>
    exact run_checked (checkId id) fun _ =>
      run_discard_postValue now .setAccessRules (rulesPath id) _ c

end Kept

/-! ## Requests of operations -/

/-- The path below the address of the hub to which an operation sends. -/
def Operation.path : Operation α → String
  | .page dataset q _ _ | .openFeed dataset q _ _ => q.path dataset
  | .nextEntity feed _ _ => feed.query.path feed.dataset
  | .query _ | .openQuery _ _ | .nextResult _ _ => Query.path
  | .clients | .addClient _ _ | .deleteClient _ => clientsPath
  | .accessRules id | .setAccessRules id _ => rulesPath id

/-- The pairs that an operation adds to the query, if it gets something. -/
def Operation.pairs? : Operation α → Option (List (String × String))
  | .page _ q cursor _ | .openFeed _ q cursor _ => some (q.pairs cursor)
  | .nextEntity feed s _ => some (feed.query.pairs s.continuation)
  | .clients | .accessRules _ => some []
  | .query _ | .openQuery _ _ | .nextResult _ _ | .addClient _ _ | .deleteClient _
  | .setAccessRules _ _ => none

/-- The plans come to a result that has nothing to do with the client, or all of them send the same to
the path. -/
def Routed (path : String) (pairs? : Option (List (String × String))) (p : Client τ → Plan α) :
    Prop :=
  (∃ x, ∀ c, p c = .settled x) ∨
    ∃ (purpose : Purpose) (draft : Http.Draft) (read : List UInt8 → Except Error α),
      draft.pairs = pairs? ∧ ∀ c, p c = (c.toward purpose path draft).andThen read

section Routed

variable {path : String} {pairs? : Option (List (String × String))}

theorem Plan.andThen_andThen {γ : Type} (p : Plan α) (f : α → Except Error β)
    (g : β → Except Error γ) :
    (p.andThen f).andThen g = p.andThen fun x => (f x).bind g := by
  have hbind : ∀ x : Except Error α, (x.bind f).bind g = x.bind fun y => (f y).bind g := by
    intro x
    cases x <;> rfl
  cases p with
  | settled x => exact congrArg Plan.settled (hbind x)
  | send e => simp only [andThen, Errand.andThen, hbind]

theorem Routed.andThen {p : Client τ → Plan α} (h : Routed path pairs? p) (f : α → Except Error β) :
    Routed path pairs? fun c => (p c).andThen f := by
  rcases h with ⟨x, hx⟩ | ⟨purpose, draft, read, hdraft, hp⟩
  · refine .inl ⟨x.bind f, fun c => ?_⟩
    simp only [hx, Plan.andThen]
  · refine .inr ⟨purpose, draft, fun l => (read l).bind f, hdraft, fun c => ?_⟩
    simp only [hp, Plan.andThen_andThen]

theorem routed_checked {x : Except Error β} {p : β → Client τ → Plan α}
    (h : ∀ y, x = .ok y → Routed path pairs? (p y)) :
    Routed path pairs? fun c => .checked x fun y => p y c := by
  cases x with
  | error e => exact .inl ⟨.error e, fun _ => rfl⟩
  | ok y => exact h y rfl

theorem routed_toward (purpose : Purpose) (path : String) (draft : Http.Draft) :
    Routed path draft.pairs fun c : Client τ => c.toward purpose path draft := by
  refine .inr ⟨purpose, draft, .ok, rfl, fun c => ?_⟩
  simp only [toward]
  cases c.requestUrl path <;> rfl

theorem routed_getPlan (purpose : Purpose) (path : String) (pairs : List (String × String)) :
    Routed path (some pairs) fun c : Client τ => c.getPlan purpose path pairs := by
  simp only [getPlan]
  exact routed_toward purpose path { method := .get, pairs := some pairs }

theorem routed_postPlan (purpose : Purpose) (path : String) (v : Json.Value) :
    Routed path none fun c : Client τ => c.postPlan purpose path v := by
  simp only [postPlan]
  exact routed_toward purpose path { method := .post, body := Utf8.encode v.text }

theorem routed_feedPlan (f : DatasetFeed) (cursor : Option Continuation) :
    Routed (f.query.path f.dataset) (some (f.query.pairs cursor))
      fun c : Client τ => c.feedPlan f cursor := by
  simp only [feedPlan]
  exact (routed_getPlan f.query.purpose _ _).andThen _

theorem routed_queryPlan (q : Query) (l : List String) :
    Routed Query.path none fun c : Client τ => c.queryPlan q l := by
  simp only [queryPlan]
  exact (routed_postPlan .runQuery _ _).andThen _

theorem routed_resultsPlan (q : Query) (cursor : Option Continuation) :
    Routed Query.path none fun c : Client τ => c.resultsPlan q cursor := by
  rcases cursor with _ | k
  · simp only [resultsPlan]
    exact (routed_queryPlan q []).andThen _
  · simp only [resultsPlan]
    refine routed_checked fun l _ => ?_
    rcases l with _ | ⟨s, l⟩
    · exact .inl ⟨.ok {}, fun _ => rfl⟩
    · exact (routed_queryPlan q (s :: l)).andThen _

theorem routed_nextPlan {s : RecordStream α} {p : Client τ → Option Continuation → Plan (Page α)}
    (h : Routed path pairs? fun c => p c s.continuation) :
    Routed path pairs? fun c => nextPlan s (p c) := by
  simp only [nextPlan]
  rcases s.buffered with _ | ⟨x, l⟩
  · exact h.andThen _
  · exact .inl ⟨.ok (some x), fun _ => rfl⟩

/-- Every operation is refused or settled for all clients alike, or sends to its path. -/
theorem routed_plan (op : Operation α) :
    Routed op.path op.pairs? fun c : Client τ => op.plan c := by
  have hfeed : ∀ dataset q feed, DatasetFeed.ofName? dataset q = .ok feed → feed = ⟨dataset, q⟩ := by
    intro dataset q feed h
    rw [DatasetFeed.ofName?] at h
    split at h
    · cases h
    · exact (Except.ok.inj h).symm
  cases op <;> simp only [Operation.plan, Operation.path, Operation.pairs?]
  case page dataset q cursor expand | openFeed dataset q cursor expand =>
    refine routed_checked fun feed h => ?_
    obtain rfl := hfeed dataset q feed h
    exact (routed_feedPlan ⟨dataset, q⟩ cursor).andThen _
  case nextEntity feed s e =>
    exact routed_nextPlan ((routed_feedPlan feed s.continuation).andThen _)
  case query q => exact routed_checked fun _ _ => routed_queryPlan q []
  case openQuery q cursor => exact routed_checked fun _ _ => (routed_resultsPlan q cursor).andThen _
  case nextResult q s => exact routed_nextPlan (routed_resultsPlan q s.continuation)
  case clients => exact (routed_getPlan .getClients _ _).andThen _
  case addClient => exact routed_checked fun _ _ => (routed_postPlan .addClient _ _).andThen _
  case deleteClient => exact routed_checked fun _ _ => (routed_postPlan .deleteClient _ _).andThen _
  case accessRules =>
    exact routed_checked fun _ _ => (routed_getPlan .getAccessRules _ _).andThen _
  case setAccessRules =>
    exact routed_checked fun _ _ => (routed_postPlan .setAccessRules _ _).andThen _

/-- A plan that sends something has the URL of the path, and adds the pairs. -/
theorem Routed.of_send {p : Client τ → Plan α} (h : Routed path pairs? p) {c : Client τ}
    {g : Errand α} (hsend : p c = .send g) :
    c.requestUrl path = .ok g.url ∧ g.draft.pairs = pairs? := by
  rcases h with ⟨x, hx⟩ | ⟨purpose, draft, read, hdraft, hp⟩
  · rw [hx] at hsend
    cases hsend
  · rw [hp, toward] at hsend
    rcases hu : c.requestUrl path with e | u <;> rw [hu] at hsend <;> cases hsend
    exact ⟨rfl, hdraft⟩

end Routed

/-! ## The gate -/

/-- Where a plan sends something, it is to a path below the address of the client. -/
inductive Plan.Aimed (c : Client τ) : Plan α → Prop
  | settled (x : Except Error α) : Aimed c (.settled x)
  | send {g : Errand α} {path : String} (hpath : path.toList.head? = some '/')
      (hurl : c.requestUrl path = .ok g.url) : Aimed c (.send g)

theorem aimed_plan (c : Client τ) (op : Operation α) : (op.plan c).Aimed c := by
  rcases hplan : op.plan c with x | g
  · exact .settled x
  · have hpath : op.path.toList.head? = some '/' := by
      cases op <;> simp [Operation.path, DatasetQuery.path, Query.path, clientsPath, rulesPath]
    exact .send hpath ((routed_plan op).of_send hplan).1

variable [TokenSource τ]

/-- An operation of a client whose address has no name and password either comes to a result of its
own accord, and then neither a token is seen to nor anything sent. Or it is an errand, and then a
token is seen to first and the errand delivered with what that has come to. The errand is gated,
also if others have done something to the client in the meantime. -/
theorem perform_gated {address : String} {c : Client τ}
    (haddress : ClientOptions.serverUrl? address = .ok c.url) (hname : c.url.username = "")
    (hpassword : c.url.password = none) (now : Instant) (op : Operation α) :
    (∃ x, op.plan c = .settled x ∧ op.perform now c = (x, c)) ∨
      ∃ g, op.plan c = .send g ∧
        op.perform now c = g.deliver (c.tokens.ensure now).1 (c.authenticated now) ∧
        ∀ later : Client τ, g.Gated later := by
  have hperform := perform_eq_carry now c op
  have haimed := aimed_plan c op
  rcases hplan : op.plan c with x | g
  · rw [hplan] at hperform
    exact .inl ⟨x, rfl, hperform⟩
  · rw [hplan] at hperform haimed
    obtain - | ⟨hpath, hurl⟩ := haimed
    obtain ⟨hnone, hnone'⟩ := credentials_of_requestUrl haddress hname hpassword hpath hurl
    exact .inr ⟨g, rfl, hperform, fun later => Errand.gated hnone hnone' later⟩

/-- A client with a token, of a hub on the same machine. -/
def loopback : Client StaticSource where
  url := { scheme := "http", host := some (.ipv6 [0, 0, 0, 0, 0, 0, 0, 1]), path := .segments [""] }
  agent := {}
  tokens := { source := { source := .own ⟨{ accessToken := "t" }⟩ } }

theorem serverUrl?_loopback : ClientOptions.serverUrl? "http://[::1]/" = .ok loopback.url :=
  eq_ok_of_toOption (by decide +kernel)

theorem ofText?_loopback : Url.ofText? loopback.url.text = .ok loopback.url :=
  eq_ok_of_toOption (by decide +kernel)

/-- Whether a plan sends something. -/
def Plan.sends : Plan α → Bool
  | .settled _ => false
  | .send _ => true

/-- The registered clients are asked for once, with the token. -/
theorem perform_gated_loopback :
    ClientOptions.serverUrl? "http://[::1]/" = .ok loopback.url ∧ loopback.url.username = "" ∧
      loopback.url.password = none ∧
      (∃ r sent heard peer, r.headers.authorization = some "Bearer t" ∧
        Exchange (loopback.authenticated .epoch).peer r sent heard peer ∧
        (Operation.clients.perform .epoch loopback).2 =
          (loopback.authenticated .epoch).withPeer peer) ∧
      (Operation.clients.perform .epoch loopback).2.peer.requests.map
          (fun r => (r.url.text, r.headers.authorization)) =
        [("http://[::1]/security/clients", some "Bearer t")] := by
  have hsends : (Operation.clients.plan loopback).sends = true := by decide +kernel
  have hanswer : (loopback.tokens.ensure .epoch).1 = .ok (some { accessToken := "t" }) := rfl
  have hvalue : Http.isHeaderValue "Bearer t" = true := by decide
  refine ⟨serverUrl?_loopback, rfl, rfl, ?_, by decide +kernel⟩
  rcases perform_gated serverUrl?_loopback rfl rfl .epoch Operation.clients with
    ⟨x, hx, -⟩ | ⟨g, -, hperform, hgated⟩
  · rw [hx] at hsends
    cases hsends
  · rw [hperform, hanswer]
    refine (hgated (loopback.authenticated .epoch)).shown (some { accessToken := "t" }) ?_
    rintro t ⟨⟩
    exact hvalue

/-- A client with a token, of a hub that has moved to another path. -/
def moved : Client StaticSource :=
  loopback.withPeer { turns := [
    .reply ⟨⟨307⟩, some []⟩ (some { loopback.url with path := .segments ["moved"] }),
    .reply ⟨⟨200⟩, some (Utf8.encode "{}")⟩] }

/-- A hub that redirects a request gets a second one. -/
theorem perform_gated_moved :
    ClientOptions.serverUrl? "http://[::1]/" = .ok moved.url ∧ moved.url.username = "" ∧
      moved.url.password = none ∧
      (moved.tokens.ensure .epoch).1 = .ok (some { accessToken := "t" }) ∧
      (moved.authenticated .epoch).peer.requests = [] ∧
      (Operation.clients.perform .epoch moved).2.peer.requests.map (·.url.text) =
        ["http://[::1]/security/clients", "http://[::1]/moved"] ∧
      ¬(Operation.clients.perform .epoch moved).2.peer.requests.length ≤ 1 :=
  ⟨serverUrl?_loopback, rfl, rfl, rfl, rfl, by decide +kernel, by decide +kernel⟩

end Client

end EntityHub
