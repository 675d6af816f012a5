import EntityHub.Proofs.Client.Operation
import EntityHub.Proofs.Query.Page
/-!
# The reply decides

An operation that has seen to its token sends one request, and what it comes to is decided by the
reply to it, or by that to the last request if replies redirect it (`Client.Verdict`). Nothing is
tried again, and no error comes out of this but that of a request that failed and that of a body
that cannot be read. `Client.perform_decided` says so of every operation that sends something, and
of the others why they send nothing (`Client.Unsent`).

How the body of a reply is read is told for each operation by `Client.Operation.read?`. Plans keep
to it (`Client.reads_plan`), whatever the address of the client.
-/

namespace EntityHub

open Http (Exchange Peer Reply)

namespace Client

variable {τ α β : Type}

/-! ## Verdicts -/

/-- What is heard of the request of an operation makes this of the operation. The body of a
successful reply is read by `read?`. -/
inductive Verdict (read? : List UInt8 → Option α) : Except Fault Reply → Except Error α → Prop
  /-- There is no reply. -/
  | lost {f : Fault} {e : Error} : e.kind = .request → e.status = none →
      Verdict read? (.error f) (.error e)
  /-- The status is told, and the body does not matter. -/
  | refused {reply : Reply} {e : Error} : ¬(200 ≤ reply.status.code ∧ reply.status.code < 300) →
      e.kind = .request → e.status = some reply.status.code → Verdict read? (.ok reply) (.error e)
  /-- The body does not arrive, be it needed or not. -/
  | cut {reply : Reply} {e : Error} : 200 ≤ reply.status.code ∧ reply.status.code < 300 →
      reply.body = none → e.kind = .request → e.status = none →
      Verdict read? (.ok reply) (.error e)
  | unread {reply : Reply} {l : List UInt8} {e : Error} :
      200 ≤ reply.status.code ∧ reply.status.code < 300 → reply.body = some l → read? l = none →
      e.kind = .clientProcessing → e.status = none → Verdict read? (.ok reply) (.error e)
  | read {reply : Reply} {l : List UInt8} {a : α} :
      200 ≤ reply.status.code ∧ reply.status.code < 300 → reply.body = some l →
      read? l = some a → Verdict read? (.ok reply) (.ok a)

namespace Errand

variable {g : Errand α} {read? : List UInt8 → Option α}

/-- An errand that reads bodies by `read?`. -/
structure Reads (g : Errand α) (read? : List UInt8 → Option α) : Prop where
  read : ∀ {l a}, read? l = some a → g.read l = .ok a
  unread : ∀ {l}, read? l = none → ∃ e, g.read l = .error e ∧ e.Unread

/-- An errand reads on if what is done to what it has read fails as it should. -/
theorem Reads.andThen (h : g.Reads read?) {f : α → Except Error β}
    (hf : ∀ a e, f a = .error e → e.Unread) :
    (g.andThen f).Reads fun l => (read? l).bind fun a => (f a).toOption where
  read := by
    intro l b hb
    obtain ⟨a, ha, hb⟩ := Option.bind_eq_some_iff.mp hb
    have hread : (g.andThen f).read l = f a := congrArg (·.bind f) (h.read ha)
    rcases hfa : f a with e | b' <;> rw [hfa] at hb
    · cases hb
    · obtain rfl := Option.some.inj hb
      exact hread.trans hfa
  unread := by
    intro l hl
    rcases ha : read? l with _ | a
    · obtain ⟨e, he, hunread⟩ := h.unread ha
      exact ⟨e, congrArg (·.bind f) he, hunread⟩
    · have hread : (g.andThen f).read l = f a := congrArg (·.bind f) (h.read ha)
      rw [ha, Option.bind_some] at hl
      rcases hfa : f a with e | b <;> rw [hfa] at hl
      · exact ⟨e, hread.trans hfa, hf a e hfa⟩
      · cases hl

/-- The reply decides, whatever it is. -/
theorem Reads.verdict (h : g.Reads read?) (purpose : Purpose) (reply : Except Fault Reply) :
    Verdict read? reply ((bodyOf purpose reply).bind g.read) := by
  rcases reply with f | reply
  · exact .lost rfl rfl
  · have hsuccess := reply.status.isSuccess_iff
    unfold bodyOf
    by_cases hs : reply.status.isSuccess = true
    · simp only [hs, if_true]
      rcases hbody : reply.body with _ | l
      · exact .cut (hsuccess.mp hs) hbody rfl rfl
      · rcases hl : read? l with _ | a
        · obtain ⟨e, he, hunread⟩ := h.unread hl
          have hbind : (Except.ok l).bind g.read = .error e := he
          rw [hbind]
          exact .unread (hsuccess.mp hs) hbody hl hunread.kind hunread.status
        · have hbind : (Except.ok l).bind g.read = .ok a := h.read hl
          rw [hbind]
          exact .read (hsuccess.mp hs) hbody hl
    · simp only [hs]
      exact .refused (fun hcode => hs (hsuccess.mpr hcode)) rfl rfl

variable [TokenSource τ]

/-- With a header to show, or with none needed, an errand sends one request. There are further ones
only if replies redirect it, and what is heard at the end decides. The client is the one of that
time. -/
def Decided (g : Errand α) (read? : List UInt8 → Option α) (c : Client τ) : Prop :=
  ∀ answer authorization, headerFor c.strategy answer = .ok authorization →
    ∃ sent heard peer, Exchange c.peer (c.requestOf g.url authorization g.draft) sent heard peer ∧
      (g.deliver answer c).2 = c.withPeer peer ∧ Verdict read? heard (g.deliver answer c).1

theorem Reads.decided (h : g.Reads read?) (c : Client τ) : g.Decided read? c := by
  intro answer authorization hheader
  obtain ⟨sent, heard, peer, hsent, hdeliver⟩ := exists_deliver_of_ok (g := g) hheader
  rw [hdeliver]
  exact ⟨sent, heard, peer, hsent, rfl, h.verdict g.purpose heard⟩

end Errand

/-! ## What plans read -/

/-- A plan that reads bodies by `read?`. It may send nothing and come to something in `rest`, or
refuse what it is asked. -/
inductive Plan.Reads (read? : List UInt8 → Option α) (rest : α → Prop) : Plan α → Prop
  | refuse {e : Error} : e.kind = .parameter → Reads read? rest (.settled (.error e))
  | rest {a : α} : rest a → Reads read? rest (.settled (.ok a))
  | send {g : Errand α} : g.Reads read? → Reads read? rest (.send g)

namespace Plan

variable {read? : List UInt8 → Option α} {rest : α → Prop} {p : Plan α}

theorem Reads.andThen {rest' : β → Prop} (h : p.Reads read? rest) {f : α → Except Error β}
    (hf : ∀ a e, f a = .error e → e.Unread) (hrest : ∀ a, rest a → ∃ b, f a = .ok b ∧ rest' b) :
    (p.andThen f).Reads (fun l => (read? l).bind fun a => (f a).toOption) rest' := by
  cases h with
  | refuse hkind => exact .refuse hkind
  | @rest a ha =>
    obtain ⟨b, hb, hrest⟩ := hrest a ha
    have hsettled : (Plan.settled (.ok a)).andThen f = .settled (.ok b) :=
      congrArg Plan.settled hb
    rw [hsettled]
    exact .rest hrest
  | send hg => exact .send (hg.andThen hf)

theorem Reads.map {rest' : β → Prop} (h : p.Reads read? rest) (f : α → β)
    (hrest : ∀ a, rest a → rest' (f a)) :
    (p.andThen fun a => .ok (f a)).Reads (fun l => (read? l).map f) rest' := by
  have hmap : (fun l => (read? l).map f) =
      fun l => (read? l).bind fun a => (Except.ok (f a) : Except Error β).toOption :=
    funext fun l => Option.map_eq_bind
  rw [hmap]
  exact h.andThen (fun a e he => by cases he) fun a ha => ⟨f a, rfl, hrest a ha⟩

theorem Reads.mono {rest' : α → Prop} (h : p.Reads read? rest) (hrest : ∀ a, rest a → rest' a) :
    p.Reads read? rest' := by
  cases h with
  | refuse hkind => exact .refuse hkind
  | rest ha => exact .rest (hrest _ ha)
  | send hg => exact .send hg

theorem Reads.congr {read?' : List UInt8 → Option α} (h : p.Reads read? rest)
    (hread : ∀ l, read? l = read?' l) : p.Reads read?' rest :=
  (funext hread : read? = read?') ▸ h

theorem reads_checked {x : Except Error β} {p : β → Plan α}
    (hx : ∀ e, x = .error e → e.kind = .parameter) (h : ∀ y, x = .ok y → (p y).Reads read? rest) :
    (checked x p).Reads read? rest := by
  cases x with
  | error e => exact .refuse (hx e rfl)
  | ok y => exact h y rfl

end Plan

/-- How the body of a successful reply to an operation is read. What registers or removes clients or
gives them rules takes any body. -/
def Operation.read? : Operation α → List UInt8 → Option α
  | .page _ _ _ expand, l =>
    (EntityPage.ofOctets? l).toOption.map fun p => ((startExpansion expand).turn p).apply p
  | .openFeed dataset q cursor expand, l =>
    (EntityPage.ofOctets? l).toOption.map fun p =>
      let e := (startExpansion expand).turn p
      ({ dataset, query := q }, RecordStream.turn { continuation := cursor } (e.apply p).toPage, e)
  | .nextEntity _ _ e, l =>
    (EntityPage.ofOctets? l).toOption.map fun p => ((e.turn p).apply p).entities.head?
  | .query _, l => (QueryPage.ofOctets? l).toOption
  | .openQuery _ cursor, l =>
    (QueryPage.ofOctets? l).toOption.map fun p =>
      RecordStream.turn { continuation := cursor } (Query.toPage p)
  | .nextResult _ _, l => (QueryPage.ofOctets? l).toOption.map fun p => p.results.head?
  | .clients, l => ClientInfo.dictDecoder.ofOctets? l
  | .accessRules _, l => AccessRule.listDecoder.ofOctets? l
  | .addClient _ _, _ | .deleteClient _, _ | .setAccessRules _ _, _ => some ()

/-- What comes of an operation that sends nothing. -/
inductive Unsent : {α : Type} → Operation α → Except Error α → Prop
  /-- What it is asked for is refused. -/
  | refused {α : Type} {op : Operation α} {e : Error} : e.kind = .parameter → Unsent op (.error e)
  /-- The next record is there already. -/
  | entity {feed : DatasetFeed} {s : RecordStream Entity} {e : Expansion} {x : Entity}
      {l : List Entity} : s.buffered = x :: l → Unsent (.nextEntity feed s e) (.ok (some x))
  | result {q : Query} {s : RecordStream QueryResult} {x : QueryResult} {l : List QueryResult} :
      s.buffered = x :: l → Unsent (.nextResult q s) (.ok (some x))
  /-- The query is exhausted: its cursor carries no continuations. -/
  | ended {q : Query} {s : RecordStream QueryResult} {k : Continuation} : s.buffered = [] →
      s.continuation = some k → Query.decodeCursor k = .ok [] → Unsent (.nextResult q s) (.ok none)
  | openedAtEnd {q : Query} {k : Continuation} : Query.decodeCursor k = .ok [] →
      Unsent (.openQuery q (some k)) (.ok (RecordStream.turn { continuation := some k } {}))

section Reads

variable (c : Client τ) {rest : α → Prop}

theorem reads_toward (purpose : Purpose) (path : String) (draft : Http.Draft) :
    (c.toward purpose path draft).Reads some fun _ => False := by
  refine Plan.reads_checked (fun e he => ?_) fun u _ => .send ?_
  · unfold requestUrl at he
    split at he
    · cases he
    · obtain rfl := Except.error.inj he
      rfl
  · exact ⟨fun h => congrArg Except.ok (Option.some.inj h), fun h => by cases h⟩

theorem reads_feedPlan (f : DatasetFeed) (cursor : Option Continuation) :
    (c.feedPlan f cursor).Reads (fun l => (EntityPage.ofOctets? l).toOption) fun _ => False :=
  (c.reads_toward _ _ _).andThen (fun _ _ => EntityPage.unread_of_ofOctets?) fun _ h => h.elim

theorem reads_queryPlan (q : Query) (continuations : List String) :
    (c.queryPlan q continuations).Reads (fun l => (QueryPage.ofOctets? l).toOption)
      fun _ => False :=
  (c.reads_toward _ _ _).andThen (fun _ _ => QueryPage.unread_of_ofOctets?) fun _ h => h.elim

theorem reads_readJson (purpose : Purpose) (path : String) (d : Json.Decoder α) :
    ((c.getPlan purpose path []).andThen (readJson purpose d)).Reads d.ofOctets? rest := by
  have hunread : ∀ l e, readJson purpose d l = .error e → e.Unread := by
    intro l e h
    unfold readJson at h
    split at h
    · cases h
    · obtain rfl := Except.error.inj h
      exact ⟨rfl, rfl⟩
  refine ((c.reads_toward purpose path { method := .get, pairs := some [] }).andThen
    hunread fun _ h => h.elim).congr fun l => ?_
  rw [Option.bind_some, readJson]
  cases d.ofOctets? l <;> rfl

theorem reads_post (purpose : Purpose) (path : String) (v : Json.Value) {rest : Unit → Prop} :
    ((c.postPlan purpose path v).andThen fun _ => .ok ()).Reads (fun _ => some ()) rest :=
  (c.reads_toward purpose path _).map (fun _ => ()) fun _ h => h.elim

theorem reads_resultsPlan (q : Query) (cursor : Option Continuation) :
    (c.resultsPlan q cursor).Reads
      (fun l => (QueryPage.ofOctets? l).toOption.map Query.toPage)
      fun p => p = {} ∧ ∃ k, cursor = some k ∧ Query.decodeCursor k = .ok [] := by
  rcases cursor with _ | k
  · exact (c.reads_queryPlan q []).map Query.toPage fun _ h => h.elim
  · refine Plan.reads_checked (fun e he => ?_) fun l hl => ?_
    · unfold Query.decodeCursor at he
      split at he
      · cases he
      · obtain rfl := Except.error.inj he
        rfl
    · rcases l with _ | ⟨s, l⟩
      · exact .rest ⟨rfl, k, rfl, hl⟩
      · exact (c.reads_queryPlan q (s :: l)).map Query.toPage fun _ h => h.elim

theorem reads_nextPlan {s : RecordStream α} {fetch : Option Continuation → Plan (Page α)}
    {read? : List UInt8 → Option (Page α)} {rest : Page α → Prop} {rest' : Option α → Prop}
    (h : (fetch s.continuation).Reads read? rest)
    (hbuffered : ∀ x l, s.buffered = x :: l → rest' (some x))
    (hrest : s.buffered = [] → ∀ p, rest p → rest' p.items.head?) :
    (nextPlan s fetch).Reads (fun l => (read? l).map fun p => p.items.head?) rest' := by
  unfold nextPlan
  rcases hb : s.buffered with _ | ⟨x, l⟩
  · exact h.map (fun p => p.items.head?) (hrest hb)
  · exact .rest (hbuffered x l hb)

theorem kind_of_checkId {id : String} {e : Error} (h : checkId id = .error e) :
    e.kind = .parameter := by
  unfold checkId at h
  split at h
  · obtain rfl := Except.error.inj h
    rfl
  · cases h

theorem kind_of_validate {q : Query} {e : Error} (h : q.validate = .error e) :
    e.kind = .parameter := by
  unfold Query.validate at h
  split at h
  · obtain rfl := Except.error.inj h
    rfl
  · cases h

/-- A feed is of the dataset and the query that it was made for. -/
theorem reads_checked_ofName? {dataset : String} {q : DatasetQuery} {p : DatasetFeed → Plan α}
    {read? : List UInt8 → Option α} (h : (p ⟨dataset, q⟩).Reads read? rest) :
    (Plan.checked (DatasetFeed.ofName? dataset q) p).Reads read? rest := by
  unfold DatasetFeed.ofName?
  split
  · exact .refuse rfl
  · exact h

/-- Every plan reads bodies as its operation does. -/
theorem reads_plan (op : Operation α) :
    (op.plan c).Reads op.read? fun a => Unsent op (.ok a) := by
  cases op with
  | page dataset q cursor expand =>
    let f (p : EntityPage) : EntityPage := ((startExpansion expand).turn p).apply p
    refine reads_checked_ofName? ?_
    exact (c.reads_feedPlan ⟨dataset, q⟩ cursor).map f fun _ h => h.elim
  | openFeed dataset q cursor expand =>
    let f (p : EntityPage) : DatasetFeed × RecordStream Entity × Expansion :=
      let e := (startExpansion expand).turn p
      (⟨dataset, q⟩, RecordStream.turn { continuation := cursor } (e.apply p).toPage, e)
    refine reads_checked_ofName? ?_
    exact (c.reads_feedPlan ⟨dataset, q⟩ cursor).map f fun _ h => h.elim
  | nextEntity feed s e =>
    let f (p : EntityPage) : Page Entity := ((e.turn p).apply p).toPage
    let fetch (cursor : Option Continuation) : Plan (Page Entity) :=
      (c.feedPlan feed cursor).andThen fun p => .ok (f p)
    have hfetch : (fetch s.continuation).Reads
        (fun l => ((EntityPage.ofOctets? l).toOption).map f) fun _ => False :=
      (c.reads_feedPlan feed s.continuation).map f fun _ h => h
    exact (reads_nextPlan hfetch (fun x l hb => .entity hb) fun _ _ h => h.elim).congr
      fun l => Option.map_map ..
  | query q =>
    refine Plan.reads_checked (fun _ => kind_of_validate) fun _ _ => ?_
    exact (c.reads_queryPlan q []).mono fun _ h => h.elim
  | openQuery q cursor =>
    let f (p : Page QueryResult) : RecordStream QueryResult :=
      RecordStream.turn { continuation := cursor } p
    refine Plan.reads_checked (fun _ => kind_of_validate) fun _ _ => ?_
    refine ((c.reads_resultsPlan q cursor).map f ?_).congr fun l => Option.map_map ..
    rintro p ⟨rfl, k, rfl, hk⟩
    exact .openedAtEnd hk
  | nextResult q s =>
    refine (reads_nextPlan (c.reads_resultsPlan q s.continuation) (fun x l hb => .result hb)
      ?_).congr fun l => Option.map_map ..
    rintro hb p ⟨rfl, k, hk, hend⟩
    exact .ended hb hk hend
  | clients => exact c.reads_readJson .getClients clientsPath ClientInfo.dictDecoder
  | addClient id key =>
    exact Plan.reads_checked (fun _ => kind_of_checkId) fun _ _ => c.reads_post .addClient _ _
  | deleteClient id =>
    exact Plan.reads_checked (fun _ => kind_of_checkId) fun _ _ => c.reads_post .deleteClient _ _
  | accessRules id =>
    exact Plan.reads_checked (fun _ => kind_of_checkId) fun _ _ =>
      c.reads_readJson .getAccessRules (rulesPath id) AccessRule.listDecoder
  | setAccessRules id rules =>
    exact Plan.reads_checked (fun _ => kind_of_checkId) fun _ _ =>
      c.reads_post .setAccessRules _ _

theorem reads_of_plan {c : Client τ} {op : Operation α} {g : Errand α} (h : op.plan c = .send g) :
    g.Reads op.read? := by
  have hreads := c.reads_plan op
  rw [h] at hreads
  cases hreads with
  | send hg => exact hg

theorem unsent_of_plan {c : Client τ} {op : Operation α} {x : Except Error α}
    (h : op.plan c = .settled x) : Unsent op x := by
  have hreads := c.reads_plan op
  rw [h] at hreads
  cases hreads with
  | refuse hkind => exact .refused hkind
  | rest ha => exact ha

end Reads

variable [TokenSource τ]

/-- An operation that sends nothing sees to no token either, and leaves the client as it is. Every
other one is an errand. It is delivered after a token was seen to, and with a header to show it
sends one request, and what is heard of that decides, also if others have done something to the
client in the meantime. -/
theorem perform_decided (now : Instant) (c : Client τ) (op : Operation α) :
    (∃ x, op.perform now c = (x, c) ∧ Unsent op x) ∨
      ∃ g, op.plan c = .send g ∧
        op.perform now c = g.deliver (c.tokens.ensure now).1 (c.authenticated now) ∧
        ∀ later : Client τ, g.Decided op.read? later := by
  have hperform := perform_eq_carry now c op
  rcases hplan : op.plan c with x | g <;> rw [hplan] at hperform
  · exact .inl ⟨x, hperform, unsent_of_plan hplan⟩
  · exact .inr ⟨g, rfl, hperform, (reads_of_plan hplan).decided⟩

/-- A hub that knows no clients is asked for them once, and its reply is read. -/
theorem perform_decided_answered :
    let c := loopback.withPeer { turns := [.reply ⟨⟨200⟩, some (Utf8.encode "{}")⟩] }
    let run := Operation.clients.perform .epoch c
    (∃ r sent heard peer, Exchange (c.authenticated .epoch).peer r sent heard peer ∧
      run.2 = (c.authenticated .epoch).withPeer peer ∧
      Verdict ClientInfo.dictDecoder.ofOctets? heard run.1) ∧
    run.2.peer.requests.map (·.url.text) = ["http://[::1]/security/clients"] ∧
    run.1.toOption.map Dict.entries = some [] := by
  intro c run
  have hrequests : run.2.peer.requests.map (·.url.text) = ["http://[::1]/security/clients"] := by
    decide +kernel
  have hanswer : (c.tokens.ensure .epoch).1 = .ok (some { accessToken := "t" }) := rfl
  have hheader := headerFor_of_fit (t := { accessToken := "t" }) (c.authenticated .epoch).strategy
    (by decide)
  refine ⟨?_, hrequests, by decide +kernel⟩
  rcases perform_decided .epoch c Operation.clients with ⟨x, hx, -⟩ | ⟨g, -, hrun, hdecided⟩
  · have hleft : run.2 = c := congrArg Prod.snd hx
    rw [hleft] at hrequests
    cases hrequests
  · obtain ⟨sent, heard, peer, hsent, hleft, hverdict⟩ :=
      hdecided (c.authenticated .epoch) _ _ hheader
    rw [← hanswer, ← hrun] at hleft hverdict
    exact ⟨_, sent, heard, peer, hsent, hleft, hverdict⟩

/-- A request that does not get through is not sent at all, and of one that is redirected the reply
to the second request decides. -/
theorem perform_decided_moved :
    let offline := loopback.withPeer { reachable := false }
    (offline.authenticated .epoch).peer.requests = [] ∧
    (moved.authenticated .epoch).peer.requests = [] ∧
    ¬(Operation.clients.perform .epoch offline).2.peer.requests.length = 1 ∧
    ¬(Operation.clients.perform .epoch moved).2.peer.requests.length = 1 ∧
    ∃ reply place, (moved.authenticated .epoch).peer.turn = .reply reply place ∧
      ¬(200 ≤ reply.status.code ∧ reply.status.code < 300) ∧
      (Operation.clients.perform .epoch moved).1.toOption.isSome :=
  ⟨rfl, rfl, by decide +kernel, by decide +kernel, _, _, rfl, by decide, by decide +kernel⟩

end Client

end EntityHub
