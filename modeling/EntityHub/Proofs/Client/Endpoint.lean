import EntityHub.Proofs.Client.Operation
import EntityHub.Proofs.Url.Below
/-!
# Names in paths

Operations on a dataset or on the rules of a client name it in the path of their request, between
segments that say what is asked for (`Client.Place`). The name is encoded, so it stays within its
segment and can be read back there, whatever is in it: `Client.perform_addressed`. Two names are an
exception. Dots are not encoded, and where a path is read a segment of dots is none: `.` stands for
nothing, and `..` takes back the segment before it. Still no two names have the same path.
-/

namespace EntityHub

theorem Url.decoded?_segment (s : String) : decoded? (Percent.segment s) = some s := by
  rw [decoded?, Percent.decode_segment, Utf8.decode?_encode]

namespace Client

variable {τ α β : Type}

/-! ## Places -/

/-- A place below the address of a hub, which a name tells from others. -/
structure Place where
  front : List String
  name : String
  back : List String

namespace Place

variable {p : Place} {base : List String}

/-- What the place is asked for under. -/
def asked (p : Place) : List String := p.front ++ Percent.segment p.name :: p.back

/-- What is left of that in the path of a request. -/
def segments (p : Place) : List String :=
  if p.name = "." then p.front ++ p.back
  else if p.name = ".." then p.front.dropLast ++ p.back
  else p.asked

/-- The path has a single segment for the name, from which it can be read back, and nothing else
comes of the name. -/
def KeptBy (p : Place) (base : List String) (path : Url.Path) : Prop :=
  ∃ s : String, '/' ∉ s.toList ∧ Url.decoded? s = some p.name ∧
    path = .segments (base ++ (p.front ++ s :: p.back))

/-- What stands around a name is read as it is, and no dots take it back but the last segment in
front of the name. -/
structure Regular (p : Place) : Prop where
  front : ∀ s ∈ p.front, Url.Path.Settled s
  last : ∃ l s, p.front = l ++ [s] ∧ Url.Path.stays s = false
  back : ∀ s ∈ p.back, Url.Path.Settled s
  ends : p.back ≠ []

theorem Regular.plain_asked (h : p.Regular) :
    ∀ s ∈ p.asked, ∀ c ∈ s.toList, Url.Path.isPlain c = true := by
  intro s hs c hc
  rcases List.mem_append.mp hs with hs | hs
  · exact (h.front s hs).plain c hc
  · rcases List.mem_cons.mp hs with rfl | hs
    · exact Url.Path.isPlain_of_mem_segment hc
    · exact (h.back s hs).plain c hc

/-- What is left of the segments that a place is asked for under. -/
theorem Regular.settle_asked (h : p.Regular) (hbase : ∀ s ∈ base, Url.Path.Settled s) :
    Url.Path.settle [] ((base ++ p.asked).map String.toList) = base ++ p.segments := by
  have hfront : ∀ s ∈ base ++ p.front, Url.Path.Settled s := fun s hs =>
    (List.mem_append.mp hs).elim (hbase s) (h.front s)
  rw [segments]
  split
  · next hname =>
    have hdot : Percent.segment "." = "." := rfl
    rw [asked, hname, hdot, ← List.append_assoc, ← List.append_assoc]
    exact Url.Path.settle_singleDot hfront h.back h.ends
  · next hsingle =>
    split
    · next hname =>
      have hdots : Percent.segment ".." = ".." := rfl
      obtain ⟨l, s, hlast, hstays⟩ := h.last
      rw [hlast, ← List.append_assoc] at hfront
      rw [asked, hname, hdots, hlast, List.dropLast_concat, ← List.append_assoc,
        ← List.append_assoc, ← List.append_assoc]
      exact Url.Path.settle_doubleDot hfront h.back h.ends hstays
    · next hdouble =>
      refine Url.Path.settle_of_settled fun s hs => ?_
      rcases List.mem_append.mp hs with hs | hs
      · exact hbase s hs
      · rcases List.mem_append.mp hs with hs | hs
        · exact h.front s hs
        · rcases List.mem_cons.mp hs with rfl | hs
          · exact Url.Path.settled_percentSegment hsingle hdouble
          · exact h.back s hs

/-- The name is kept unless it is dots. -/
theorem Regular.keptBy_iff (h : p.Regular) :
    p.KeptBy base (.segments (base ++ p.segments)) ↔ p.name ≠ "." ∧ p.name ≠ ".." := by
  obtain ⟨l, t, hlast, -⟩ := h.last
  constructor
  · rintro ⟨s, -, -, hpath⟩
    have heq := List.append_cancel_left (Url.Path.segments.inj hpath)
    have hlength := congrArg List.length heq
    refine ⟨fun hname => ?_, fun hname => ?_⟩
    · simp [segments, hname] at hlength
    · simp [segments, hname, hlast] at hlength
      omega
  · rintro ⟨hsingle, hdouble⟩
    refine ⟨Percent.segment p.name, fun hslash => ?_, Url.decoded?_segment p.name, ?_⟩
    · exact absurd (Url.Path.isPlain_of_mem_segment hslash) (by decide)
    · rw [segments, if_neg hsingle, if_neg hdouble, asked]

/-- The last segment stands behind the name. -/
theorem Regular.getLast?_segments (h : p.Regular) : p.segments.getLast? = p.back.getLast? := by
  have hback : ∀ l : List String, (l ++ p.back).getLast? = p.back.getLast? := by
    intro l
    rw [List.getLast?_append, List.getLast?_eq_some_getLast h.ends, Option.some_or]
  rw [segments]
  split
  · exact hback _
  · split
    · exact hback _
    · rw [asked, ← List.singleton_append, ← List.append_assoc, hback]

/-- Between places that differ in the name alone the path tells the name. -/
theorem Regular.name_unique (h : p.Regular) {name : String}
    (hname : { p with name := name }.segments = p.segments) : name = p.name := by
  obtain ⟨l, t, hlast, -⟩ := h.last
  simp only [segments, asked, hlast, List.dropLast_concat] at hname
  have hlength := congrArg List.length hname
  split_ifs at hname hlength with h₁ h₂ h₃ h₄ h₅ h₆ h₇ h₈
  · rw [h₁, h₂]
  · simp at hlength
  · simp at hlength
  · simp at hlength
  · rw [h₄, h₆]
  · simp at hlength
    omega
  · simp at hlength
  · simp at hlength
    omega
  · have hsegment := (List.cons.inj (List.append_cancel_left hname)).1
    have hread := congrArg Url.decoded? hsegment
    rw [Url.decoded?_segment, Url.decoded?_segment] at hread
    exact Option.some.inj hread

end Place

/-- The place of what an operation is about, if it asks for something that has a name and is not
refused. -/
def Operation.place? : Operation α → Option Place
  | .page dataset q _ _ | .openFeed dataset q _ _ =>
    if isBlank dataset then none else some ⟨["datasets"], dataset, [q.endpoint]⟩
  | .nextEntity feed s _ =>
    if s.buffered.isEmpty then some ⟨["datasets"], feed.dataset, [feed.query.endpoint]⟩ else none
  | .accessRules id | .setAccessRules id _ =>
    if id = "" then none else some ⟨["security", "clients"], id, ["acl"]⟩
  | .query _ | .openQuery _ _ | .nextResult _ _ | .clients | .addClient _ _ | .deleteClient _ => none

theorem DatasetQuery.settled_endpoint (q : DatasetQuery) : Url.Path.Settled q.endpoint := by
  rw [DatasetQuery.endpoint]
  split <;> exact Url.Path.settled_of_all (by decide) (by decide) (by decide)

theorem DatasetQuery.endpoint_ne_acl (q : DatasetQuery) : q.endpoint ≠ "acl" := by
  rw [DatasetQuery.endpoint]
  split <;> decide

theorem regular_dataset (dataset : String) (q : DatasetQuery) :
    Place.Regular ⟨["datasets"], dataset, [q.endpoint]⟩ where
  front := List.forall_mem_singleton.mpr
    (Url.Path.settled_of_all (by decide) (by decide) (by decide))
  last := ⟨[], "datasets", rfl, by decide⟩
  back := List.forall_mem_singleton.mpr (DatasetQuery.settled_endpoint q)
  ends := List.cons_ne_nil _ _

theorem regular_rules (id : String) : Place.Regular ⟨["security", "clients"], id, ["acl"]⟩ where
  front := List.forall_mem_cons.mpr
    ⟨Url.Path.settled_of_all (by decide) (by decide) (by decide), List.forall_mem_singleton.mpr
      (Url.Path.settled_of_all (by decide) (by decide) (by decide))⟩
  last := ⟨["security"], "clients", rfl, by decide⟩
  back := List.forall_mem_singleton.mpr
    (Url.Path.settled_of_all (by decide) (by decide) (by decide))
  ends := List.cons_ne_nil _ _

namespace Operation

variable {op : Operation α} {other : Operation β} {p q : Place}

theorem exists_of_place? (h : op.place? = some p) :
    (∃ dataset, ∃ query : DatasetQuery, p = ⟨["datasets"], dataset, [query.endpoint]⟩) ∨
      ∃ id, p = ⟨["security", "clients"], id, ["acl"]⟩ := by
  cases op <;> simp only [place?, Option.ite_none_left_eq_some, Option.ite_none_right_eq_some,
    Option.some.injEq, reduceCtorEq] at h
  case page dataset query _ _ | openFeed dataset query _ _ => exact .inl ⟨dataset, query, h.2.symm⟩
  case nextEntity feed _ _ => exact .inl ⟨feed.dataset, feed.query, h.2.symm⟩
  case accessRules id | setAccessRules id _ => exact .inr ⟨id, h.2.symm⟩

theorem regular_of_place? (h : op.place? = some p) : p.Regular := by
  obtain ⟨dataset, query, rfl⟩ | ⟨id, rfl⟩ := exists_of_place? h
  · exact regular_dataset dataset query
  · exact regular_rules id

/-- No two places of operations have the same path. -/
theorem place_unique (h : op.place? = some p) (h' : other.place? = some q)
    (heq : q.segments = p.segments) : q = p := by
  have hp := regular_of_place? h
  have hlast := congrArg List.getLast? heq
  rw [(regular_of_place? h').getLast?_segments, hp.getLast?_segments] at hlast
  obtain ⟨dataset, query, rfl⟩ | ⟨id, rfl⟩ := exists_of_place? h <;>
    obtain ⟨dataset', query', rfl⟩ | ⟨id', rfl⟩ := exists_of_place? h'
  · obtain hendpoint : query'.endpoint = query.endpoint := Option.some.inj hlast
    rw [hendpoint] at heq ⊢
    rw [hp.name_unique heq]
  · exact absurd (Option.some.inj hlast).symm (DatasetQuery.endpoint_ne_acl query)
  · exact absurd (Option.some.inj hlast) (DatasetQuery.endpoint_ne_acl query')
  · rw [hp.name_unique heq]

end Operation

/-! ## Plans -/

/-- A plan that sends to a path below the address of the client, if that is a URL. -/
inductive Plan.Toward (c : Client τ) (path : String) : Plan α → Prop
  | failed {e : Error} : c.requestUrl path = .error e → Toward c path (.settled (.error e))
  | send {g : Errand α} : c.requestUrl path = .ok g.url → Toward c path (.send g)

section Toward

variable {c : Client τ} {path : String}

theorem Plan.Toward.andThen {p : Plan α} {f : α → Except Error β} (h : p.Toward c path) :
    (p.andThen f).Toward c path := by
  cases h with
  | failed he => exact .failed he
  | send hurl => exact .send hurl

theorem toward_toward (purpose : Purpose) (draft : Http.Draft) :
    (c.toward purpose path draft).Toward c path := by
  rw [toward]
  rcases hu : c.requestUrl path with e | u
  · exact .failed hu
  · exact .send hu

theorem toward_feedPlan (f : DatasetFeed) (cursor : Option Continuation) :
    (c.feedPlan f cursor).Toward c
      (Url.Path.segments (Place.asked ⟨["datasets"], f.dataset, [f.query.endpoint]⟩)).text := by
  have hpath : (Url.Path.segments (Place.asked ⟨["datasets"], f.dataset, [f.query.endpoint]⟩)).text =
      f.query.path f.dataset := by
    rw [← String.toList_inj, Url.Path.toList_text_segments]
    simp [Place.asked, DatasetQuery.path]
  rw [feedPlan, hpath]
  exact (toward_toward _ _).andThen

theorem text_rules (id : String) :
    (Url.Path.segments (Place.asked ⟨["security", "clients"], id, ["acl"]⟩)).text = rulesPath id := by
  rw [← String.toList_inj, Url.Path.toList_text_segments]
  simp [Place.asked, rulesPath, clientsPath]

theorem toward_plan {op : Operation α} {p : Place} (h : op.place? = some p) :
    (op.plan c).Toward c (Url.Path.segments p.asked).text := by
  cases op <;> simp only [Operation.place?, Option.ite_none_left_eq_some,
    Option.ite_none_right_eq_some, Option.some.injEq, reduceCtorEq] at h
  case page dataset q cursor expand | openFeed dataset q cursor expand =>
    obtain ⟨hname, rfl⟩ := h
    have htoward := toward_feedPlan (c := c) ⟨dataset, q⟩ cursor
    simp only [Operation.plan, DatasetFeed.ofName?, if_neg hname, Plan.checked]
    exact htoward.andThen
  case nextEntity feed s e =>
    obtain ⟨hbuffered, rfl⟩ := h
    rw [Operation.plan, nextPlan, List.isEmpty_iff.mp hbuffered]
    exact (toward_feedPlan feed s.continuation).andThen.andThen
  case accessRules id | setAccessRules id _ =>
    obtain ⟨hid, rfl⟩ := h
    simp only [Operation.plan, checkId, if_neg hid, Plan.checked, text_rules, getPlan, postPlan]
    exact (toward_toward _ _).andThen

end Toward

/-! ## Requests -/

theorem path_requestOf (c : Client τ) (u : Url) (authorization : Option String)
    (draft : Http.Draft) : (c.requestOf u authorization draft).url.path = u.path := by
  rw [requestOf, Http.Agent.request]
  cases draft.pairs <;> rfl

variable [TokenSource τ]

/-- What is asked for under a name is asked for below the address of the client, at a path that has
a single segment for the name, unless the name is dots. The path that `.` and `..` have in place of
that is told by `Place.segments`, and no two places have the same path. Nothing is sent only if what
the address is written as is no URL. -/
theorem perform_addressed {address : String} {c : Client τ}
    (haddress : ClientOptions.serverUrl? address = .ok c.url) (hquery : c.url.query = none)
    (hfragment : c.url.fragment = none) (now : Instant) (op : Operation α) {p : Place}
    (hplace : op.place? = some p) :
    (Url.Path.segments c.url.path.basis).text = dropTrailingSlashes c.url.path.text ∧
    ((∃ f e, Url.ofText? c.url.text = .error f ∧ op.perform now c = (.error e, c)) ∨
      ∃ g, op.plan c = .send g ∧
        op.perform now c = g.deliver (c.tokens.ensure now).1 (c.authenticated now) ∧
        ∀ (later : Client τ) (authorization : Option String),
          (later.requestOf g.url authorization g.draft).url.path =
            .segments (c.url.path.basis ++ p.segments)) ∧
    (p.KeptBy c.url.path.basis (.segments (c.url.path.basis ++ p.segments)) ↔
      p.name ≠ "." ∧ p.name ≠ "..") ∧
    ∀ {β : Type} (other : Operation β) (q : Place), other.place? = some q →
      q.segments = p.segments → q = p := by
  have hregular := Operation.regular_of_place? hplace
  have hasked : p.asked ≠ [] := List.append_ne_nil_of_right_ne_nil _ (List.cons_ne_nil _ _)
  refine ⟨text_basis haddress, ?_, hregular.keptBy_iff, fun other q hother =>
    Operation.place_unique hplace hother⟩
  have hurl := fun u => requestUrl_eq_ok_iff (u := u) haddress hquery hfragment
    hregular.plain_asked hasked
  have hperform := perform_eq_carry now c op
  have htoward := toward_plan (c := c) hplace
  rcases hplan : op.plan c with x | g <;> rw [hplan] at hperform htoward
  · obtain ⟨he⟩ := htoward
    rcases hread : Url.ofText? c.url.text with f | w
    · exact .inl ⟨f, _, rfl, hperform⟩
    · rw [(hurl _).mpr ⟨w, hread, rfl⟩] at he
      cases he
  · obtain - | hsend := htoward
    obtain ⟨w, -, hw⟩ := (hurl g.url).mp hsend
    refine .inr ⟨g, rfl, hperform, fun later authorization => ?_⟩
    rw [path_requestOf, hw, hregular.settle_asked (settled_basis haddress)]

/-- A slash stays within its segment, while two dots take back `datasets`. -/
theorem perform_addressed_loopback :
    ClientOptions.serverUrl? "http://[::1]/" = .ok loopback.url ∧
      (∃ g, (Operation.accessRules "a/b").plan loopback = .send g ∧
        ∀ (later : Client StaticSource) (authorization : Option String),
          (later.requestOf g.url authorization g.draft).url.path =
            .segments ["security", "clients", "a%2Fb", "acl"]) ∧
      (∃ g, (Operation.page ".." {} none false).plan loopback = .send g ∧
        ∀ (later : Client StaticSource) (authorization : Option String),
          (later.requestOf g.url authorization g.draft).url.path = .segments ["entities"]) ∧
      ¬Place.KeptBy ⟨["datasets"], "..", ["entities"]⟩ [] (.segments ["entities"]) := by
  have hread : ∀ f, Url.ofText? loopback.url.text ≠ .error f := by
    intro f hf
    have hok : (Url.ofText? loopback.url.text).toOption.isSome = true := by decide +kernel
    rw [hf] at hok
    cases hok
  obtain ⟨-, hrules, -⟩ := perform_addressed serverUrl?_loopback rfl rfl .epoch
    (Operation.accessRules "a/b") (p := ⟨["security", "clients"], "a/b", ["acl"]⟩) rfl
  obtain ⟨-, hpage, hkept, -⟩ := perform_addressed serverUrl?_loopback rfl rfl .epoch
    (Operation.page ".." {} none false) (p := ⟨["datasets"], "..", ["entities"]⟩) rfl
  refine ⟨serverUrl?_loopback, ?_, ?_, fun h => (hkept.mp h).2 rfl⟩
  · rcases hrules with ⟨f, e, hf, -⟩ | ⟨g, hplan, -, hpath⟩
    · exact absurd hf (hread f)
    · exact ⟨g, hplan, fun later authorization => (hpath later authorization).trans (by decide)⟩
  · rcases hpage with ⟨f, e, hf, -⟩ | ⟨g, hplan, -, hpath⟩
    · exact absurd hf (hread f)
    · exact ⟨g, hplan, fun later authorization => (hpath later authorization).trans (by decide)⟩

end Client

end EntityHub
