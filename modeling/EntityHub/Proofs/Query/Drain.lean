import EntityHub.Proofs.Query.Traversal
import EntityHub.Proofs.Stream.Collect
/-!
# Collecting the results of a query

A hub that answers a query page by page says with each page where the traversal goes on, and with
the last one that it goes on nowhere (`Query.Linked`). A walk that ends for good ends with the first
empty page behind the first one, whether or not that page has continuations. So what
`Client.collect_queryStream` collects is complete exactly if none of the pages in between is empty.
-/

namespace EntityHub

open Http (Request)
open RecordStream (Brings)

namespace Query

variable {τ : Type} [TokenSource τ] {q : Query} {now : Instant} {c left : Client τ}
  {l : List String} {p : QueryPage} {ps : List QueryPage} {rs : List Request}

/-! ## Pages that are served -/

/-- The other side answers the requests for what follows `l`, for what follows the page that it has
answered then, and so on, with the pages `ps`. `rs` are these requests, and `left` is the client
after them. -/
inductive Served (q : Query) (now : Instant) :
    List String → Client τ → List QueryPage → List Request → Client τ → Prop
  | nil {l : List String} {c : Client τ} : Served q now l c [] [] c
  | cons {l : List String} {c left : Client τ} {p : QueryPage} {ps : List QueryPage} {r : Request}
      {rs : List Request} : q.posting now l c = some r → q.decoded? now l c = some p →
      Served q now p.continuations (q.asked now l c) ps rs left →
      Served q now l c (p :: ps) (r :: rs) left

theorem Served.length_eq (h : q.Served now l c ps rs left) : rs.length = ps.length := by
  induction h with
  | nil => rfl
  | cons _ _ _ ih => rw [List.length_cons, List.length_cons, ih]

/-- Every page but the last one has continuations, and the last one has none. -/
def Linked : List QueryPage → Prop
  | [] => True
  | p :: ps => (p.continuations = [] ↔ ps = []) ∧ Linked ps

/-- Pages up to the first empty one, and that one too. -/
def upToEmpty : List QueryPage → List QueryPage
  | [] => []
  | p :: ps => if p.results = [] then [p] else p :: upToEmpty ps

theorem upToEmpty_prefix (ps : List QueryPage) : ∃ missed, ps = upToEmpty ps ++ missed := by
  induction ps with
  | nil => exact ⟨[], rfl⟩
  | cons p ps ih =>
    obtain ⟨missed, hmissed⟩ := ih
    rw [upToEmpty]
    split
    · exact ⟨ps, rfl⟩
    · exact ⟨missed, congrArg (p :: ·) hmissed⟩

/-- No page is missed if none but the last one is empty. -/
theorem upToEmpty_eq_self_iff (ps : List QueryPage) :
    upToEmpty ps = ps ↔ ∀ p ∈ ps.dropLast, p.results ≠ [] := by
  induction ps with
  | nil => simp [upToEmpty]
  | cons p ps ih =>
    rcases ps with _ | ⟨p', ps⟩
    · by_cases hp : p.results = [] <;> simp [upToEmpty, hp]
    · rw [upToEmpty, List.dropLast_cons_cons, List.forall_mem_cons, ← ih]
      by_cases hp : p.results = []
      · simp [hp]
      · simp [hp]

/-! ## Fetches of what is served -/

theorem fetchPage_of_decoded? (h : q.decoded? now l c = some p) :
    (q.fetchPage now l).run.run c = (.ok p, q.asked now l c) := by
  obtain ⟨x, hx, hdecoded⟩ := q.run_fetchPage now l c
  rw [h] at hdecoded
  rcases x with e | p'
  · cases hdecoded
  · obtain rfl := Option.some.inj hdecoded
    exact hx

/-- A fetch at the first page. -/
theorem fetch_none_of_decoded? (h : q.decoded? now [] c = some p) :
    q.fetch now none c = (.ok (toPage p), q.asked now [] c) := by
  rw [fetch_none, run_map, fetchPage_of_decoded? h]
  simp only [Except.map]

/-- A fetch at a later page. -/
theorem fetch_some_of_decoded? (hl : l ≠ []) (h : q.decoded? now l c = some p) :
    q.fetch now (some (encodeCursor l)) c = (.ok (toPage p), q.asked now l c) := by
  rw [fetch_some (decodeCursor_encodeCursor l), if_neg hl, run_map, fetchPage_of_decoded? h]
  simp only [Except.map]

/-- A fetch at the end brings an empty page and does nothing else. -/
theorem fetch_encodeCursor_nil (q : Query) (now : Instant) (c : Client τ) :
    q.fetch now (some (encodeCursor [])) c = (.ok {}, c) := by
  rw [fetch_some (decodeCursor_encodeCursor []), if_pos rfl]

/-- The pages behind the first one come to a walk up to the first empty one. If there is none, the
walk makes an empty page of the end. -/
theorem Served.brings (h : q.Served now l c ps rs left) (hlinked : Linked ps)
    (hl : l = [] ↔ ps = []) :
    ∃ full last cursor' rs' left', Brings (q.fetch now) (some (encodeCursor l)) c (full ++ [last])
        cursor' left' ∧
      (∀ r ∈ full, r.items ≠ []) ∧ last.items = [] ∧
      full.flatMap Page.items = (upToEmpty ps).flatMap QueryPage.results ∧
      q.Served now l c (upToEmpty ps) rs' left' ∧ rs' <+: rs := by
  induction h with
  | @nil l c =>
    obtain rfl := hl.mpr rfl
    exact ⟨[], {}, _, [], c, .cons (q.fetch_encodeCursor_nil now c) .nil, by simp, rfl, rfl, .nil,
      List.prefix_refl _⟩
  | @cons l c left p ps r rs hr hp hrest ih =>
    have hne : l ≠ [] := fun hnil => List.cons_ne_nil p ps (hl.mp hnil)
    have hf := fetch_some_of_decoded? hne hp
    rw [upToEmpty]
    by_cases hempty : p.results = []
    · rw [if_pos hempty]
      refine ⟨[], toPage p, _, [r], _, .cons hf .nil, by simp, hempty, ?_, .cons hr hp .nil, ?_⟩
      · rw [List.flatMap_nil, List.flatMap_singleton, hempty]
      · exact ⟨rs, rfl⟩
    · rw [if_neg hempty]
      obtain ⟨full, last, cursor', rs', left', hbrings, hfull, hlast, hitems, hserved, hprefix⟩ :=
        ih hlinked.2 hlinked.1
      refine ⟨toPage p :: full, last, cursor', r :: rs', left', .cons hf hbrings, ?_, hlast, ?_,
        .cons hr hp hserved, List.cons_prefix_cons.mpr ⟨rfl, hprefix⟩⟩
      · intro r' hr'
        rcases List.mem_cons.mp hr' with rfl | hr'
        · exact hempty
        · exact hfull r' hr'
      · rw [List.flatMap_cons, List.flatMap_cons, hitems]
        rfl

end Query

namespace Client

open Query (Linked upToEmpty)

variable {τ : Type} [TokenSource τ]

/-- Of the pages that are served for a query, the results of the first one and of those behind it up
to the first empty one are collected, with one request for each of these pages. No page is missed
exactly if none between the first one and the last one is empty. -/
theorem collect_queryStream {q : Query} (hq : ∃ id ∈ q.startingEntities, isBlank id = false)
    {now : Instant} {c left : Client τ} {p : QueryPage} {ps : List QueryPage} {rs : List Request}
    (hserved : q.Served now [] c (p :: ps) rs left) (hlinked : Linked (p :: ps)) :
    ∃ s c' missed rs' left',
      (queryStream now q none).run.run c = (.ok s, c') ∧
      p :: ps = p :: upToEmpty ps ++ missed ∧
      (missed = [] ↔ ∀ r ∈ ps.dropLast, r.results ≠ []) ∧
      q.Served now [] c (p :: upToEmpty ps) rs' left' ∧
      rs' <+: rs ∧ rs'.length = (p :: upToEmpty ps).length ∧
      ∀ limit, ((p :: upToEmpty ps).flatMap QueryPage.results).length < limit →
        (RecordStream.collect (q.fetch now) limit (some s)).run c' =
          (((p :: upToEmpty ps).flatMap QueryPage.results).map .ok, left') := by
  cases hserved with
  | @cons _ _ _ _ _ r rs hr hp hrest =>
    obtain ⟨full, last, cursor', rs', left', hbrings, hfull, hlast, hitems, hserved, hprefix⟩ :=
      hrest.brings hlinked.2 hlinked.1
    obtain ⟨missed, hmissed⟩ := Query.upToEmpty_prefix ps
    have hfirst : q.Served now [] c (p :: upToEmpty ps) (r :: rs') left' := .cons hr hp hserved
    refine ⟨.turn { continuation := none } (Query.toPage p), q.asked now [] c, missed, r :: rs',
      left', ?_, congrArg (p :: ·) hmissed, ?_, hfirst,
      List.cons_prefix_cons.mpr ⟨rfl, hprefix⟩, hfirst.length_eq, fun limit hlimit => ?_⟩
    · rw [run_queryStream hq, Query.fetch_none_of_decoded? hp]
      simp only [Except.map]
    · have hself : upToEmpty ps ++ missed = upToEmpty ps ↔ missed = [] := List.append_right_eq_self
      rw [← hmissed] at hself
      rw [← Query.upToEmpty_eq_self_iff, ← hself]
      exact eq_comm
    · have hbound : (p.results ++ full.flatMap Page.items).length < limit := by
        rw [hitems, ← List.flatMap_cons]
        exact hlimit
      have hcollect := RecordStream.collect_of_brings
        (s := RecordStream.turn { continuation := none } (Query.toPage p))
        hbrings hfull hlast hbound
      rw [hitems] at hcollect
      exact hcollect

/-- The visitor of a hub whose second page is empty, and whose traversal goes on behind it. -/
def gapVisitor : Client StaticSource where
  url := { scheme := "http", host := some (.ipv6 [0, 0, 0, 0, 0, 0, 0, 1]), path := .segments [""] }
  agent := {}
  tokens := { source := {
    source := .own ⟨{ accessToken := "t" }⟩
    peer := { turns := [pageTurn ["a"] ["1"], pageTurn [] ["2"], pageTurn ["b"] []] } } }

/-- The entities on the page that follows `l`, and its continuations. -/
def idsAfter (l : List String) (c : Client StaticSource) : Option (List String × List String) :=
  (aboutAlice.decoded? .epoch l c).map fun p => (p.results.map (·.entity.id), p.continuations)

theorem exists_served_cons {l ids k : List String} {c left : Client StaticSource}
    {ps : List QueryPage} {rs : List Request} (hids : idsAfter l c = some (ids, k))
    (hposting : (aboutAlice.posting .epoch l c).isSome)
    (hrest : aboutAlice.Served .epoch k (aboutAlice.asked .epoch l c) ps rs left) :
    ∃ p r, aboutAlice.Served .epoch l c (p :: ps) (r :: rs) left ∧
      p.results.map (·.entity.id) = ids ∧ p.continuations = k := by
  obtain ⟨r, hr⟩ := Option.isSome_iff_exists.mp hposting
  obtain ⟨p, hp, heq⟩ := Option.map_eq_some_iff.mp hids
  obtain ⟨rfl, rfl⟩ := Prod.mk.inj heq
  exact ⟨p, r, .cons hr hp hrest, rfl, rfl⟩

/-- What is behind the empty page is missed. -/
theorem collect_queryStream_gapVisitor :
    (∃ id ∈ aboutAlice.startingEntities, isBlank id = false) ∧
    ∃ first gap last rs left, aboutAlice.Served .epoch [] gapVisitor [first, gap, last] rs left ∧
      Linked [first, gap, last] ∧ first.results.map (·.entity.id) = ["a"] ∧
      last.results.map (·.entity.id) = ["b"] ∧
      ∃ s c' left', (queryStream .epoch aboutAlice none).run.run gapVisitor = (.ok s, c') ∧
        ∀ limit, first.results.length < limit →
          (RecordStream.collect (aboutAlice.fetch .epoch) limit (some s)).run c' =
            (first.results.map .ok, left') := by
  have hq : ∃ id ∈ aboutAlice.startingEntities, isBlank id = false := by decide
  let c₁ := aboutAlice.asked .epoch [] gapVisitor
  let c₂ := aboutAlice.asked .epoch ["1"] c₁
  have hids₁ : idsAfter [] gapVisitor = some (["a"], ["1"]) := by decide +kernel
  have hids₂ : idsAfter ["1"] c₁ = some ([], ["2"]) := by decide +kernel
  have hids₃ : idsAfter ["2"] c₂ = some (["b"], []) := by decide +kernel
  obtain ⟨last, r₃, hserved₃, hlast, hk₃⟩ := exists_served_cons hids₃ (by decide +kernel) .nil
  obtain ⟨gap, r₂, hserved₂, hgap, hk₂⟩ := exists_served_cons hids₂ (by decide +kernel) hserved₃
  obtain ⟨first, r₁, hserved₁, hfirst, hk₁⟩ :=
    exists_served_cons hids₁ (by decide +kernel) hserved₂
  have hlinked : Linked [first, gap, last] := by simp [Linked, hk₁, hk₂, hk₃]
  have hempty : gap.results = [] := List.map_eq_nil_iff.mp hgap
  obtain ⟨s, c', missed, rs', left', hrun, -, -, -, -, -, hcollect⟩ :=
    collect_queryStream hq hserved₁ hlinked
  have hupTo : (first :: upToEmpty [gap, last]).flatMap QueryPage.results = first.results := by
    simp [upToEmpty, hempty]
  rw [hupTo] at hcollect
  exact ⟨hq, first, gap, last, _, _, hserved₁, hlinked, hfirst, hlast, s, c', left', hrun, hcollect⟩

end Client

end EntityHub
