import EntityHub.Proofs.Entity.Page
import EntityHub.Query.Page
/-!
# The format of query pages

Octets are read as a query page exactly if they are an array of a context, an array of triples and,
if there is more, continuations (`QueryPage.GoesOn`), and what they are read as is what stands
there: `QueryPage.reads_triples`. An entity in a triple stands three levels down in the array. It is
read as it would be on its own, since the array was read before and has no levels that the entity
could not have (`Entity.steady_decoder`).
-/

namespace EntityHub

open Json (Decoder Raw Value)

/-! ## Arrays of values -/

namespace Json.Decoder

variable {α : Type} {v : Value}

theorem string_toRaw_eq_some_iff {levels : Nat} {s : String} :
    string levels v.toRaw = some s ↔ v = .string s := by
  cases v <;> simp [string, Value.toRaw]

theorem list_toRaw_eq_some_iff {d : Decoder α} {levels : Nat} {l : List α} :
    list d (levels + 1) v.toRaw = some l ↔
      ∃ vs, v = .array vs ∧ List.Forall₂ (fun w a => d levels w.toRaw = some a) vs l := by
  cases v with
  | array vs =>
    rw [Value.toRaw, Value.toRawItems_eq_map, list, mapM_eq_some_iff, List.forall₂_map_left_iff]
    simp
  | null | bool | number | string | object => simp [list, Value.toRaw]

/-- What is read as a list of texts is the array of these texts. -/
theorem list_string_toRaw_eq_some_iff {levels : Nat} {l : List String} :
    list string (levels + 1) v.toRaw = some l ↔ v = .array (l.map .string) := by
  have htexts : ∀ vs : List Value,
      List.Forall₂ (fun w s => w = Value.string s) vs l ↔ vs = l.map .string := by
    intro vs
    rw [← List.forall₂_eq_eq_eq, List.forall₂_map_right_iff]
  simp only [list_toRaw_eq_some_iff, string_toRaw_eq_some_iff, htexts, exists_eq_right]

end Json.Decoder

/-! ## Triples -/

/-- The value is the triple of a subject, a predicate and what is read as the entity. -/
def QueryResult.IsTriple (v : Value) (r : QueryResult) : Prop :=
  ∃ e, v = .array [.string r.subject, .string r.predicate, e] ∧
    Entity.decoder.ofValue? e = some r.entity

theorem QueryResult.decoder_toRaw_eq_some_iff {v : Value} {r : QueryResult} {levels : Nat}
    (hv : v.toRaw.Within levels) (hlevels : levels ≤ Json.maxLevels) :
    decoder levels v.toRaw = some r ↔ IsTriple v r := by
  cases v with
  | array items =>
    have hitems := Value.within_of_mem hv
    cases hv with
    | @array n =>
      match items with
      | [subject, predicate, entity] =>
        have hentity : entity.toRaw.Within n := hitems entity (by simp)
        have heq : Entity.decoder n entity.toRaw = Entity.decoder.ofValue? entity :=
          (Entity.steady_decoder hentity (show n ≤ Json.maxLevels by omega)).symm
        simp only [Value.toRaw, Value.toRawItems, decoder, heq, Option.bind_eq_bind,
          Option.bind_eq_some_iff, Option.pure_def, Option.some.injEq,
          Decoder.string_toRaw_eq_some_iff]
        constructor
        · rintro ⟨s, rfl, p, rfl, e, he, rfl⟩
          exact ⟨entity, rfl, he⟩
        · rintro ⟨e, h, he⟩
          simp only [Value.array.injEq, List.cons.injEq, and_true] at h
          obtain ⟨rfl, rfl, rfl⟩ := h
          exact ⟨_, rfl, _, rfl, _, he, rfl⟩
      | [] | [_] | [_, _] | _ :: _ :: _ :: _ :: _ =>
        simp [Value.toRaw, Value.toRawItems, decoder, IsTriple]
  | null | bool | number | string | object => simp [Value.toRaw, decoder, IsTriple]

/-- What is read as a list of results is an array of triples, if it has no more levels than what is
read. -/
theorem QueryResult.list_decoder_ofValue?_eq_some_iff {v : Value} {rs : List QueryResult}
    (hv : v.toRaw.Within Json.maxLevels) : (Decoder.list decoder).ofValue? v = some rs ↔
      ∃ vs, v = .array vs ∧ List.Forall₂ IsTriple vs rs := by
  refine Decoder.list_toRaw_eq_some_iff.trans (exists_congr fun vs => and_congr_right ?_)
  rintro rfl
  have hvs := Value.within_of_mem hv
  have himp : ∀ {R S : Value → QueryResult → Prop},
      (∀ w r, w.toRaw.Within (Json.maxLevels - 1) → R w r → S w r) →
      List.Forall₂ R vs rs → List.Forall₂ S vs rs := fun h hR =>
    ((List.forall₂_and_left _ _).mpr ⟨hvs, hR⟩).imp fun w r hwr => h w r hwr.1 hwr.2
  have htriple : ∀ w r, w.toRaw.Within (Json.maxLevels - 1) →
      (decoder (Json.maxLevels - 1) w.toRaw = some r ↔ IsTriple w r) := fun w r hw =>
    decoder_toRaw_eq_some_iff hw (Nat.sub_le _ _)
  exact ⟨himp fun w r hw => (htriple w r hw).mp, himp fun w r hw => (htriple w r hw).mpr⟩

namespace QueryPage

/-! ## Parts of a page -/

/-- What may stand behind the results: nothing, or `null` or an array of continuations, and then
anything. -/
inductive GoesOn : List Value → List String → Prop
  | missing : GoesOn [] []
  | null (more : List Value) : GoesOn (.null :: more) []
  | given (ks : List String) (more : List Value) : GoesOn (.array (ks.map .string) :: more) ks

/-- The continuations that stand behind the results. -/
def continuations? : List Value → Except Error (List String)
  | [] | .null :: _ => .ok []
  | v :: _ => part? (Decoder.list Decoder.string) .queryContinuationsInvalid v

/-- The page whose continuations are known. -/
def goingOn (context results : Value) (continuations : List String) : Except Error QueryPage := do
  let results ← part? (Decoder.list QueryResult.decoder) .queryResultsInvalid results
  let context ← part? Context.decoder .queryContextInvalid context
  return { context, results, continuations }

theorem ofValues?_cons_cons (context results : Value) (rest : List Value) :
    ofValues? (context :: results :: rest) =
      (continuations? rest).bind (goingOn context results) := by
  rcases rest with _ | ⟨v, rest⟩
  · rfl
  · cases v <;> rfl

section Parts

variable {α : Type} {d : Decoder α} {problem : Problem} {v : Value} {e : Error}

theorem part?_eq_ok_iff {a : α} : part? d problem v = .ok a ↔ d.ofValue? v = some a := by
  unfold part?
  cases d.ofValue? v <;> simp

theorem unread_of_part? (hkind : problem.kind = .clientProcessing)
    (h : part? d problem v = .error e) : e.Unread := by
  unfold part? at h
  split at h
  · cases h
  · obtain rfl := Except.error.inj h
    exact ⟨hkind, rfl⟩

theorem continuations?_eq_ok_iff {rest : List Value} {ks : List String} :
    continuations? rest = .ok ks ↔ GoesOn rest ks := by
  constructor
  · intro h
    unfold continuations? at h
    split at h
    · obtain rfl := Except.ok.inj h
      exact .missing
    · obtain rfl := Except.ok.inj h
      exact .null _
    · rw [part?_eq_ok_iff] at h
      obtain rfl := Decoder.list_string_toRaw_eq_some_iff.mp h
      exact .given ks _
  · rintro (_ | more | ⟨ks, more⟩)
    · rfl
    · rfl
    · exact part?_eq_ok_iff.mpr (Decoder.list_string_toRaw_eq_some_iff.mpr rfl)

theorem unread_of_continuations? {rest : List Value} (h : continuations? rest = .error e) :
    e.Unread := by
  unfold continuations? at h
  split at h
  · cases h
  · cases h
  · exact unread_of_part? rfl h

theorem goingOn_eq_ok_iff {context results : Value} {ks : List String} {p : QueryPage}
    (hresults : results.toRaw.Within Json.maxLevels) :
    goingOn context results ks = .ok p ↔ Context.decoder.ofValue? context = some p.context ∧
      (∃ vs, results = .array vs ∧ List.Forall₂ QueryResult.IsTriple vs p.results) ∧
      p.continuations = ks := by
  have htriples : ∀ rs, (Decoder.list QueryResult.decoder).ofValue? results = some rs ↔
      ∃ vs, results = .array vs ∧ List.Forall₂ QueryResult.IsTriple vs rs := fun _ =>
    QueryResult.list_decoder_ofValue?_eq_some_iff hresults
  constructor
  · intro h
    obtain ⟨rs, hrs, h⟩ := exists_of_bind_eq_ok h
    obtain ⟨c, hc, h⟩ := exists_of_bind_eq_ok h
    obtain rfl := Except.ok.inj h
    exact ⟨part?_eq_ok_iff.mp hc, (htriples rs).mp (part?_eq_ok_iff.mp hrs), rfl⟩
  · rintro ⟨hc, hrs, rfl⟩
    rw [goingOn, part?_eq_ok_iff.mpr ((htriples _).mpr hrs), part?_eq_ok_iff.mpr hc]
    rfl

theorem unread_of_goingOn {context results : Value} {ks : List String}
    (h : goingOn context results ks = .error e) : e.Unread := by
  rcases eq_or_exists_of_bind_eq_error h with h | ⟨results, -, h⟩
  · exact unread_of_part? rfl h
  · rcases eq_or_exists_of_bind_eq_error h with h | ⟨context, -, h⟩
    · exact unread_of_part? rfl h
    · cases h

end Parts

/-! ## Pages -/

variable {vs : List Value} {l : List UInt8} {p : QueryPage} {e : Error}

theorem ofValues?_of_length_lt (h : vs.length < 2) :
    ofValues? vs = .error (.of (.queryResponseShort vs.length)) := by
  rcases vs with _ | ⟨v, _ | ⟨w, vs⟩⟩
  · rfl
  · rfl
  · rw [List.length_cons, List.length_cons] at h
    omega

theorem unread_of_ofValues? (h : ofValues? vs = .error e) : e.Unread := by
  rcases vs with _ | ⟨context, _ | ⟨results, rest⟩⟩
  · obtain rfl := Except.error.inj h
    exact ⟨rfl, rfl⟩
  · obtain rfl := Except.error.inj h
    exact ⟨rfl, rfl⟩
  · rw [ofValues?_cons_cons] at h
    rcases eq_or_exists_of_bind_eq_error h with h | ⟨ks, -, h⟩
    · exact unread_of_continuations? h
    · exact unread_of_goingOn h

theorem unread_of_ofOctets? (h : ofOctets? l = .error e) : e.Unread := by
  unfold ofOctets? at h
  split at h
  · exact unread_of_ofValues? h
  · obtain rfl := Except.error.inj h
    exact ⟨rfl, rfl⟩

theorem ofOctets?_eq_ok_iff : ofOctets? l = .ok p ↔ ∃ context results rest,
    Decoder.value.ofOctets? l = some (.array (context :: .array results :: rest)) ∧
    Context.decoder.ofValue? context = some p.context ∧
    List.Forall₂ QueryResult.IsTriple results p.results ∧ GoesOn rest p.continuations := by
  have hvalues : ofOctets? l = .ok p ↔
      ∃ vs, Decoder.value.ofOctets? l = some (.array vs) ∧ ofValues? vs = .ok p := by
    simp only [← Decoder.ofOctets?_list_value]
    unfold ofOctets?
    cases (Decoder.list Decoder.value).ofOctets? l <;> simp
  have hwithin : ∀ {vs : List Value} {v : Value}, Decoder.value.ofOctets? l = some (.array vs) →
      v ∈ vs → v.toRaw.Within Json.maxLevels := by
    intro vs v hvs hv
    obtain ⟨r, -, hr⟩ := Option.bind_eq_some_iff.mp hvs
    exact (Value.within_of_mem (Value.within_toRaw _ r hr) v hv).mono (Nat.sub_le _ _)
  rw [hvalues]
  constructor
  · rintro ⟨vs, hvs, h⟩
    rcases vs with _ | ⟨context, _ | ⟨results, rest⟩⟩
    · cases h
    · cases h
    · rw [ofValues?_cons_cons] at h
      obtain ⟨ks, hks, h⟩ := exists_of_bind_eq_ok h
      obtain ⟨hcontext, ⟨items, rfl, hitems⟩, rfl⟩ :=
        (goingOn_eq_ok_iff (hwithin hvs (by simp))).mp h
      exact ⟨context, items, rest, hvs, hcontext, hitems, continuations?_eq_ok_iff.mp hks⟩
  · rintro ⟨context, results, rest, hvs, hcontext, hresults, hks⟩
    refine ⟨_, hvs, ?_⟩
    rw [ofValues?_cons_cons, continuations?_eq_ok_iff.mpr hks]
    exact (goingOn_eq_ok_iff (hwithin hvs (by simp))).mpr ⟨hcontext, ⟨_, rfl, hresults⟩, rfl⟩

/-- Octets are read as a page exactly if they are an array of a context, an array of triples and
what may stand behind these, and then as the page with that context, these triples in order and the
continuations that stand there. What cannot be read fails as unreadable, among it every array of
less than two elements. -/
theorem reads_triples (l : List UInt8) :
    ((∃ p, ofOctets? l = .ok p) ↔ ∃ context results rest,
      Decoder.value.ofOctets? l = some (.array (context :: .array results :: rest)) ∧
      (∃ c, Context.decoder.ofValue? context = some c) ∧
      (∀ v ∈ results, ∃ r, QueryResult.IsTriple v r) ∧ ∃ ks, GoesOn rest ks) ∧
    (∀ p context results rest, ofOctets? l = .ok p →
      Decoder.value.ofOctets? l = some (.array (context :: .array results :: rest)) →
      Context.decoder.ofValue? context = some p.context ∧
      List.Forall₂ QueryResult.IsTriple results p.results ∧ GoesOn rest p.continuations) ∧
    (∀ e, ofOctets? l = .error e → e.kind = .clientProcessing) ∧
    (∀ vs, Decoder.value.ofOctets? l = some (.array vs) → vs.length < 2 →
      ofOctets? l = .error (.of (.queryResponseShort vs.length))) := by
  refine ⟨⟨?_, ?_⟩, ?_, fun e h => (unread_of_ofOctets? h).kind, ?_⟩
  · rintro ⟨p, hp⟩
    obtain ⟨context, results, rest, hvs, hcontext, hresults, hks⟩ := ofOctets?_eq_ok_iff.mp hp
    exact ⟨context, results, rest, hvs, ⟨_, hcontext⟩, exists_of_forall₂ hresults, ⟨_, hks⟩⟩
  · rintro ⟨context, results, rest, hvs, ⟨c, hcontext⟩, hresults, ⟨ks, hks⟩⟩
    obtain ⟨rs, hrs⟩ := exists_forall₂ hresults
    exact ⟨⟨c, rs, ks⟩, ofOctets?_eq_ok_iff.mpr ⟨context, results, rest, hvs, hcontext, hrs, hks⟩⟩
  · intro p context results rest hp hvs
    obtain ⟨context', results', rest', hvs', hread⟩ := ofOctets?_eq_ok_iff.mp hp
    have heq := hvs.symm.trans hvs'
    simp only [Option.some.injEq, Value.array.injEq, List.cons.injEq] at heq
    obtain ⟨rfl, rfl, rfl⟩ := heq
    exact hread
  · intro vs hvs hlength
    rw [ofOctets?, Decoder.ofOctets?_list_value.mpr hvs]
    exact ofValues?_of_length_lt hlength

/-- A page without continuations, with something behind these, and an array that is too short. -/
theorem reads_triples_null :
    let context : Value := .object []
    let triple : Value := .array [.string "s", .string "p", .object [("id", .string "e")]]
    let l := Utf8.encode (Value.array [context, .array [triple], .null, .bool true]).text
    let l' := Utf8.encode (Value.array [context]).text
    (∃ p, ofOctets? l = .ok p ∧ p.results.length = 1 ∧ p.continuations = []) ∧
      ofOctets? l' = .error (.of (.queryResponseShort 1)) := by
  intro context triple l l'
  have htriple : triple.Readable := ⟨trivial, trivial, ⟨trivial, trivial⟩, trivial⟩
  have hl : Decoder.value.ofOctets? l =
      some (.array [context, .array [triple], .null, .bool true]) := by
    have hreadable : (Value.array [context, .array [triple], .null, .bool true]).Readable :=
      ⟨trivial, ⟨htriple, trivial⟩, trivial, trivial, trivial⟩
    rw [Decoder.ofOctets?, Raw.ofOctets?_encode_text hreadable]
    rfl
  have hl' : Decoder.value.ofOctets? l' = some (.array [context]) := by
    have hreadable : (Value.array [context]).Readable := ⟨trivial, trivial⟩
    rw [Decoder.ofOctets?, Raw.ofOctets?_encode_text hreadable]
    rfl
  have hresults : ∀ v ∈ [triple], ∃ r, QueryResult.IsTriple v r := by
    rw [List.forall_mem_singleton]
    exact ⟨⟨"s", "p", { id := "e" }⟩, _, rfl, rfl⟩
  obtain ⟨p, hp⟩ := (reads_triples l).1.mpr
    ⟨context, [triple], _, hl, ⟨{}, rfl⟩, hresults, [], .null _⟩
  obtain ⟨-, htriples, hks⟩ := (reads_triples l).2.1 p _ _ _ hp hl
  refine ⟨⟨p, hp, htriples.length_eq.symm, ?_⟩, (reads_triples l').2.2.2 _ hl' (by decide)⟩
  generalize p.continuations = ks at hks
  cases hks
  rfl

end QueryPage

end EntityHub
