import EntityHub.Proofs.Stream.Walk
/-!
# Walks over a chain of pages

Pages form a chain if each of them has a cursor that the next one answers, up to a last page without
a cursor (`RecordStream.Chain`). A walk keeps its cursor when a page has none, so at the end of a
chain it asks for the last page again. `RecordStream.walk_chain` says what comes of it: the records
of the chain once and in order, and then those of the last page over and over. Such a walk comes to
an end exactly if the last page is empty.
-/

namespace EntityHub.RecordStream

variable {σ α : Type}

/-! ## Chains -/

/-- Pages that follow one another from a cursor, and the page in which they end. All but the last
one have records and a cursor, which the next one answers. -/
inductive Chain (answer : Option Continuation → Except Error (Page α)) :
    Option Continuation → List (Page α) → Page α → Prop
  | last {cursor : Option Continuation} {p : Page α} : answer cursor = .ok p →
      p.continuation = none → Chain answer cursor [] p
  | more {cursor : Option Continuation} {p last : Page α} {k : Continuation}
      {ps : List (Page α)} : answer cursor = .ok p → p.items ≠ [] → p.continuation = some k →
      Chain answer (some k) ps last → Chain answer cursor (p :: ps) last

/-! ## Records with a refrain -/

/-- The element number `j` of a list that is followed by another one over and over. -/
def withRefrain? (l again : List α) (j : Nat) : Option α :=
  if j < l.length then l[j]? else again[(j - l.length) % again.length]?

theorem withRefrain?_nil (l : List α) (j : Nat) :
    withRefrain? l [] j = l[j]? := by
  unfold withRefrain?
  split
  · rfl
  · rw [List.getElem?_nil, List.getElem?_eq_none (by omega)]

theorem withRefrain?_ne_none (l : List α) {again : List α} (h : again ≠ []) (j : Nat) :
    withRefrain? l again j ≠ none := by
  unfold withRefrain?
  split
  · next hj => simpa using hj
  · have hmod := Nat.mod_lt (j - l.length) (List.length_pos_iff.mpr h)
    simpa using hmod

theorem withRefrain?_cons_zero (x : α) (l again : List α) :
    withRefrain? (x :: l) again 0 = some x := by
  simp [withRefrain?]

theorem withRefrain?_cons_succ (x : α) (l again : List α) (j : Nat) :
    withRefrain? (x :: l) again (j + 1) = withRefrain? l again j := by
  simp [withRefrain?]

/-- The refrain may be written out once. -/
theorem withRefrain?_append (l again : List α) (j : Nat) :
    withRefrain? (l ++ again) again j = withRefrain? l again j := by
  unfold withRefrain?
  rw [List.length_append]
  rcases Nat.lt_or_ge j l.length with hl | hl
  · rw [if_pos (by omega), if_pos hl, List.getElem?_append_left hl]
  · rw [if_neg (Nat.not_lt.mpr hl)]
    rcases Nat.lt_or_ge j (l.length + again.length) with hr | hr
    · rw [if_pos hr, List.getElem?_append_right hl, Nat.mod_eq_of_lt (by omega)]
    · have hsub : j - l.length = j - (l.length + again.length) + again.length := by omega
      rw [if_neg (Nat.not_lt.mpr hr), hsub, Nat.add_mod_right]

/-! ## The walk -/

/-- After a page of a chain the rest of the chain is ahead. At the end of the chain that is the last
page again, which is empty if it has just been read and is empty. -/
theorem Chain.turn {answer : Option Continuation → Except Error (Page α)} {s : RecordStream α}
    {ps : List (Page α)} {p last : Page α} (h : Chain answer s.continuation ps last)
    (hp : answer s.continuation = .ok p) :
    ∃ ps', Chain answer (s.turn p).continuation ps' last ∧
      (∀ j, withRefrain? (p.items ++ ps'.flatMap Page.items) last.items j =
        withRefrain? (ps.flatMap Page.items) last.items j) ∧
      (p.items = [] → ps' = [] ∧ last.items = []) := by
  cases h with
  | last hlast hnone =>
    obtain rfl : last = p := Except.ok.inj (hlast.symm.trans hp)
    refine ⟨[], ?_, fun j => ?_, fun hempty => ⟨rfl, hempty⟩⟩
    · rw [RecordStream.turn, hnone, Option.none_or]
      exact .last hlast hnone
    · rw [List.flatMap_nil, List.append_nil, ← withRefrain?_append [], List.nil_append]
  | @more _ p' _ k ps hmore hne hk hrest =>
    obtain rfl : p' = p := Except.ok.inj (hmore.symm.trans hp)
    refine ⟨ps, ?_, fun j => ?_, fun hempty => absurd hempty hne⟩
    · rw [RecordStream.turn, hk, Option.some_or]
      exact hrest
    · rw [List.flatMap_cons]

/-- A call hands out the first of what a walk has ahead, and the rest stays ahead. -/
theorem Chain.act {fetch : Fetch σ α} {answer : Option Continuation → Except Error (Page α)}
    (hfetch : ∀ cursor state, (fetch cursor state).1 = answer cursor) {s : RecordStream α}
    {state state' : σ} {c : Call α} (hact : Act fetch s state c state') {ps : List (Page α)}
    {last : Page α} (hs : Chain answer s.continuation ps last) :
    ∃ ps', Chain answer c.after.continuation ps' last ∧
      c.result = .ok (withRefrain? (s.buffered ++ ps.flatMap Page.items) last.items 0) ∧
      ∀ j, withRefrain? (c.after.buffered ++ ps'.flatMap Page.items) last.items j =
        withRefrain? (s.buffered ++ ps.flatMap Page.items) last.items (j + 1) := by
  have hanswer := hfetch s.continuation state
  cases hact with
  | @serve x l hb =>
    refine ⟨ps, hs, ?_, fun j => ?_⟩
    · rw [hb, List.cons_append, withRefrain?_cons_zero]
    · rw [hb, List.cons_append, withRefrain?_cons_succ]
  | fail hb hf =>
    rw [hf] at hanswer
    cases hs with
    | last hp | more hp => cases hanswer.trans hp
  | @turn _ p hb hf =>
    rw [hf] at hanswer
    obtain ⟨ps', hchain, hahead, hempty⟩ := hs.turn hanswer.symm
    refine ⟨ps', hchain, ?_, fun j => ?_⟩
    · rw [hb, List.nil_append, ← hahead]
      rcases hi : p.items with _ | ⟨x, l⟩
      · obtain ⟨rfl, hlast⟩ := hempty hi
        rw [hlast, withRefrain?_nil]
        rfl
      · rw [List.cons_append, withRefrain?_cons_zero, List.head?_cons]
    · rw [hb, List.nil_append, ← hahead]
      rcases hi : p.items with _ | ⟨x, l⟩
      · obtain ⟨rfl, hlast⟩ := hempty hi
        rw [hlast, withRefrain?_nil, withRefrain?_nil]
        rfl
      · rw [List.cons_append, withRefrain?_cons_succ, List.tail_cons]

/-- What a walk has in its buffer and what is left of the chain come next, and then the last page
over and over. -/
theorem result_calls_of_chain {fetch : Fetch σ α}
    {answer : Option Continuation → Except Error (Page α)}
    (hfetch : ∀ cursor state, (fetch cursor state).1 = answer cursor) (n : Nat)
    {s : RecordStream α} {ps : List (Page α)} {last : Page α}
    (hs : Chain answer s.continuation ps last) (state : σ) {j : Nat} {d : Call α}
    (hd : (calls fetch n s state)[j]? = some d) :
    d.result = .ok (withRefrain? (s.buffered ++ ps.flatMap Page.items) last.items j) := by
  induction n generalizing s ps state j with
  | zero => cases hd
  | succ n ih =>
    rw [calls] at hd
    obtain ⟨ps', hchain, hresult, hrest⟩ := hs.act hfetch (act_call fetch s state)
    rcases j with _ | j
    · obtain rfl := Option.some.inj hd
      exact hresult
    · rw [ih hchain _ hd, hrest]

/-- A walk over a chain of pages hands out their records once and in order, and from then on those
of the last page over and over. If that page is empty the walk is at its end then, and stays there;
if it is not, the walk never tells an end. -/
theorem walk_chain {fetch : Fetch σ α} {answer : Option Continuation → Except Error (Page α)}
    (hfetch : ∀ cursor state, (fetch cursor state).1 = answer cursor)
    {cursor : Option Continuation} {ps : List (Page α)} {last : Page α}
    (hchain : Chain answer cursor ps last) (n : Nat) (state : σ) :
    ∃ w, walk fetch cursor n state = .ok w ∧ w.calls.length = n ∧
      ∀ (j : Nat) (d : Call α), w.calls[j]? = some d →
        d.result = .ok (withRefrain? ((ps ++ [last]).flatMap Page.items) last.items j) ∧
        (last.items = [] → d.result = .ok ((ps ++ [last]).flatMap Page.items)[j]?) ∧
        (last.items ≠ [] → d.result ≠ .ok none) := by
  have hanswer := hfetch cursor state
  rcases hf : fetch cursor state with ⟨e | p, state'⟩
  · rw [hf] at hanswer
    cases hchain with
    | last hp | more hp => cases hanswer.trans hp
  · rw [hf] at hanswer
    obtain ⟨ps', hrest, hahead, -⟩ := hchain.turn (s := { continuation := cursor }) hanswer.symm
    refine ⟨_, walk_of_page hf n, length_calls _ _ _ _, fun j d hd => ?_⟩
    have hresult : d.result =
        .ok (withRefrain? ((ps ++ [last]).flatMap Page.items) last.items j) := by
      rw [List.flatMap_append, List.flatMap_singleton, withRefrain?_append, ← hahead]
      exact result_calls_of_chain hfetch n hrest state' hd
    refine ⟨hresult, fun hempty => ?_, fun hne => ?_⟩
    · rw [hresult, hempty, withRefrain?_nil]
    · rw [hresult]
      intro hend
      exact withRefrain?_ne_none _ hne j (Except.ok.inj hend)

/-- Two pages with cursors and an empty one. -/
def threePages : Option Continuation → Except Error (Page Nat)
  | none => .ok { items := [1, 2], continuation := some ⟨"a"⟩ }
  | some k =>
    if k.value = "a" then .ok { items := [3], continuation := some ⟨"b"⟩ } else .ok {}

theorem walk_chain_threePages :
    (∀ cursor state, ((fun cursor => pure (threePages cursor) : Fetch Unit Nat) cursor state).1 =
      threePages cursor) ∧
    Chain threePages none
      [{ items := [1, 2], continuation := some ⟨"a"⟩ },
        { items := [3], continuation := some ⟨"b"⟩ }]
      {} ∧
    ∃ w, walk (fun cursor => pure (threePages cursor) : Fetch Unit Nat) none 5 () = .ok w ∧
      ∀ (j : Nat) (d : Call Nat), w.calls[j]? = some d → d.result = .ok [1, 2, 3][j]? := by
  have hchain : Chain threePages none
      [{ items := [1, 2], continuation := some ⟨"a"⟩ },
        { items := [3], continuation := some ⟨"b"⟩ }] {} :=
    .more rfl (by simp) rfl (.more rfl (by simp) rfl (.last rfl rfl))
  have hfetch : ∀ cursor state,
      ((fun cursor => pure (threePages cursor) : Fetch Unit Nat) cursor state).1 =
        threePages cursor :=
    fun _ _ => rfl
  obtain ⟨w, hw, -, hresults⟩ := walk_chain hfetch hchain 5 ()
  exact ⟨hfetch, hchain, w, hw, fun j d hd => (hresults j d hd).2.1 rfl⟩

/-- A page that has a cursor, and one without that answers it. -/
def twoPages : Option Continuation → Except Error (Page Nat)
  | none => .ok { items := [1, 2], continuation := some ⟨"a"⟩ }
  | some _ => .ok { items := [3] }

/-- The records of a last page come over and over, although no cursor of the chain was used
before. -/
theorem walk_repeats_lastPage :
    Chain twoPages none [{ items := [1, 2], continuation := some ⟨"a"⟩ }] { items := [3] } ∧
    [none, some (⟨"a"⟩ : Continuation)].Nodup ∧
    (walk (fun cursor => pure (twoPages cursor)) none 5 ()).map
        (fun w => w.calls.map Call.result) =
      .ok [.ok (some 1), .ok (some 2), .ok (some 3), .ok (some 3), .ok (some 3)] :=
  ⟨.more rfl (by simp) rfl (.last rfl rfl), by decide, rfl⟩

end EntityHub.RecordStream
