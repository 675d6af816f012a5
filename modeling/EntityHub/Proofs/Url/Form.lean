import EntityHub.Proofs.Text.Split
import EntityHub.Proofs.Url.Percent
import EntityHub.Url.Query
/-!
# Forms that are read

The pairs of a form are read by `Form.decode`: they stand between `&`, the name before the first `=`,
and a `+` stands for a blank. Pairs that were written are read back (`Form.decode_encode`), and so are
pairs that were added to a query, behind the pairs that were there before (`Form.decode_joinQuery`).
-/

namespace EntityHub

/-- The octets of a text are read as the text, also where ill-formed ones would be passed over. -/
theorem Utf8.lossy_encode (s : String) : lossy (encode s) = s := by
  have hgetD : ((fun x : Option Char => x.getD '\uFFFD') ∘ some) = id := rfl
  rw [lossy, scan_encode, List.map_map, hgetD, List.map_id, String.ofList_toList]

namespace Form

/-! ## Reading -/

/-- The text of a name or a value. -/
def readPart (l : List Char) : String :=
  Utf8.lossy (Percent.decode
    ((l.map fun c => if c = '+' then ' ' else c).flatMap Utf8.encodeChar))

/-- A pair. Where nothing parts a value from the name, the value is empty. -/
def readPair (l : List Char) : String × String :=
  let (name, value) := cut (· = '=') l
  (readPart name, readPart (value.getD []))

/-- The pairs of a form. -/
def decode (s : String) : List (String × String) :=
  ((pieces (· = '&') s.toList).filter fun l => !l.isEmpty).map readPair

/-! ## What was written -/

theorem formSet_of_mem {c d : Char} (h : d ∈ Percent.encodeChar Percent.formSet c) :
    Percent.formSet d = false ∨ d = '%' := by
  by_cases hc : (Percent.isControl c || Percent.formSet c) = true
  · rw [Percent.encodeChar_of_encode hc] at h
    obtain ⟨b, -, hd⟩ := List.mem_flatMap.mp h
    have hall : "%0123456789ABCDEF".toList.all fun d => !Percent.formSet d || d = '%' := by decide
    have hcode := List.all_eq_true.mp hall d (List.contains_iff_mem.mp (Percent.mem_encodeOctet hd))
    simpa using hcode
  · have hkeep := Bool.eq_false_iff.mpr hc
    rw [Percent.encodeChar_of_keep hkeep, List.mem_singleton] at h
    rw [h]
    exact .inl (Bool.or_eq_false_iff.mp hkeep).2

/-- A character of a name or a value neither parts them nor ends a pair. -/
theorem ne_of_mem_part {s : String} {c : Char} (h : c ∈ part s) : c ≠ '&' ∧ c ≠ '=' := by
  obtain ⟨d, -, hc⟩ := List.mem_flatMap.mp h
  split at hc
  · rw [List.mem_singleton.mp hc]
    decide
  · rcases formSet_of_mem hc with hset | rfl
    · constructor <;> rintro rfl <;> exact absurd hset (by decide)
    · decide

/-- What was written of a name or a value is read back. -/
theorem readPart_part (s : String) : readPart (part s) = s := by
  have hmap : ∀ c, c ≠ ' ' → (Percent.encodeChar Percent.formSet c).map
      (fun c => if c = '+' then ' ' else c) = Percent.encodeChar Percent.formSet c := by
    intro c hc
    refine (List.map_congr_left fun d hd => if_neg ?_).trans (List.map_id' _)
    rcases formSet_of_mem hd with hset | rfl
    · rintro rfl
      exact absurd hset (by decide)
    · decide
  have hdecode : ∀ l : List Char, Percent.decode (((l.flatMap fun c =>
      if c = ' ' then ['+'] else Percent.encodeChar Percent.formSet c).map
        fun c => if c = '+' then ' ' else c).flatMap Utf8.encodeChar) = l.flatMap Utf8.encodeChar := by
    intro l
    induction l with
    | nil => rw [List.flatMap_nil, List.map_nil, List.flatMap_nil, Percent.decode]
    | cons c l ih =>
      rw [List.flatMap_cons, List.map_append, List.flatMap_append, List.flatMap_cons]
      split
      · next hc =>
        have hblank : (['+'].map fun c => if c = '+' then ' ' else c).flatMap Utf8.encodeChar =
            [0x20] := rfl
        rw [hblank, List.singleton_append, Percent.decode_cons_of_ne (by decide), ih, hc]
        rfl
      · next hc => rw [hmap c hc, Percent.decode_encodeChar (by decide), ih]
  rw [readPart, part, hdecode]
  exact Utf8.lossy_encode s

theorem readPair_pair (e : String × String) : readPair (pair e) = e := by
  have hcut := cut_append_cons (p := (· = '=')) (decide_eq_true rfl)
    (fun c (hc : c ∈ part e.1) => decide_eq_false (ne_of_mem_part hc).2) (part e.2)
  rw [readPair, pair, hcut]
  simp only [Option.getD_some, readPart_part]

/-- Pairs that were written are read back. -/
theorem decode_encode (l : List (String × String)) : decode (encode l) = l := by
  rcases l with _ | ⟨e, l⟩
  · rfl
  · have hpair : ∀ m ∈ (e :: l).map pair, ∀ c ∈ m, decide (c = '&') = false := by
      intro m hm c hc
      obtain ⟨d, -, rfl⟩ := List.mem_map.mp hm
      refine decide_eq_false ?_
      rcases List.mem_append.mp hc with hc | hc
      · exact (ne_of_mem_part hc).1
      · rcases List.mem_cons.mp hc with rfl | hc
        · decide
        · exact (ne_of_mem_part hc).1
    have hne : ∀ m ∈ (e :: l).map pair, (!m.isEmpty) = true := by
      intro m hm
      obtain ⟨d, -, rfl⟩ := List.mem_map.mp hm
      simp [pair]
    rw [decode, encode, String.toList_ofList,
      pieces_intercalate (p := (· = '&')) (decide_eq_true rfl) (by simp) hpair,
      List.filter_eq_self.mpr hne, List.map_map]
    exact (List.map_congr_left fun d _ => readPair_pair d).trans (List.map_id _)

/-! ## Queries -/

theorem decode_append (s t : String) : decode (s ++ "&" ++ t) = decode s ++ decode t := by
  have hsplit : (s ++ "&" ++ t).toList = s.toList ++ '&' :: t.toList := by simp
  rw [decode, hsplit, pieces_append_cons (p := (· = '&')) (decide_eq_true rfl),
    List.filter_append, List.map_append]
  rfl

/-- Something is read of whatever does not only end pairs. -/
theorem decode_ne_nil {s : String} {c : Char} (hc : c ∈ s.toList) (hne : c ≠ '&') :
    decode s ≠ [] := by
  have hpiece : ∀ l : List Char, c ∈ l → ∃ piece ∈ pieces (· = '&') l, c ∈ piece := by
    intro l hc
    induction l with
    | nil => cases hc
    | cons d l ih =>
      obtain ⟨piece, rest, heq⟩ := List.exists_cons_of_ne_nil (pieces_ne_nil (· = '&') l)
      rw [pieces]
      split
      · next hd =>
        have hc := (List.mem_cons.mp hc).resolve_left fun h => hne (h ▸ of_decide_eq_true hd)
        obtain ⟨m, hm, hcm⟩ := ih hc
        exact ⟨m, List.mem_cons_of_mem _ hm, hcm⟩
      · rw [heq] at ih ⊢
        simp only [List.mem_cons, exists_eq_or_imp] at hc ih ⊢
        tauto
  obtain ⟨piece, hmem, hcp⟩ := hpiece s.toList hc
  have hkept : piece ∈ (pieces (· = '&') s.toList).filter fun l => !l.isEmpty :=
    List.mem_filter.mpr ⟨hmem, by simpa using List.ne_nil_of_mem hcp⟩
  exact List.ne_nil_of_mem (List.mem_map_of_mem hkept)

/-- The pairs of a query to which others were added. -/
theorem decode_joinQuery (earlier : Option String) (pairs : List (String × String)) :
    decode ((Url.joinQuery earlier pairs).getD "") = decode (earlier.getD "") ++ pairs := by
  have hempty : decode "" = [] := rfl
  have hpairs := decode_encode pairs
  rw [Url.joinQuery]
  generalize earlier.getD "" = front at *
  generalize encode pairs = back at *
  by_cases hfront : front = "" <;> by_cases hback : back = ""
  · simp [hfront, ← hpairs, hback, hempty]
  · simp [hfront, ← hpairs, hback, hempty]
  · simp [hfront, ← hpairs, hback, hempty]
  · have hjoin : "&".intercalate [front, back] = front ++ "&" ++ back := rfl
    simp [hfront, hback, hjoin, decode_append, hpairs]

end Form

end EntityHub
