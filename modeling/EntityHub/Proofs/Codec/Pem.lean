import EntityHub.Codec.Pem
import EntityHub.Proofs.Codec.Base64
import Mathlib.Data.List.Induction
/-!
# PEM read back

The octets of a block are found again in its text under the name of the block (`Pem.decode?_encode`),
and nothing under a name with another opening line (`Pem.decode?_encode_of_after?`).
-/

namespace EntityHub.Pem

variable {l : List Char}

/-- Neither of the characters at which lines end. -/
def Inner (c : Char) : Prop := c ≠ '\n' ∧ c ≠ '\r'

/-! ## Ends of lines -/

theorem beforeEol?_concat (h : l.getLast? ≠ some '\r') : beforeEol? (l ++ ['\n']) = some l := by
  rw [beforeEol?, List.reverse_append, List.reverse_singleton, List.singleton_append]
  cases l using List.reverseRecOn with
  | nil => rfl
  | append_singleton l c =>
    have hc : c ≠ '\r' := by simpa using h
    rw [List.reverse_append, List.reverse_singleton, List.singleton_append]
    split
    · next heq => exact absurd (List.cons.inj (List.cons.inj heq).2).1 hc
    · next heq =>
      rw [← (List.cons.inj heq).2]
      simp
    · next heq => cases heq
    · next hfeed _ => exact absurd rfl (hfeed _)

theorem beforeEol?_eq_none (h : ∀ c ∈ l.getLast?, Inner c) : beforeEol? l = none := by
  cases l using List.reverseRecOn with
  | nil => rfl
  | append_singleton l c =>
    rw [List.getLast?_concat] at h
    obtain ⟨hfeed, hreturn⟩ := h c rfl
    rw [beforeEol?, List.reverse_append, List.reverse_singleton, List.singleton_append]
    split <;> simp_all

/-! ## Lines -/

/-- Characters in lines are read again as the characters. -/
theorem exists_wrap (h : ∀ c ∈ l, Inner c) (hne : l ≠ []) :
    ∃ m, wrap l = m ++ ['\n'] ∧ m ≠ [] ∧ m.getLast? ≠ some '\r' ∧ unwrap? m = some l := by
  induction hn : l.length using Nat.strongRecOn generalizing l with
  | ind n ih =>
    by_cases hlong : lineWidth < l.length
    · have hwidth : 0 < lineWidth := by decide
      have hlength : (l.take lineWidth).length = lineWidth := List.length_take_of_le (Nat.le_of_lt hlong)
      have hdrop : l.drop lineWidth ≠ [] := by
        rw [← List.length_pos_iff, List.length_drop]
        omega
      obtain ⟨m, hwrap, hm, hlast, hread⟩ := ih (l.drop lineWidth).length
        (by rw [List.length_drop]; omega) (fun c hc => h c (List.mem_of_mem_drop hc)) hdrop rfl
      refine ⟨l.take lineWidth ++ '\n' :: m, ?_, by simp, ?_, ?_⟩
      · rw [wrap, if_pos hlong, hwrap]
        simp
      · rw [List.getLast?_append, List.getLast?_cons]
        simpa [List.getLast?_eq_some_getLast hm] using hlast
      · have heol : afterEol? ((l.take lineWidth ++ '\n' :: m).drop lineWidth) = some m := by
          rw [List.drop_left' hlength]
          rfl
        have htake : (l.take lineWidth ++ '\n' :: m).take lineWidth = l.take lineWidth :=
          List.take_left' hlength
        rw [unwrap?, if_pos (by rw [List.length_append, List.length_cons, hlength]; omega)]
        split
        · next rest hrest =>
          obtain rfl := Option.some.inj (hrest.symm.trans heol)
          rw [hread, htake, Option.map_some, List.take_append_drop]
        · next hnone =>
          rw [heol] at hnone
          cases hnone
    · have hinner : ∀ c ∈ l.getLast?, Inner c := fun c hc => h c (List.mem_of_getLast? hc)
      refine ⟨l, by rw [wrap, if_neg hlong], hne, fun hlast => (hinner _ hlast).2 rfl, ?_⟩
      rw [unwrap?, if_neg hlong, beforeEol?_eq_none hinner, Option.getD_none]

theorem inner_of_mem_encode {octets : List UInt8} {c : Char} (h : c ∈ Base64.encode octets) :
    Inner c := by
  have hdigits : ∀ n < 64, Base64.standard.digit n ≠ '\n' ∧ Base64.standard.digit n ≠ '\r' := by
    decide
  rcases Base64.mem_encodeWith h with ⟨n, hn, rfl⟩ | hpad
  · exact hdigits n hn
  · rw [List.mem_singleton.mp hpad]
    exact ⟨by decide, by decide⟩

/-! ## Blocks -/

theorem after?_append (start l : List Char) : after? start (start ++ l) = some l := by
  rw [after?, if_pos (List.isPrefixOf_iff_prefix.mpr (List.prefix_append start l)), List.drop_left]

theorem before?_append (stop l : List Char) : before? stop (l ++ stop) = some l := by
  have hlength : (l ++ stop).length - stop.length = l.length := by
    rw [List.length_append]
    omega
  rw [before?, if_pos (List.isSuffixOf_iff_suffix.mpr (List.suffix_append l stop)), hlength,
    List.take_left]

/-- What stands in front of the octets of a block. -/
def front (label : String) : List Char := opening ++ label.toList ++ dashes

theorem toList_encode (label : String) (octets : List UInt8) : (encode label octets).toList =
    front label ++ '\n' :: (wrap (Base64.encode octets) ++ closing label ++ ['\n']) := by
  rw [encode, String.toList_ofList, front]
  simp

theorem isPrefixOf_front (label : String) (l : List Char) :
    opening.isPrefixOf (front label ++ l) = true := by
  rw [front, List.isPrefixOf_iff_prefix, List.append_assoc, List.append_assoc]
  exact List.prefix_append _ _

theorem getLast?_closing (label : String) : (closing label).getLast? = some '-' := by
  rw [closing, String.toList_append, List.getLast?_append]
  rfl

/-- The octets of a block are read again under its name. -/
theorem decode?_encode (label : String) {octets : List UInt8} (hne : octets ≠ []) :
    decode? label (encode label octets) = some octets := by
  obtain ⟨m, hwrap, hm, hlast, hread⟩ :=
    exists_wrap (fun c => inner_of_mem_encode) (Base64.encodeWith_ne_nil hne)
  have hclosing : (m ++ ['\n'] ++ closing label).getLast? ≠ some '\r' := by
    rw [List.getLast?_append, getLast?_closing]
    simp
  have heol : ∀ l, afterEol? ('\n' :: l) = some l := fun _ => rfl
  have hempty : m.isEmpty = false := by simpa using hm
  have hfront : opening ++ label.toList ++ dashes = front label := rfl
  simp only [decode?, toList_encode, hfront, isPrefixOf_front, if_true, Option.bind_eq_bind,
    Option.bind_some, after?_append, heol]
  rw [hwrap]
  simp only [beforeEol?_concat hclosing, Option.getD_some, before?_append, Option.bind_some,
    beforeEol?_concat hlast, hempty, hread]
  exact Base64.decode?_encode octets

/-- Under a name with another opening line nothing is read. -/
theorem decode?_encode_of_after? {label other : String}
    (h : ∀ l, after? (front other) (front label ++ l) = none) (octets : List UInt8) :
    decode? other (encode label octets) = none := by
  have hfront : opening ++ other.toList ++ dashes = front other := rfl
  simp only [decode?, toList_encode, hfront, isPrefixOf_front, if_true, Option.bind_eq_bind,
    Option.bind_some, h, Option.bind_none]

end EntityHub.Pem
