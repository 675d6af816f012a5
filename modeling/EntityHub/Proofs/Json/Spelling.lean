import EntityHub.Proofs.Json.RoundTrip
import Mathlib.Data.List.Forall2
/-!
# How strings are spelled

`Spells text c` says in which ways a character may be written in a string of JSON, and
`IsString text s` what a string is. The reader takes a text for a string if and only if it is one
(`Raw.string?_eq_some_iff`).

The reader cuts a string into pieces before it takes them for characters, since one character may be
written as two units. So what spells a character is cut into pieces that are read as the character
(`Spells.exists_cut`), and pieces that are read as characters are what spells these
(`exists_spells_of_cut`).
-/

namespace EntityHub.Json

open Raw (Piece)

/-! ## The grammar -/

/-- A hexadecimal digit, of either case, and its value. -/
def IsHexDigit (c : Char) (n : Nat) : Prop := n < 16 ∧ (c = n.digitChar ∨ c = n.digitChar.toUpper)

instance (c : Char) (n : Nat) : Decidable (IsHexDigit c n) := inferInstanceAs (Decidable (_ ∧ _))

/-- Four hexadecimal digits and the number they stand for. -/
inductive Hex4 : List Char → Nat → Prop
  | digits {a b c d : Char} {i j k m : Nat} : IsHexDigit a i → IsHexDigit b j → IsHexDigit c k →
      IsHexDigit d m → Hex4 [a, b, c, d] (((i * 16 + j) * 16 + k) * 16 + m)

/-- The letters of the escapes, and the characters they stand for. -/
def letters : List (Char × Char) :=
  [('"', '"'), ('\\', '\\'), ('/', '/'), ('b', '\x08'), ('f', '\x0c'), ('n', '\n'), ('r', '\r'),
    ('t', '\t')]

/-- What stands for a character in a string: the character itself, a letter for it, its number, or
the two numbers of its surrogate pair. Half a pair alone is the number of no character. -/
inductive Spells : List Char → Char → Prop
  | plain {c : Char} : ' ' ≤ c → c ≠ '"' → c ≠ '\\' → Spells [c] c
  | letter {c d : Char} : (c, d) ∈ letters → Spells ['\\', c] d
  | unit {t : List Char} {c : Char} : Hex4 t c.toNat → Spells ('\\' :: 'u' :: t) c
  | pair {t u : List Char} {high low : Nat} {c : Char} : Hex4 t (0xD800 + high) →
      Hex4 u (0xDC00 + low) → high < 0x400 → low < 0x400 →
      c.toNat = 0x10000 + high * 0x400 + low → Spells ('\\' :: 'u' :: t ++ '\\' :: 'u' :: u) c

/-- A string: what spells its characters, in quotes. -/
def IsString (text : List Char) (s : String) : Prop :=
  ∃ spelled, List.Forall₂ Spells spelled s.toList ∧ text = '"' :: (spelled.flatten ++ ['"'])

/-! ## Escapes -/

theorem Raw.isHexDigit_of_lt :
    ∀ k < 128, ∀ n ∈ hexDigit? (.ofNat k), IsHexDigit (.ofNat k) n := by
  decide

theorem Raw.hexDigit?_digitChar :
    ∀ n < 16, hexDigit? n.digitChar = some n ∧ hexDigit? n.digitChar.toUpper = some n := by
  decide

theorem Raw.lt_of_hexDigit? {c : Char} {n : Nat} (h : hexDigit? c = some n) : c.toNat < 128 := by
  have hlt {d : Char} (hd : d.toNat < 128) (hc : c ≤ d) : c.toNat < 128 := Nat.lt_of_le_of_lt hc hd
  unfold hexDigit? at h
  split at h
  · next hc => exact Nat.lt_of_le_of_lt (Char.isDigit_iff_toNat.mp hc).2 (by decide)
  split at h
  · next hc => exact hlt (d := 'f') (by decide) hc.2
  split at h
  · next hc => exact hlt (d := 'F') (by decide) hc.2
  · cases h

theorem Raw.hexDigit?_eq_some_iff {c : Char} {n : Nat} :
    hexDigit? c = some n ↔ IsHexDigit c n := by
  constructor
  · intro h
    have hdigit := isHexDigit_of_lt c.toNat (lt_of_hexDigit? h) n
    rw [Char.ofNat_toNat] at hdigit
    exact hdigit h
  · rintro ⟨hn, rfl | rfl⟩
    · exact (hexDigit?_digitChar n hn).1
    · exact (hexDigit?_digitChar n hn).2

theorem Raw.hex4?_eq_some_iff {a b c d : Char} {n : Nat} :
    hex4? a b c d = some n ↔ Hex4 [a, b, c, d] n := by
  simp only [hex4?, Option.bind_eq_bind, Option.bind_eq_some_iff, hexDigit?_eq_some_iff]
  constructor
  · rintro ⟨i, hi, j, hj, k, hk, m, hm, h⟩
    obtain rfl := Option.some.inj h
    exact .digits hi hj hk hm
  · rintro ⟨hi, hj, hk, hm⟩
    exact ⟨_, hi, _, hj, _, hk, _, hm, rfl⟩

theorem Hex4.lt {t : List Char} {n : Nat} (h : Hex4 t n) : n < 0x10000 := by
  obtain ⟨⟨hi, -⟩, ⟨hj, -⟩, ⟨hk, -⟩, ⟨hm, -⟩⟩ := h
  omega

theorem Raw.escape?_eq_some_iff {c d : Char} : escape? c = some d ↔ (c, d) ∈ letters := by
  constructor
  · intro h
    unfold escape? at h
    split at h <;> cases h <;> decide
  · intro h
    simp only [letters, List.mem_cons, Prod.mk.injEq, List.not_mem_nil, or_false] at h
    rcases h with ⟨rfl, rfl⟩ | ⟨rfl, rfl⟩ | ⟨rfl, rfl⟩ | ⟨rfl, rfl⟩ | ⟨rfl, rfl⟩ | ⟨rfl, rfl⟩ |
      ⟨rfl, rfl⟩ | ⟨rfl, rfl⟩ <;> rfl

/-! ## Pieces -/

/-- What is cut out of a string as one piece. -/
inductive Cut : List Char → Piece → Prop
  | plain {c : Char} : ' ' ≤ c → c ≠ '"' → c ≠ '\\' → Cut [c] (.char c)
  | letter {c d : Char} : (c, d) ∈ letters → Cut ['\\', c] (.char d)
  | unit {t : List Char} {n : Nat} : Hex4 t n → Cut ('\\' :: 'u' :: t) (.unit n)

theorem Cut.pieces?_append {t : List Char} {p : Piece} (h : Cut t p) (s : Source) :
    Raw.pieces? (t.map some ++ s) = (Raw.pieces? s).map fun x => (p :: x.1, x.2) := by
  cases h with
  | plain hc hq hb => exact Raw.pieces?_plain hq hb hc s
  | letter hc => exact Raw.pieces?_letter (Raw.escape?_eq_some_iff.mpr hc) s
  | unit hn =>
    obtain ⟨hi, hj, hk, hm⟩ := hn
    exact Raw.pieces?_unit (Raw.hex4?_eq_some_iff.mpr (.digits hi hj hk hm)) s

theorem Raw.pieces?_flatten {parts : List (List Char)} {l : List Piece}
    (h : List.Forall₂ Cut parts l) (s : Source) :
    pieces? ((parts.flatten ++ ['"']).map some ++ s) = some (l, s) := by
  induction h with
  | nil => simp [pieces?]
  | cons hcut _ ih =>
    rw [List.flatten_cons, List.append_assoc, List.map_append, List.append_assoc,
      hcut.pieces?_append, ih]
    rfl

/-- A piece in front of pieces that are cut out up to a quote. -/
theorem exists_cut_cons {t : List Char} {p : Piece} {s rest : Source} {l : List Piece}
    (hcut : Cut t p)
    (h : ∃ parts, List.Forall₂ Cut parts l ∧ s = (parts.flatten ++ ['"']).map some ++ rest) :
    ∃ parts, List.Forall₂ Cut parts (p :: l) ∧
      t.map some ++ s = (parts.flatten ++ ['"']).map some ++ rest := by
  obtain ⟨parts, hparts, rfl⟩ := h
  exact ⟨t :: parts, .cons hcut hparts, by simp⟩

theorem Raw.exists_cut_of_pieces? {s rest : Source} {l : List Piece}
    (h : pieces? s = some (l, rest)) (hl : .illFormed ∉ l) :
    ∃ parts, List.Forall₂ Cut parts l ∧ s = (parts.flatten ++ ['"']).map some ++ rest := by
  fun_induction pieces? s generalizing l rest with
  | case1 s =>
    obtain ⟨rfl, rfl⟩ := Prod.mk.inj (Option.some.inj h)
    exact ⟨[], .nil, rfl⟩
  | case2 a b c d s ih =>
    simp only [Option.bind_eq_bind, Option.bind_eq_some_iff] at h
    obtain ⟨n, hn, ⟨l, s'⟩, hs, h⟩ := h
    obtain ⟨rfl, rfl⟩ := Prod.mk.inj (Option.some.inj h)
    have hcut := Cut.unit (hex4?_eq_some_iff.mp hn)
    exact exists_cut_cons hcut (ih hs (List.not_mem_of_not_mem_cons hl))
  | case3 c s _ ih =>
    simp only [Option.bind_eq_bind, Option.bind_eq_some_iff] at h
    obtain ⟨d, hd, ⟨l, s'⟩, hs, h⟩ := h
    obtain ⟨rfl, rfl⟩ := Prod.mk.inj (Option.some.inj h)
    have hcut := Cut.letter (escape?_eq_some_iff.mp hd)
    exact exists_cut_cons hcut (ih hs (List.not_mem_of_not_mem_cons hl))
  | case5 c s hq _ _ hb ih =>
    simp only [Option.bind_eq_bind, Option.bind_eq_some_iff] at h
    obtain ⟨_, hguard, ⟨l, s'⟩, hs, h⟩ := h
    obtain ⟨rfl, rfl⟩ := Prod.mk.inj (Option.some.inj h)
    have hcut := Cut.plain ((Option.guard_eq_some' _).mp hguard) hq hb
    exact exists_cut_cons hcut (ih hs (List.not_mem_of_not_mem_cons hl))
  | case6 s ih =>
    simp only [Option.bind_eq_bind, Option.bind_eq_some_iff] at h
    obtain ⟨⟨l, s'⟩, -, h⟩ := h
    obtain ⟨rfl, -⟩ := Prod.mk.inj (Option.some.inj h)
    exact absurd List.mem_cons_self hl
  | case4 | case7 => cases h

/-! ## Characters -/

theorem Raw.characters?_pair {high low : Nat} (hhigh : high < 0x400) (hlow : low < 0x400)
    (l : List Piece) : characters? (.unit (0xD800 + high) :: .unit (0xDC00 + low) :: l) =
      (characters? l).map (.ofNat (0x10000 + high * 0x400 + low) :: ·) := by
  rw [characters?, if_neg (by omega), if_pos (by omega), if_pos (by omega),
    Nat.add_sub_cancel_left, Nat.add_sub_cancel_left]

theorem Raw.illFormed_notMem {l : List Piece} {cs : List Char} (h : characters? l = some cs) :
    .illFormed ∉ l := by
  fun_induction characters? l generalizing cs with
  | case1 => exact List.not_mem_nil
  | case2 _ _ ih | case4 _ _ _ ih | case5 _ _ _ _ _ _ ih =>
    obtain ⟨cs, hcs, -⟩ := Option.map_eq_some_iff.mp h
    simpa using ih hcs
  | case3 | case6 | case7 | case8 => cases h

/-- What spells a character is cut into pieces that are read as this character. -/
theorem Spells.exists_cut {t : List Char} {c : Char} (h : Spells t c) :
    ∃ parts l, List.Forall₂ Cut parts l ∧ parts.flatten = t ∧
      ∀ m, Raw.characters? (l ++ m) = (Raw.characters? m).map (c :: ·) := by
  cases h with
  | plain hc hq hb => exact ⟨[[c]], _, .cons (.plain hc hq hb) .nil, rfl, fun _ => rfl⟩
  | letter hc => exact ⟨[_], _, .cons (.letter hc) .nil, by simp, fun _ => rfl⟩
  | unit hn =>
    refine ⟨[_], _, .cons (.unit hn) .nil, by simp, fun m => ?_⟩
    -- No character has the number of half a pair.
    have hrange : c.toNat < 0xD800 ∨ 0xDFFF < c.toNat := c.valid.imp_right And.left
    rw [List.singleton_append, Raw.characters?_unit hrange, Char.ofNat_toNat]
  | pair ht hu hhigh hlow hc =>
    refine ⟨[_, _], _, .cons (.unit ht) (.cons (.unit hu) .nil), by simp, fun m => ?_⟩
    rw [List.cons_append, List.singleton_append, Raw.characters?_pair hhigh hlow, ← hc,
      Char.ofNat_toNat]

/-- What spells characters is cut into pieces that are read as these. -/
theorem exists_cut_of_spells {spelled : List (List Char)} {cs : List Char}
    (h : List.Forall₂ Spells spelled cs) :
    ∃ parts l, List.Forall₂ Cut parts l ∧ parts.flatten = spelled.flatten ∧
      Raw.characters? l = some cs := by
  induction h with
  | nil => exact ⟨[], [], .nil, rfl, rfl⟩
  | cons hc _ ih =>
    obtain ⟨parts, l, hcut, hflatten, hread⟩ := hc.exists_cut
    obtain ⟨parts', l', hcut', hflatten', hread'⟩ := ih
    refine ⟨parts ++ parts', l ++ l', List.rel_append hcut hcut', ?_, ?_⟩
    · rw [List.flatten_append, List.flatten_cons, hflatten, hflatten']
    · rw [hread, hread']
      rfl

theorem exists_spells_cons {t u : List Char} {c : Char} {cs : List Char} (hc : Spells t c)
    (h : ∃ spelled, List.Forall₂ Spells spelled cs ∧ spelled.flatten = u) :
    ∃ spelled, List.Forall₂ Spells spelled (c :: cs) ∧ spelled.flatten = t ++ u := by
  obtain ⟨spelled, hspelled, rfl⟩ := h
  exact ⟨t :: spelled, .cons hc hspelled, List.flatten_cons⟩

theorem Cut.spells_char {t : List Char} {c : Char} (h : Cut t (.char c)) : Spells t c := by
  cases h with
  | plain hc hq hb => exact .plain hc hq hb
  | letter hc => exact .letter hc

theorem Cut.spells_unit {t : List Char} {n : Nat} (h : Cut t (.unit n))
    (hn : n < 0xD800 ∨ 0xDFFF < n) : Spells t (.ofNat n) := by
  cases h with
  | unit hn' =>
    have hlt := hn'.lt
    refine .unit ?_
    rwa [Utf8.toNat_ofNat (hn.imp_right fun h => ⟨h, by omega⟩)]

theorem Cut.spells_pair {t u : List Char} {n m : Nat} (ht : Cut t (.unit n)) (hu : Cut u (.unit m))
    (hn : 0xD800 ≤ n ∧ n < 0xDC00) (hm : 0xDC00 ≤ m ∧ m ≤ 0xDFFF) :
    Spells (t ++ u) (.ofNat (0x10000 + (n - 0xD800) * 0x400 + (m - 0xDC00))) := by
  obtain ⟨high, rfl⟩ := Nat.exists_eq_add_of_le hn.1
  obtain ⟨low, rfl⟩ := Nat.exists_eq_add_of_le hm.1
  rw [Nat.add_sub_cancel_left, Nat.add_sub_cancel_left]
  cases ht with
  | unit ht =>
    cases hu with
    | unit hu =>
      have hvalid : (0x10000 + high * 0x400 + low).isValidChar := .inr ⟨by omega, by omega⟩
      exact .pair ht hu (by omega) (by omega) (Utf8.toNat_ofNat hvalid)

/-- Pieces that are read as characters are what spells these. -/
theorem exists_spells_of_cut {parts : List (List Char)} {l : List Piece} {cs : List Char}
    (hcut : List.Forall₂ Cut parts l) (h : Raw.characters? l = some cs) :
    ∃ spelled, List.Forall₂ Spells spelled cs ∧ spelled.flatten = parts.flatten := by
  fun_induction Raw.characters? l generalizing parts cs with
  | case1 =>
    obtain rfl := Option.some.inj h
    obtain rfl := List.forall₂_nil_right_iff.mp hcut
    exact ⟨[], .nil, rfl⟩
  | case2 c l ih =>
    obtain ⟨t, parts, ht, hparts, rfl⟩ := List.forall₂_cons_right_iff.mp hcut
    obtain ⟨cs, hcs, rfl⟩ := Option.map_eq_some_iff.mp h
    exact exists_spells_cons ht.spells_char (ih hparts hcs)
  | case4 n l hn ih =>
    obtain ⟨t, parts, ht, hparts, rfl⟩ := List.forall₂_cons_right_iff.mp hcut
    obtain ⟨cs, hcs, rfl⟩ := Option.map_eq_some_iff.mp h
    exact exists_spells_cons (ht.spells_unit hn) (ih hparts hcs)
  | case5 n hn hhigh m l hm ih =>
    obtain ⟨t, _, ht, hrest, rfl⟩ := List.forall₂_cons_right_iff.mp hcut
    obtain ⟨u, parts, hu, hparts, rfl⟩ := List.forall₂_cons_right_iff.mp hrest
    obtain ⟨cs, hcs, rfl⟩ := Option.map_eq_some_iff.mp h
    have hspells := ht.spells_pair hu ⟨by omega, hhigh⟩ hm
    rw [List.flatten_cons, List.flatten_cons, ← List.append_assoc]
    exact exists_spells_cons hspells (ih hparts hcs)
  | case3 | case6 | case7 | case8 => cases h

/-- A string is read up to its closing quote as the characters that are spelled there. -/
theorem Raw.string?_eq_some_iff {s rest : Source} {str : String} :
    string? s = some (some str, rest) ↔ ∃ spelled, List.Forall₂ Spells spelled str.toList ∧
      s = (spelled.flatten ++ ['"']).map some ++ rest := by
  simp only [string?, Option.bind_eq_bind, Option.bind_eq_some_iff]
  constructor
  · rintro ⟨⟨l, s'⟩, hpieces, h⟩
    obtain ⟨hread, rfl⟩ := Prod.mk.inj (Option.some.inj h)
    obtain ⟨cs, hcs, rfl⟩ := Option.map_eq_some_iff.mp hread
    obtain ⟨parts, hcut, rfl⟩ := exists_cut_of_pieces? hpieces (illFormed_notMem hcs)
    obtain ⟨spelled, hspelled, hflatten⟩ := exists_spells_of_cut hcut hcs
    exact ⟨spelled, by rwa [String.toList_ofList], by rw [hflatten]⟩
  · rintro ⟨spelled, hspelled, rfl⟩
    obtain ⟨parts, l, hcut, hflatten, hread⟩ := exists_cut_of_spells hspelled
    refine ⟨(l, rest), ?_, ?_⟩
    · rw [← hflatten, pieces?_flatten hcut]
    · rw [hread, Option.map_some, String.ofList_toList]
      rfl

end EntityHub.Json
