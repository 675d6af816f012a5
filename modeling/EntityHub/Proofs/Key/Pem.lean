import EntityHub.Key.Private
import EntityHub.Proofs.Codec.Der
import EntityHub.Proofs.Codec.Pem
import EntityHub.Proofs.Failure
/-!
# Keys read back

The PEM of a public key is read as the key, unless the modulus is too long to be accepted
(`PublicKey.ofPem?_pem`). That of a private key is read as the key, unless it is too long for a length
to be read (`PrivateKey.ofPem?_pem`).
-/

namespace EntityHub

open Der (Element sequence natural bitString octetString join isTag)

theorem isTag_rsaAlgorithm : isTag rsaAlgorithm.tag = true := Der.isTag_sequence _

theorem isTag_natural (n : Nat) : isTag (natural n).tag = true := by
  show isTag Der.integerTag = true
  decide

namespace PublicKey

/-- The two numbers of a key. -/
def numbers (k : PublicKey) : List Element := [natural k.modulus, natural k.exponent]

/-- What the octets of a key are made up of. -/
def parts (k : PublicKey) : List Element := [rsaAlgorithm, bitString (sequence k.numbers).octets]

/-- The numbers of a key are shorter than the key. -/
theorem length_numbers_lt (k : PublicKey) : (join k.numbers).length < (join k.parts).length := by
  have hbits : (sequence k.numbers).octets.length + 1 < (join k.parts).length :=
    Der.length_lt_of_mem (List.mem_cons_of_mem rsaAlgorithm (List.mem_singleton_self
      (bitString (sequence k.numbers).octets)))
  have hjoin := Der.length_join_lt k.numbers
  omega

/-- A key whose modulus is accepted is short. -/
theorem length_parts_lt (k : PublicKey) (h : k.modulus < 1 <<< 4096) :
    (join k.parts).length < 2 ^ 32 := by
  have hmodulus := BigEndian.length_octets_le_of_lt_shiftLeft (k := 512) h
  have hexponent := BigEndian.length_octets_le_of_lt_shiftLeft (k := 5)
    (Nat.lt_trans k.sound.2.1 (by decide))
  clear h
  have hfirst := Der.length_natural_le (n := k.modulus) (by omega)
  have hsecond := Der.length_natural_le (n := k.exponent) (by omega)
  have hnumbers : (sequence k.numbers).contents.length =
      (natural k.modulus).octets.length + (natural k.exponent).octets.length :=
    Der.length_join_pair _ _
  have hsequence := Der.length_octets_le_add (e := sequence k.numbers) (by omega)
  have hbits : (bitString (sequence k.numbers).octets).contents.length =
      (sequence k.numbers).octets.length + 1 := rfl
  have hstring := Der.length_octets_le_add (e := bitString (sequence k.numbers).octets) (by omega)
  have halgorithm : rsaAlgorithm.octets.length = 15 := by decide
  have hparts : (join k.parts).length = rsaAlgorithm.octets.length +
      (bitString (sequence k.numbers).octets).octets.length :=
    Der.length_join_pair _ _
  omega

/-- The octets of a key are read as the key, unless its modulus is too long. -/
theorem ofDer?_der (k : PublicKey) :
    ofDer? k.der = if k.modulus < 1 <<< 4096 then some k else none := by
  have htags : ∀ e ∈ k.parts, isTag e.tag = true := by
    simp only [parts, List.forall_mem_cons]
    exact ⟨isTag_rsaAlgorithm, (show isTag Der.bitStringTag = true by decide), by simp⟩
  have htags' : ∀ e ∈ k.numbers, isTag e.tag = true := by simp [numbers, isTag_natural]
  have hder : Der.element? k.der =
      if (join k.parts).length < 2 ^ 32 then some (sequence k.parts) else none :=
    Der.element?_sequence k.parts
  rw [ofDer?, hder]
  split
  · next hlength =>
    have hlength' := Nat.lt_trans k.length_numbers_lt hlength
    have hinner := Der.element?_sequence k.numbers
    rw [if_pos hlength'] at hinner
    have hparts : (sequence k.parts).items? =
        some [rsaAlgorithm, bitString (sequence k.numbers).octets] :=
      Der.items?_sequence htags hlength
    have hnumbers : (sequence k.numbers).items? =
        some [natural k.modulus, natural k.exponent] :=
      Der.items?_sequence htags' hlength'
    simp only [Option.bind_eq_bind, Option.bind_some, hparts, if_true, Der.bits?_bitString, hinner,
      hnumbers, Der.natural?_natural, ofNumbers?, dif_pos k.sound]
  · next hlength =>
    rw [if_neg fun h => hlength (k.length_parts_lt h)]
    rfl

/-- The PEM of a key is read as the key, unless its modulus is too long. -/
theorem ofPem?_pem (k : PublicKey) : ofPem? k.pem =
    if k.modulus < 1 <<< 4096 then .ok k else .error (.ofFault .publicKeyUnreadable .key) := by
  rw [ofPem?, pem, Pem.decode?_encode label (show k.der ≠ [] from Element.octets_ne_nil _),
    Option.bind_some, ofDer?_der]
  by_cases h : k.modulus < 1 <<< 4096
  · rw [if_pos h, if_pos h]
  · rw [if_neg h, if_neg h]

end PublicKey

namespace PrivateKey

variable {k : PrivateKey} {numbers : List Nat} {l : List UInt8}

/-- What the octets of a key are made up of. -/
def parts (l : List UInt8) : List Element := [natural 0, rsaAlgorithm, octetString l]

theorem isTag_of_mem_parts : ∀ e ∈ parts l, isTag e.tag = true := by
  simp only [parts, List.forall_mem_cons]
  exact ⟨isTag_natural 0, isTag_rsaAlgorithm, (show isTag Der.octetStringTag = true by decide),
    by simp⟩

/-- The numbers of a key are read as the key. -/
theorem ofBareDer?_bareDer? (h : k.numbers? = some numbers)
    (hlength : (join (numbers.map natural)).length < 2 ^ 32) :
    ofBareDer? (sequence (numbers.map natural)).octets = some k := by
  have htags : ∀ e ∈ numbers.map natural, isTag e.tag = true :=
    List.forall_mem_map.mpr fun n _ => isTag_natural n
  have hread : (numbers.map natural).mapM Element.natural? = some numbers := by
    rw [mapM_eq_some_iff, List.forall₂_map_left_iff, List.forall₂_same]
    exact fun n _ => Der.natural?_natural n
  have hkey : PublicKey.ofNumbers? k.publicKey.modulus k.publicKey.exponent = some k.publicKey :=
    dif_pos k.publicKey.sound
  rw [ofBareDer?, Der.element?_sequence, if_pos hlength]
  simp only [Option.bind_eq_bind, Option.bind_some, Der.items?_sequence htags hlength, hread]
  obtain ⟨inverse, -, rfl⟩ := Option.map_eq_some_iff.mp h
  simp only [ofNumbers?, Option.bind_eq_bind, hkey, Option.bind_some, dif_pos k.sound]

/-- The octets of a key are read as the key, unless they are too many. -/
theorem ofDer?_der (h : k.numbers? = some numbers)
    (hl : l = (sequence (numbers.map natural)).octets) :
    ofDer? (sequence (parts l)).octets =
      if (join (parts l)).length < 2 ^ 32 then some k else none := by
  rw [ofDer?, Der.element?_sequence]
  split
  · next hlength =>
    have hstring : (octetString l).contents.length < (join (parts l)).length :=
      Der.length_lt_of_mem (by simp [parts])
    have hjoin := Der.length_join_lt (numbers.map natural)
    rw [← hl] at hjoin
    have hbare := ofBareDer?_bareDer? h
      (Nat.lt_trans hjoin (Nat.lt_trans (show l.length < _ from hstring) hlength))
    rw [← hl] at hbare
    have hparts : (sequence (parts l)).items? = some [natural 0, rsaAlgorithm, octetString l] :=
      Der.items?_sequence isTag_of_mem_parts hlength
    have hversion : versionOf? [] = some 0 := rfl
    simp only [Option.bind_eq_bind, Option.bind_some, hparts, hversion, Option.isSome_some,
      Der.natural?_natural, and_self, if_true, Der.under?_octetString, hbare]
  · rfl

/-- Whether the octets of a key are few enough to be read. -/
def isShort (k : PrivateKey) : Bool :=
  k.bareDer?.any fun l => decide ((join (parts l)).length < 2 ^ 32)

/-- The PEM of a key is read as the key, unless it is too long. -/
theorem ofPem?_pem? {text : String} (h : k.pem? = .ok text) : ofPem? text =
    if k.isShort then .ok k else .error (.ofFault .privateKeyUnreadable .key) := by
  rcases hnumbers : k.numbers? with _ | numbers
  · rw [pem?, der?, bareDer?, hnumbers] at h
    cases h
  · have hbare : k.bareDer? = some (sequence (numbers.map natural)).octets := by
      rw [bareDer?, hnumbers]
      rfl
    have hder : k.der? = some (sequence (parts (sequence (numbers.map natural)).octets)).octets := by
      rw [der?, hbare]
      rfl
    rw [pem?, hder] at h
    obtain rfl := Except.ok.inj h
    have hother : ∀ l, Pem.after? (Pem.front bareLabel) (Pem.front label ++ l) = none := fun _ => rfl
    rw [ofPem?, Pem.decode?_encode label (Element.octets_ne_nil _), Option.bind_some,
      ofDer?_der hnumbers rfl, Pem.decode?_encode_of_after? hother, isShort, hbare, Option.any_some]
    by_cases hlength : (join (parts (sequence (numbers.map natural)).octets)).length < 2 ^ 32
    · rw [if_pos hlength, decide_eq_true hlength]
      rfl
    · rw [if_neg hlength, decide_eq_false hlength]
      rfl

end PrivateKey

end EntityHub
