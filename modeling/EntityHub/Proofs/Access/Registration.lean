import EntityHub.Access.ClientInfo
import EntityHub.Proofs.Codec.Base64
import EntityHub.Proofs.Text.Utf8
import EntityHub.Proofs.Wire
/-!
# Registrations are read back

A client is read back from the text that it is written as, but for a key whose text is empty, which
is read as none. The other way round, `ClientInfo.KeyField` says what a field tells of the key, and
a field that is read is written again as it was: `ClientInfo.reads_registration`.

The key is a text in UTF-8 in base64. Each of the two codecs reads what it writes and nothing else
(`Base64.decodeWith?_eq_some_iff`, `Utf8.decode?_eq_some_iff`), so a field that is no canonical form
of a text is refused.
-/

namespace EntityHub.ClientInfo

open Json (Decoder Raw ReadBack Slot Value)

/-! ## Keys -/

theorem encodeKey_eq_iff {text encoded : String} :
    encodeKey text = encoded ↔ Base64.encode (Utf8.encode text) = encoded.toList := by
  rw [encodeKey, ← String.toList_inj, String.toList_ofList]

theorem encodeKey_ne_empty {text : String} (h : text ≠ "") : encodeKey text ≠ "" := by
  rw [Ne, encodeKey_eq_iff, String.toList_empty]
  refine Base64.encodeWith_ne_nil fun hnil => h ?_
  have hread := Utf8.decode?_encode text
  rw [hnil] at hread
  exact (Option.some.inj hread).symm

/-- A key text that is not empty is read as the text that is written as it. -/
theorem keyText?_eq_some_iff {encoded : String} (h : encoded ≠ "") {key : Option String} :
    keyText? encoded = some key ↔ ∃ text, key = some text ∧ encodeKey text = encoded := by
  have hread {octets : List UInt8} : Base64.decode? encoded.toList = some octets ↔
      Base64.encode octets = encoded.toList := Base64.decodeWith?_eq_some_iff Base64.told_standard
  simp only [keyText?, if_neg h, Option.map_eq_some_iff, Option.bind_eq_some_iff, hread,
    Utf8.decode?_eq_some_iff, encodeKey_eq_iff]
  constructor
  · rintro ⟨text, ⟨_, hencode, rfl⟩, rfl⟩
    exact ⟨text, rfl, hencode⟩
  · rintro ⟨text, rfl, hencode⟩
    exact ⟨text, ⟨_, hencode, rfl⟩, rfl⟩

-- Bits beyond the last octet, no padding, no UTF-8.
example : keyText? "QR==" = none ∧ keyText? "QQ" = none ∧ keyText? "/w==" = none := by decide

/-- What a field tells of the key: there is none, or it is the text that is written as the field. -/
inductive KeyField : Slot → Option String → Prop
  | omitted : KeyField .omitted none
  | cut : KeyField .cut none
  | null : KeyField (.given .null) none
  | empty : KeyField (.given (.string (some ""))) none
  | text {encoded text : String} : encoded ≠ "" → encodeKey text = encoded →
      KeyField (.given (.string (some encoded))) (some text)

theorem keyField_string_iff {encoded : String} (h : encoded ≠ "") {key : Option String} :
    KeyField (.given (.string (some encoded))) key ↔
      ∃ text, key = some text ∧ encodeKey text = encoded := by
  constructor
  · intro hkey
    cases hkey with
    | empty => exact absurd rfl h
    | text _ hencode => exact ⟨_, rfl, hencode⟩
  · rintro ⟨text, rfl, hencode⟩
    exact .text h hencode

/-- A field that tells that there is no key tells nothing else. -/
theorem keyField_iff_of_none {slot : Slot} (hslot : KeyField slot none) {key : Option String} :
    some none = some key ↔ KeyField slot key := by
  constructor
  · intro h
    obtain rfl := Option.some.inj h
    exact hslot
  · intro h
    cases hslot with
    | empty =>
      cases h with
      | empty => rfl
      | text hne => exact absurd rfl hne
    | omitted | cut | null =>
      cases h
      rfl

/-- A field is read as what it tells of the key. -/
theorem defaulted_keyDecoder_eq_some_iff {slot : Slot} {levels : Nat} {key : Option String} :
    slot.defaulted none keyDecoder levels = some key ↔ KeyField slot key := by
  match slot with
  | .omitted => exact keyField_iff_of_none .omitted
  | .cut => exact keyField_iff_of_none .cut
  | .given .null => exact keyField_iff_of_none .null
  | .given (.string (some encoded)) =>
    by_cases h : encoded = ""
    · subst h
      exact keyField_iff_of_none .empty
    · exact (keyText?_eq_some_iff h).trans (keyField_string_iff h).symm
  | .given (.string none) | .given (.bool _) | .given (.number _) | .given (.array _)
  | .given (.object _) =>
    constructor <;> intro h <;> cases h

/-! ## Clients -/

/-- What a tree tells of a client: its fields by their names or in order, of which only the
identifier must be there. -/
def Told (levels : Nat) (r : Raw) (c : ClientInfo) : Prop :=
  ∃ inner clientId publicKey deleted,
    Json.slots? ["ClientId", "PublicKey", "Deleted"] levels r =
      some (inner, [clientId, publicKey, deleted]) ∧
    clientId.required Decoder.string inner = some c.clientId ∧
    KeyField publicKey c.publicKey ∧
    deleted.defaulted false Decoder.bool inner = some c.deleted

/-- A client is read of a tree if and only if the tree tells of it. -/
theorem decoder_eq_some_iff {levels : Nat} {r : Raw} {c : ClientInfo} :
    decoder levels r = some c ↔ Told levels r c := by
  simp only [decoder, Option.bind_eq_bind, Option.bind_eq_some_iff]
  constructor
  · rintro ⟨⟨inner, slots⟩, hslots, h⟩
    split at h
    · next clientId publicKey deleted heq =>
      obtain rfl : slots = [clientId, publicKey, deleted] := heq
      simp only [Option.bind_eq_some_iff] at h
      obtain ⟨id, hid, key, hkey, flag, hflag, h⟩ := h
      obtain rfl := Option.some.inj h
      exact ⟨inner, clientId, publicKey, deleted, hslots, hid,
        defaulted_keyDecoder_eq_some_iff.mp hkey, hflag⟩
    · cases h
  · rintro ⟨inner, clientId, publicKey, deleted, hslots, hid, hkey, hflag⟩
    refine ⟨_, hslots, ?_⟩
    simp only [Option.bind_eq_some_iff]
    exact ⟨_, hid, _, defaulted_keyDecoder_eq_some_iff.mpr hkey, _, hflag, rfl⟩

/-- The tree that a client is written as tells of the client, without its key if that is empty. -/
theorem told_toRaw (levels : Nat) (c : ClientInfo) :
    Told (levels + 1) c.toValue.toRaw { c with publicKey := c.publicKey.filter (· ≠ "") } := by
  obtain ⟨id, key, flag⟩ := c
  refine ⟨levels, .given (.string (some id)), _, .given (.bool flag), rfl, rfl, ?_, rfl⟩
  rcases key with _ | text
  · exact .null
  · by_cases h : text = ""
    · subst h
      exact .empty
    · rw [Option.filter_some, if_pos (decide_eq_true h)]
      exact .text (encodeKey_ne_empty h) rfl

/-- A client is read back from its text, without its key if that is empty. A text is read as the
client that it tells of and refused if it tells of none. For the key, a text that is not empty must
be canonical base64 of a text in UTF-8; then it is written again for the client that was read. -/
theorem reads_registration :
    (∀ c : ClientInfo,
      ReadBack decoder c.toValue { c with publicKey := c.publicKey.filter (· ≠ "") }) ∧
    (∀ octets c, decoder.ofOctets? octets = some c ↔
      ∃ r, Raw.ofOctets? octets = some r ∧ Told Json.maxLevels r c) ∧
    (∀ text c, decoder.ofText? text = some c ↔
      ∃ r, Raw.ofText? text = some r ∧ Told Json.maxLevels r c) ∧
    ∀ encoded : String, encoded ≠ "" →
      ((∃ key, KeyField (.given (.string (some encoded))) key) ↔
        Base64.Canonical Base64.standard ['='] encoded.toList ∧
          ∀ octets, Base64.encode octets = encoded.toList → ∃ text, octets = Utf8.encode text) ∧
      ∀ c : ClientInfo, KeyField (.given (.string (some encoded))) c.publicKey →
        c.toValue.get? "PublicKey" = some (.string encoded) := by
  refine ⟨fun c => ?_, fun octets c => ?_, fun text c => ?_,
    fun encoded hne => ⟨?_, fun c hkey => ?_⟩⟩
  · have hintegral : c.toValue.Integral := by
      obtain ⟨id, key, flag⟩ := c
      cases key <;> exact ⟨trivial, trivial, trivial, trivial⟩
    exact Json.readBack_of_toRaw hintegral (decoder_eq_some_iff.mpr (told_toRaw _ c))
  · simp only [Decoder.ofOctets?, Option.bind_eq_bind, Option.bind_eq_some_iff, decoder_eq_some_iff]
  · simp only [Decoder.ofText?, Option.bind_eq_bind, Option.bind_eq_some_iff, decoder_eq_some_iff]
  · simp only [keyField_string_iff hne, encodeKey_eq_iff]
    constructor
    · rintro ⟨_, text, rfl, hencode⟩
      refine ⟨(Base64.canonical_iff Base64.told_standard).mpr ⟨_, hencode⟩,
        fun octets hoctets => ?_⟩
      exact ⟨text, Base64.encodeWith_injective Base64.told_standard (hoctets.trans hencode.symm)⟩
    · rintro ⟨hcanonical, hutf8⟩
      obtain ⟨octets, hoctets⟩ := (Base64.canonical_iff Base64.told_standard).mp hcanonical
      obtain ⟨text, rfl⟩ := hutf8 octets hoctets
      exact ⟨some text, text, rfl, hoctets⟩
  · obtain ⟨text, hsome, rfl⟩ := (keyField_string_iff hne).mp hkey
    obtain ⟨id, key, flag⟩ := c
    obtain rfl : key = some text := hsome
    rfl

/-- The key `key!` is read of its field, and the field is written again. -/
theorem reads_registration_key :
    let c : ClientInfo := { clientId := "c", publicKey := some "key!" }
    ("a2V5IQ==" ≠ "" ∧ Base64.Canonical Base64.standard ['='] "a2V5IQ==".toList) ∧
    KeyField (.given (.string (some "a2V5IQ=="))) c.publicKey ∧
    c.toValue.get? "PublicKey" = some (.string "a2V5IQ==") := by
  intro c
  have hne : "a2V5IQ==" ≠ "" := by decide
  have hkey : KeyField (.given (.string (some "a2V5IQ=="))) c.publicKey := .text hne (by decide)
  obtain ⟨hiff, hback⟩ := reads_registration.2.2.2 "a2V5IQ==" hne
  exact ⟨⟨hne, (hiff.mp ⟨_, hkey⟩).1⟩, hkey, hback c hkey⟩

end EntityHub.ClientInfo
