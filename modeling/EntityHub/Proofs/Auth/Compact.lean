import EntityHub.Auth.Assertion
import EntityHub.Proofs.Codec.Base64
import EntityHub.Proofs.Text.Split
import EntityHub.Proofs.Wire
/-!
# Signed claims in three parts

A signed text is a header, the claims and a signature in base64 for URLs, with dots between them
(`Claims.Carries`). No character of the claims can break this form: a dot is no digit of base64, and
the JSON text of the claims is read as the claims whatever their texts are. So the claims come back
as they were (`Claims.exists_carries`), and one key signs no two claims with one text
(`Claims.sign?_injective`). `Claims.sign?_issuedAt` says this of an assertion for any subject and
audience, made at any instant.
-/

namespace EntityHub

open Json (Raw Value)

/-! ## Signatures -/

theorem BigEndian.octets_ne_nil {n : Nat} (h : n ≠ 0) : octets n ≠ [] := by
  rw [octets, if_neg h]
  exact List.append_ne_nil_of_right_ne_nil _ (List.cons_ne_nil _ _)

theorem PublicKey.size_ne_zero (k : PublicKey) : k.size ≠ 0 := by
  obtain ⟨-, -, -, hlt, -⟩ := k.sound
  exact fun h => BigEndian.octets_ne_nil (Nat.ne_zero_of_lt hlt) (List.eq_nil_of_length_eq_zero h)

/-- Of the signature nothing can be chosen: it is one power of the padded digest. -/
theorem PrivateKey.of_sign? {k : PrivateKey} {message octets : List UInt8}
    (h : k.sign? message = some octets) : octets.length = k.publicKey.size ∧
      BigEndian.value octets = (BigEndian.value (padding k.publicKey.size message)).pow k.exponent %
        k.publicKey.modulus := by
  have hverifies := verifies_of_sign? h
  rw [PublicKey.verifies, Bool.and_eq_true] at hverifies
  refine ⟨of_decide_eq_true hverifies.1, ?_⟩
  simp only [sign?] at h
  split at h
  · obtain rfl := Option.some.inj h
    rw [BigEndian.value_padded, Modular.powMod_eq]
  · cases h

namespace Claims

variable {c c' : Claims} {k : PrivateKey} {signed signed' : String}
  {header claims signature : List Char}

/-! ## Parts -/

/-- The JSON tree of a part. -/
def content? (part : List Char) : Option Raw := (Base64.decodeUrl? part).bind Raw.ofOctets?

theorem content?_segment {v : Value} (h : v.Readable) : content? (segment v) = some v.toRaw := by
  rw [content?, segment, Base64.decodeUrl?_encodeUrl, Option.bind_some, Raw.ofOctets?_encode_text h]

/-- A part in base64 for URLs that is not empty. -/
def IsPart (part : List Char) : Prop :=
  part ≠ [] ∧ ∀ a ∈ part, a.isAlphanum ∨ a = '-' ∨ a = '_'

theorem isPart_encodeUrl {l : List UInt8} (h : l ≠ []) : IsPart (Base64.encodeUrl l) :=
  ⟨Base64.encodeWith_ne_nil h, fun _ => Base64.of_mem_encodeUrl⟩

theorem isPart_segment {v : Value} (h : v.Readable) : IsPart (segment v) := by
  refine isPart_encodeUrl fun hnil => ?_
  have htree := Raw.ofOctets?_encode_text h
  rw [hnil] at htree
  cases htree

/-- No part holds a dot. -/
theorem IsPart.ne_dot {part : List Char} (h : IsPart part) :
    ∀ a ∈ part, decide (a = '.') = false := by
  intro a ha
  rw [decide_eq_false_iff_not]
  rintro rfl
  exact absurd (h.2 _ ha) (by decide)

theorem pieces_parts (hheader : IsPart header) (hclaims : IsPart claims)
    (hsignature : IsPart signature) :
    pieces (· = '.') (header ++ '.' :: claims ++ '.' :: signature) =
      [header, claims, signature] := by
  have hdot (x y : List Char) :
      pieces (· = '.') (x ++ '.' :: y) = pieces (· = '.') x ++ pieces (· = '.') y :=
    pieces_append_cons (p := (· = '.')) rfl x y
  rw [hdot, hdot, pieces_of_forall_not hheader.ne_dot, pieces_of_forall_not hclaims.ne_dot,
    pieces_of_forall_not hsignature.ne_dot]
  rfl

/-! ## Claims -/

theorem decoder_toRaw (c : Claims) (n : Nat) : decoder (n + 1) c.toValue.toRaw = some c := by
  have hread : decoder (n + 1) c.toValue.toRaw =
      (Json.Decoder.int64 n (Value.ofInt64 c.expires).toRaw).bind fun expires =>
        some { c with expires } := rfl
  rw [hread, Json.Decoder.int64_toRaw]
  rfl

/-- The seconds of every instant are far from the bounds of 64 bits. -/
theorem toInt_expires_issuedAt (subject audience : String) (now : Instant) (jti : String) :
    (issuedAt subject audience now jti).expires.toInt = now.seconds + 60 := by
  have hfirst := now.first_le
  have hlast := now.le_last
  have hseconds : now.seconds = now.nanos / nanosPerSecond :=
    Int.fdiv_eq_ediv_of_nonneg _ (by decide)
  simp only [firstNano, lastNano, nanosPerSecond] at hfirst hlast hseconds
  exact Int64.toInt_ofInt_of_le (by rw [lifetime]; omega) (by rw [lifetime]; omega)

theorem readable_header : Value.Readable Claims.header :=
  Value.readable_of_integral _ ⟨trivial, trivial, trivial⟩

theorem readable_toValue (c : Claims) : c.toValue.Readable :=
  Value.readable_of_integral _ ⟨trivial, trivial, trivial, trivial, trivial⟩

/-! ## Signed texts -/

/-- The text `signed` carries the claims `c` under a signature with the key `k`. -/
structure Carries (signed : String) (c : Claims) (k : PrivateKey)
    (header claims signature : List Char) : Prop where
  /-- There are exactly three parts. -/
  split : pieces (· = '.') signed.toList = [header, claims, signature]
  parts : ∀ part ∈ [header, claims, signature], IsPart part
  header_content : content? header =
    some (.object [(some "typ", .string (some "JWT")), (some "alg", .string (some "RS256"))])
  /-- The four claims and nothing else. -/
  claims_content : ∃ h, content? claims =
    some (.object [(some "jti", .string (some c.jti)), (some "sub", .string (some c.subject)),
      (some "aud", .string (some c.audience)),
      (some "exp", .number (some (.integer c.expires.toInt h)))])
  claims_read : (content? claims).bind (decoder Json.maxLevels) = some c
  verified : isSignedBy signed k.publicKey = true
  /-- The signature is one power of the padded digest of the parts before it, so nothing of it can
  be chosen. -/
  signature_value : ∃ octets, Base64.decodeUrl? signature = some octets ∧
    octets.length = k.publicKey.size ∧ BigEndian.value octets =
      (BigEndian.value (padding k.publicKey.size
        ((header ++ '.' :: claims).flatMap Utf8.encodeChar))).pow k.exponent % k.publicKey.modulus

/-- A text that is signed is made of its parts. -/
theorem exists_of_sign? (h : c.sign? k = .ok signed) :
    ∃ octets, k.sign? (c.signedPart.flatMap Utf8.encodeChar) = some octets ∧
      signed.toList = c.signedPart ++ '.' :: Base64.encodeUrl octets := by
  rw [sign?] at h
  split at h
  · cases h
  · split at h
    · next octets hoctets =>
      obtain rfl := Except.ok.inj h
      exact ⟨octets, hoctets, String.toList_ofList⟩
    · cases h

theorem parts?_of_split {octets : List UInt8} (h : pieces (· = '.') signed.toList =
    [segment Claims.header, segment c.toValue, Base64.encodeUrl octets]) :
    parts? signed = some (Claims.header.text, c.toValue.text, octets) := by
  simp only [parts?, h, segment, Base64.decodeUrl?_encodeUrl, Option.bind_some,
    Utf8.decode?_encode]
  rfl

theorem exists_carries (h : c.sign? k = .ok signed) :
    ∃ header claims signature, Carries signed c k header claims signature := by
  obtain ⟨octets, hoctets, hsigned⟩ := exists_of_sign? h
  obtain ⟨hlength, hvalue⟩ := PrivateKey.of_sign? hoctets
  have hnonempty : octets ≠ [] := fun hnil =>
    k.publicKey.size_ne_zero (by rw [← hlength, hnil, List.length_nil])
  have hheader := isPart_segment readable_header
  have hclaims := isPart_segment c.readable_toValue
  have hsignature := isPart_encodeUrl hnonempty
  have hsplit : pieces (· = '.') signed.toList =
      [segment Claims.header, segment c.toValue, Base64.encodeUrl octets] := by
    rw [hsigned]
    exact pieces_parts hheader hclaims hsignature
  have hcontent := content?_segment c.readable_toValue
  exact ⟨segment Claims.header, segment c.toValue, Base64.encodeUrl octets,
    { split := hsplit
      parts := List.forall_mem_cons.mpr ⟨hheader, List.forall_mem_cons.mpr
        ⟨hclaims, List.forall_mem_singleton.mpr hsignature⟩⟩
      header_content := content?_segment readable_header
      claims_content := ⟨_, hcontent⟩
      claims_read := by
        rw [hcontent]
        exact c.decoder_toRaw 126
      verified := by
        rw [isSignedBy, parts?_of_split hsplit, hsplit]
        exact PrivateKey.verifies_of_sign? hoctets
      signature_value := ⟨octets, Base64.decodeUrl?_encodeUrl octets, hlength, hvalue⟩ }⟩

/-- One key signs no two claims with one text. -/
theorem sign?_injective (h : c.sign? k = .ok signed) (h' : c'.sign? k = .ok signed) : c = c' := by
  obtain ⟨header, claims, signature, hcarries⟩ := exists_carries h
  obtain ⟨header', claims', signature', hcarries'⟩ := exists_carries h'
  have hclaims : claims = claims' := by
    have hsplit := hcarries.split.symm.trans hcarries'.split
    simp only [List.cons.injEq] at hsplit
    exact hsplit.2.1
  have hread := hcarries.claims_read
  rw [hclaims, hcarries'.claims_read] at hread
  exact (Option.some.inj hread).symm

/-- A signed assertion carries the subject and the audience as they were given, whatever their
characters, an identifier, and the second a minute after it was made; nothing else goes with them.
The same claims signed again with the key are the same text, and other claims are another. -/
theorem sign?_issuedAt {subject audience jti : String} {now : Instant}
    (h : (issuedAt subject audience now jti).sign? k = .ok signed) :
    let c := issuedAt subject audience now jti
    (c.jti = jti ∧ c.subject = subject ∧ c.audience = audience ∧
      c.expires.toInt = now.seconds + 60) ∧
    (∃ header claims signature, Carries signed c k header claims signature) ∧
    ∀ c' signed', c'.sign? k = .ok signed' → (signed' = signed ↔ c' = c) := by
  intro c
  refine ⟨⟨rfl, rfl, rfl, toInt_expires_issuedAt subject audience now jti⟩, exists_carries h,
    fun c' signed' h' => ⟨?_, ?_⟩⟩
  · rintro rfl
    exact sign?_injective h' h
  · rintro rfl
    exact Except.ok.inj (h'.symm.trans h)

/-- A key of 2330 bits, whose primes are the Mersenne primes of 127 and of 2203 bits. -/
def mersenneKey : PrivateKey where
  publicKey := ⟨((1 <<< 127) - 1) * ((1 <<< 2203) - 1), 5, by decide +kernel⟩
  exponent := (4 * (((1 <<< 127) - 2) * ((1 <<< 2203) - 2)) + 1) / 5
  prime1 := (1 <<< 127) - 1
  prime2 := (1 <<< 2203) - 1
  sound := by decide +kernel

/-- Neither a dot in the subject nor a quote in the audience gets in the way. -/
theorem sign?_issuedAt_quoted :
    let c := issuedAt "a.b" "\",\"é" .epoch "1"
    ∃ signed, c.sign? mersenneKey = .ok signed ∧ c.expires.toInt = 60 ∧
      (∃ header claims signature, Carries signed c mersenneKey header claims signature) ∧
      ∀ again, c.sign? mersenneKey = .ok again → again = signed := by
  intro c
  have hsigns : (c.sign? mersenneKey).isOk = true := by decide +kernel
  rcases hc : c.sign? mersenneKey with f | signed
  · rw [hc] at hsigns
    cases hsigns
  · obtain ⟨⟨-, -, -, hexpires⟩, hcarries, hagain⟩ := sign?_issuedAt hc
    exact ⟨signed, rfl, hexpires, hcarries, fun again h => (hagain c again (hc.trans h)).mpr rfl⟩

end Claims

end EntityHub
