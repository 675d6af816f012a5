import EntityHub.Key.Private
/-!
# Signatures

RSA signatures over the SHA-256 digest of a message. The digest is put behind fixed octets to the
size of the modulus (`padding`), and a signature is that number raised to the private exponent. It
is one if the public exponent takes it back to the padded digest (`PublicKey.verifies`), and no other
is given out (`verifies_of_sign?`).
-/

namespace EntityHub

/-- The name of the digest. -/
def digestAlgorithm : Der.Element :=
  Der.sequence
    [⟨Der.objectTag, [0x60, 0x86, 0x48, 0x01, 0x65, 0x03, 0x04, 0x02, 0x01]⟩, Der.null]

/-- The digest of a message with the name of the digest, filled up in front to `size` octets. -/
def padding (size : Nat) (message : List UInt8) : List UInt8 :=
  let digest := (Der.sequence [digestAlgorithm, Der.octetString (Sha256.digest message)]).octets
  [0x00, 0x01] ++ List.replicate (size - digest.length - 3) 0xFF ++ 0x00 :: digest

/-- Whether octets are the signature of a message. -/
def PublicKey.verifies (k : PublicKey) (message signature : List UInt8) : Bool :=
  signature.length = k.size &&
    BigEndian.padded k.size (Modular.powMod (BigEndian.value signature) k.exponent k.modulus) ==
      padding k.size message

namespace PrivateKey

/-- Whether a key has the size of those that sign, from 2048 to 8192 bits. -/
def hasSigningSize (k : PrivateKey) : Bool :=
  1 <<< 2047 ≤ k.publicKey.modulus && k.publicKey.modulus < 1 <<< 8192

/-- The signature of a message, if the key can sign. That of a key whose primes are not prime need
not be one, and is not given out. -/
def sign? (k : PrivateKey) (message : List UInt8) : Option (List UInt8) :=
  let size := k.publicKey.size
  let signature := BigEndian.padded size
    (Modular.powMod (BigEndian.value (padding size message)) k.exponent k.publicKey.modulus)
  if k.hasSigningSize && k.publicKey.verifies message signature then some signature else none

/-- What is given out as a signature is one. -/
theorem verifies_of_sign? {k : PrivateKey} {message signature : List UInt8}
    (h : k.sign? message = some signature) : k.publicKey.verifies message signature = true := by
  simp only [sign?] at h
  split at h
  · next hs =>
    obtain rfl := Option.some.inj h
    exact (Bool.and_eq_true .. ▸ hs).2
  · simp at h

end PrivateKey

end EntityHub
