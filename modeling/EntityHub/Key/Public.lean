import EntityHub.Codec.Der
import EntityHub.Codec.Hex
import EntityHub.Codec.Pem
import EntityHub.Error.Basic
import EntityHub.Hash.Sha256
/-!
# Public keys

An RSA public key is a modulus with an exponent. It is written as a block of PEM around the two
numbers and the name of their algorithm, and known for short by the digest of those octets.
-/

namespace EntityHub

/-- The name of the RSA algorithm, which has no parameters. -/
def rsaAlgorithm : Der.Element :=
  Der.sequence
    [⟨Der.objectTag, [0x2A, 0x86, 0x48, 0x86, 0xF7, 0x0D, 0x01, 0x01, 0x01]⟩, Der.null]

/-- What holds of the numbers of every public key. -/
abbrev PublicKey.Sound (modulus exponent : Nat) : Prop :=
  2 ≤ exponent ∧ exponent < 1 <<< 33 ∧ exponent % 2 = 1 ∧ exponent < modulus ∧ modulus % 2 = 1

/-- An RSA public key. -/
structure PublicKey where
  modulus : Nat
  exponent : Nat
  sound : PublicKey.Sound modulus exponent
deriving DecidableEq

namespace PublicKey

/-- The name of the block that holds a public key. -/
def label : String := "PUBLIC KEY"

/-- The key of two numbers, if they are sound. -/
def ofNumbers? (modulus exponent : Nat) : Option PublicKey :=
  if h : Sound modulus exponent then some ⟨modulus, exponent, h⟩ else none

/-- The number of octets of the modulus. -/
def size (k : PublicKey) : Nat := (BigEndian.octets k.modulus).length

/-- The bits of the octets of the modulus. -/
def bits (k : PublicKey) : Nat := 8 * k.size

/-! ## Encoding -/

/-- The octets of a key. -/
def der (k : PublicKey) : List UInt8 :=
  (Der.sequence
    [rsaAlgorithm,
      Der.bitString (Der.sequence [Der.natural k.modulus, Der.natural k.exponent]).octets]).octets

/-- The key that octets hold. One with more than 4096 bits is not accepted. -/
def ofDer? (l : List UInt8) : Option PublicKey := do
  let [algorithm, key] ← (← Der.element? l).items? | none
  if algorithm = rsaAlgorithm then
    let [modulus, exponent] ← (← Der.element? (← key.bits?)).items? | none
    let k ← ofNumbers? (← modulus.natural?) (← exponent.natural?)
    if k.modulus < 1 <<< 4096 then some k else none
  else none

/-- The key as PEM. -/
def pem (k : PublicKey) : String := Pem.encode label k.der

/-- The key that a text in PEM holds. -/
def ofPem? (text : String) : Except Error PublicKey :=
  match (Pem.decode? label text).bind ofDer? with
  | some k => .ok k
  | none => .error (.ofFault .publicKeyUnreadable .key)

/-! ## Short forms -/

/-- The digest of the octets of a key, in hexadecimal. -/
def fingerprint (k : PublicKey) : String := Hex.encode (Sha256.digest k.der)

/-- The key in diagnostic text. -/
def debug (k : PublicKey) : String :=
  Quoted.record "PublicKey"
    [("bits", toString k.bits), ("fingerprint", Quoted.text k.fingerprint)]

end PublicKey

end EntityHub
