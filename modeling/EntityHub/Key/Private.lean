import EntityHub.Key.Modular
import EntityHub.Key.Public
/-!
# Private keys

An RSA private key is a public key with the exponent that undoes its own, and the two primes of
the modulus. A text in PEM holds it with the name of its algorithm or without. The numbers that
only speed up the use of a key are not kept: they are read past, and computed when a key is written.
-/

namespace EntityHub

/-- What holds of the numbers of every private key: the primes make up the modulus, and either
exponent undoes the other. -/
abbrev PrivateKey.Sound (k : PublicKey) (exponent prime1 prime2 : Nat) : Prop :=
  1 < prime1 ∧ 1 < prime2 ∧ prime1 * prime2 = k.modulus ∧
    exponent * k.exponent % (prime1 - 1) = 1 ∧ exponent * k.exponent % (prime2 - 1) = 1

/-- An RSA private key. -/
structure PrivateKey where
  publicKey : PublicKey
  exponent : Nat
  prime1 : Nat
  prime2 : Nat
  sound : PrivateKey.Sound publicKey exponent prime1 prime2
deriving DecidableEq

namespace PrivateKey

/-- The name of the block that holds a key with the name of its algorithm. -/
def label : String := "PRIVATE KEY"

/-- The name of the block that holds the numbers of a key alone. -/
def bareLabel : String := "RSA PRIVATE KEY"

/-- The key of its numbers, if they are sound. -/
def ofNumbers? (modulus publicExponent exponent prime1 prime2 : Nat) : Option PrivateKey := do
  let k ← PublicKey.ofNumbers? modulus publicExponent
  if h : Sound k exponent prime1 prime2 then some ⟨k, exponent, prime1, prime2, h⟩ else none

/-! ## Encoding -/

/-- The numbers of a key in the order in which they are written: a version, those of the key, the
exponent to each prime, and the inverse of the second prime to the first. Without the inverse a
key cannot be written. -/
def numbers? (k : PrivateKey) : Option (List Nat) :=
  (Modular.inverse? k.prime2 k.prime1).map fun inverse =>
    [0, k.publicKey.modulus, k.publicKey.exponent, k.exponent, k.prime1, k.prime2,
      k.exponent % (k.prime1 - 1), k.exponent % (k.prime2 - 1), inverse]

/-- The octets of the numbers of a key. -/
def bareDer? (k : PrivateKey) : Option (List UInt8) :=
  k.numbers?.map fun l => (Der.sequence (l.map Der.natural)).octets

/-- The octets of a key with the name of its algorithm. -/
def der? (k : PrivateKey) : Option (List UInt8) :=
  k.bareDer?.map fun l =>
    (Der.sequence [Der.natural 0, rsaAlgorithm, Der.octetString l]).octets

/-- The key whose numbers octets hold. -/
def ofBareDer? (l : List UInt8) : Option PrivateKey := do
  let items ← (← Der.element? l).items?
  match ← items.mapM Der.Element.natural? with
  | [0, modulus, publicExponent, exponent, prime1, prime2, _, _, _] =>
    ofNumbers? modulus publicExponent exponent prime1 prime2
  | _ => none

/-- Whether an element wraps one other element under a tag of the structure around it. -/
def isExtension (e : Der.Element) : Bool :=
  Der.isContextual e.tag && Der.isConstructed e.tag && (Der.element? e.contents).isSome

/-- The version that what follows a key calls for: attributes, the public key, and extensions. With
a public key it is 1. -/
def versionOf? (l : List Der.Element) : Option Nat :=
  match l.dropWhile fun e => Der.isContextual e.tag && Der.tagNumber e.tag == 0 with
  | [] => some 0
  | e :: l =>
    if Der.isContextual e.tag && Der.tagNumber e.tag == 1 then
      if e.tag = 0x81 ∧ e.contents.head? = some 0 ∧ l.all isExtension then some 1 else none
    else if (e :: l).all isExtension then some 0
    else none

/-- The key that octets hold with the name of its algorithm. -/
def ofDer? (l : List UInt8) : Option PrivateKey := do
  let version :: algorithm :: key :: rest ← (← Der.element? l).items? | none
  if algorithm = rsaAlgorithm ∧ (versionOf? rest).isSome ∧ version.natural? = versionOf? rest then
    ofBareDer? (← key.under? Der.octetStringTag)
  else none

/-- The key as PEM. -/
def pem? (k : PrivateKey) : Except Error String :=
  match k.der? with
  | some l => .ok (Pem.encode label l)
  | none => .error (.ofFault .privateKeyNotExportable .key)

/-- The key that a text in PEM holds, with the name of its algorithm or without. -/
def ofPem? (text : String) : Except Error PrivateKey :=
  match ((Pem.decode? label text).bind ofDer?).or ((Pem.decode? bareLabel text).bind ofBareDer?) with
  | some k => .ok k
  | none => .error (.ofFault .privateKeyUnreadable .key)

/-- The key in diagnostic text. It shows the public half. -/
def debug (k : PrivateKey) : String :=
  Quoted.openRecord "PrivateKey"
    [("bits", toString k.publicKey.bits), ("public_key", Quoted.text k.publicKey.fingerprint)]

end PrivateKey

end EntityHub
