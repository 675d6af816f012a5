import EntityHub.Key.Prime
import EntityHub.Key.Private
/-!
# Key pairs

A private key with a public key. The halves of a pair that is generated belong together; a pair
can also be made of any two halves.
-/

namespace EntityHub

/-- A private key together with a public key. -/
structure KeyPair where
  privateKey : PrivateKey
  publicKey : PublicKey
deriving DecidableEq

namespace KeyPair

/-- The public exponent of generated keys. -/
def generatedExponent : Nat := 65537

/-- Whether the public key is the one of the private key. -/
def Matches (p : KeyPair) : Prop := p.publicKey = p.privateKey.publicKey

instance (p : KeyPair) : Decidable p.Matches := inferInstanceAs (Decidable (_ = _))

/-- A private key with its own public half. -/
def ofPrivate (k : PrivateKey) : KeyPair := ⟨k, k.publicKey⟩

/-- The halves of `ofPrivate` belong together. -/
theorem ofPrivate_matches (k : PrivateKey) : (ofPrivate k).Matches := rfl

/-- A private key with a modulus of `bits` bits that follows from a seed. -/
def privateOfSeed? (seed bits : Nat) : Option PrivateKey := do
  let accept (n : Nat) : Bool := n % generatedExponent ≠ 1
  let p ← Prime.find? accept (2 * seed) (bits / 2)
  let q ← Prime.find? (fun n => accept n && n ≠ p) (2 * seed + 1) (bits - bits / 2)
  let d ← Modular.inverse? generatedExponent ((p - 1) * (q - 1))
  PrivateKey.ofNumbers? (p * q) generatedExponent d p q

/-- A new pair with a modulus of `bits` bits that follows from a seed. A modulus of 16 bits or fewer
has no room for the public exponent. -/
def generate? (seed bits : Nat) : Except Error KeyPair :=
  match if bits ≤ 16 then none else privateOfSeed? seed bits with
  | some k => .ok (ofPrivate k)
  | none => .error (.ofFault (.keyNotGenerated bits) .key)

/-- The pair in diagnostic text. -/
def debug (p : KeyPair) : String :=
  Quoted.record "KeyPair" [("private", p.privateKey.debug), ("public", p.publicKey.debug)]

end KeyPair

end EntityHub
