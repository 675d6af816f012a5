import EntityHub.Url.Address
import EntityHub.Url.DomainName
/-!
# Hosts

The host of a URL is a domain name or an address. Only a scheme without rules of its own may name a
host in any other way.
-/

namespace EntityHub.Url

/-- A host. -/
inductive Host where
  | domain (name : String)
  | ipv4 (address : Nat)
  | ipv6 (pieces : List Nat)
  /-- A host that only its scheme understands. It may be empty. -/
  | custom (text : String)
deriving DecidableEq, Repr

namespace Host

/-- The host in a URL. -/
def text : Host → String
  | domain name => name
  | ipv4 address => Ipv4.text address
  | ipv6 pieces => "[" ++ Ipv6.text pieces ++ "]"
  | custom text => text

/-- The address of 128 bits after an opening bracket. -/
def ofBracketed? (l : List Char) : Except Fault Host :=
  match l.getLast?, Ipv6.ofText? l.dropLast with
  | some ']', some pieces => .ok (.ipv6 pieces)
  | _, _ => .error .invalidIpv6

/-- The host that a text names under a special scheme. -/
def special? : List Char → Except Fault Host
  | '[' :: l => ofBracketed? l
  | l => do
    let name ← DomainName.ofOctets? (Percent.decode (l.flatMap Utf8.encodeChar))
    if Ipv4.endsInNumber name.toList then
      match Ipv4.ofText? name.toList with
      | some address => return .ipv4 address
      | none => throw .invalidIpv4
    else return .domain name

/-- Whether a character cannot be in a host that only its scheme understands. -/
def isForbidden (c : Char) : Bool := Percent.among "\x00\t\n\r #/:<>?@[\\]^|" c

/-- The host that a text names under any other scheme. -/
def custom? : List Char → Except Fault Host
  | '[' :: l => ofBracketed? l
  | l =>
    if l.any isForbidden then .error .invalidDomainCharacter
    else .ok (.custom (.ofList (Percent.encode Percent.controlSet l)))

end Host

end EntityHub.Url
