import EntityHub.Text.Composition
import EntityHub.Text.Direction
import EntityHub.Text.Joining
import EntityHub.Text.Split
import EntityHub.Text.Utf8
import EntityHub.Url.Fault
import EntityHub.Url.NameMapping
import EntityHub.Url.Percent
import EntityHub.Url.Punycode
/-!
# Domain names

A domain name is compared in a normal form, without regard to case, width and composition, and it
travels in ASCII: a label with other characters is written in punycode behind `xn--`. A label in
punycode has to show one in its normal form, and any other label is only written in a form that shows
it again (`Label.decoded?_of_ofNormalForm?`).
-/

namespace EntityHub.DomainName

/-! ## Characters -/

/-- Whether an ASCII character cannot be in a domain name. A name in its normal form has no letters
in upper case either. -/
def isForbiddenAscii (c : Char) : Bool :=
  c ≤ ' ' || c = '\x7f' || Percent.among "%#/:<>?@[\\]^|" c || c.isUpper

/-- Whether a character travels as it is. -/
def isAscii (c : Char) : Bool := c.toNat < 0x80

/-- The form that all ways of writing a part of a name share, if it can be in a name. In ASCII they
differ by case alone. -/
def normalForm? (l : List Char) : Option (List Char) :=
  if l.all isAscii then some (l.map Char.toLower)
  else (l.mapM NameMapping.meaning?).map fun forms => Composition.compose forms.flatten

/-! ## Labels -/

/-- A label as it is shown and as it travels. -/
structure Label where
  shown : List Char
  ascii : List Char
deriving DecidableEq, Repr

namespace Label

/-- What stands in front of a label in punycode. -/
def marker : List Char := "xn--".toList

/-- The most characters that a label beyond ASCII may show. -/
def maxShown : Nat := 1000

/-- The most characters that may follow the marker. -/
def maxEncoded : Nat := 2000

/-- Whether a label can be shown: it is its own normal form and one label, does not begin with a
mark, and no joiner in it is idle. -/
def isWellFormed (l : List Char) : Bool :=
  normalForm? l = some l && !l.any (fun c => c = '.' || isForbiddenAscii c) &&
    !l.head?.any Combining.isMark && Joining.joinersInPlace l

/-- The label that characters behind the marker show. -/
def decoded? (l : List Char) : Option (List Char) := (Punycode.decode? l).filter isWellFormed

/-- The label of characters in their normal form. -/
def ofNormalForm? (l : List Char) : Option Label :=
  if marker.isPrefixOf l then
    let encoded := l.drop marker.length
    if encoded.all (fun c => isAscii c && !c.isUpper) && encoded.length ≤ maxEncoded &&
        encoded.getLast?.any (· ≠ '-') then
      (decoded? encoded).map (⟨·, l⟩)
    else none
  else if !isWellFormed l then none
  else if l.all isAscii then some ⟨l, l⟩
  else if maxShown < l.length then none
  else
    let encoded := Punycode.encode l
    if decoded? encoded = some l then some ⟨l, marker ++ encoded⟩ else none

/-- A label either travels as it is shown, or what travels behind the marker shows it. -/
theorem decoded?_of_ofNormalForm? {l : List Char} {label : Label} (h : ofNormalForm? l = some label) :
    label.ascii = label.shown ∨
      ∃ encoded, label.ascii = marker ++ encoded ∧ decoded? encoded = some label.shown := by
  simp only [ofNormalForm?] at h
  split at h
  · next hm =>
    split at h
    · obtain ⟨shown, hs, rfl⟩ := Option.map_eq_some_iff.mp h
      refine .inr ⟨l.drop marker.length, ?_, hs⟩
      obtain ⟨rest, rfl⟩ := List.isPrefixOf_iff_prefix.mp hm
      simp
    · simp at h
  · split at h
    · simp at h
    · split at h
      · obtain rfl := Option.some.inj h
        exact .inl rfl
      · split at h
        · simp at h
        · split at h
          · next hd =>
            obtain rfl := Option.some.inj h
            exact .inr ⟨_, rfl, hd⟩
          · simp at h

end Label

/-! ## Names -/

/-- The labels of a name. Some characters stand for the full stop between two of them. -/
def labels? (l : List Char) : Option (List Label) := do
  let parts ← (pieces (· = '.') l).mapM normalForm?
  let labels ← (parts.flatMap (pieces (· = '.'))).mapM Label.ofNormalForm?
  if Direction.agree (labels.map Label.shown) then some labels else none

/-- The domain name in ASCII that octets stand for. -/
def ofOctets? (l : List UInt8) : Except Url.Fault String :=
  match (Utf8.decode? l).bind fun text => labels? text.toList with
  | none => .error .invalidDomain
  | some labels =>
    match ['.'].intercalate (labels.map Label.ascii) with
    | [] => .error .emptyHost
    | name => .ok (.ofList name)

end EntityHub.DomainName
