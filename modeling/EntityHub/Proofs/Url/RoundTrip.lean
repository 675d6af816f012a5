import EntityHub.Proofs.Url.Address
import EntityHub.Proofs.Url.Base
import EntityHub.Proofs.Url.Name
/-!
# URLs that are read again

The text of a URL under HTTP that was read is read as the URL (`Url.ofText?_text`). Only a host that
was put into punycode may have become too long for that (`Url.Host.isOverlong`).
-/

namespace EntityHub.Url

/-! ## Hosts -/

namespace Host

/-- Whether a host is a name with a label that is too long to be shown. -/
def isOverlong : Host → Bool
  | domain name => (pieces (· = '.') name.toList).any DomainName.Label.isOverlong
  | _ => false

/-- A host that is written in the characters of a name. -/
theorem special?_name {s : String}
    (h : ∀ c ∈ s.toList, DomainName.travels c = true ∨ c = '.') :
    special? s.toList = do
      let name ← DomainName.ofOctets? (Utf8.encode s)
      if Ipv4.endsInNumber name.toList then
        match Ipv4.ofText? name.toList with
        | some address => return .ipv4 address
        | none => throw .invalidIpv4
      else return .domain name := by
  have hplain : ∀ c ∈ s.toList, c.toNat < 0x80 ∧ c ≠ '%' := by
    intro c hc
    rcases h c hc with htravels | rfl
    · obtain ⟨hascii, -, hforbidden⟩ := DomainName.travels_iff.mp htravels
      exact ⟨hascii, DomainName.ne_of_isForbiddenAscii hforbidden (by decide)⟩
    · decide
  unfold special?
  split
  · next l hl =>
    rw [hl] at h
    rcases h '[' List.mem_cons_self with htravels | hdot
    · exact absurd htravels (by decide)
    · exact absurd hdot (by decide)
  · rw [Percent.decode_eq_self hplain]
    rfl

/-- The parts of an address are labels. -/
theorem travels_of_mem_octets {n : Nat} {part : List Char} (h : part ∈ Ipv4.octets n) :
    ∀ c ∈ part, DomainName.travels c = true := by
  intro c hc
  have hdigit := (Ipv4.isDigit_of_mem_octets h).2 c hc
  have hupper : c.isUpper = false := by
    refine Bool.eq_false_iff.mpr fun hupper => ?_
    have hle : c.toNat ≤ '9'.toNat := (Char.isDigit_iff_toNat.mp hdigit).2
    have hge : 'A'.toNat ≤ c.toNat := UInt32.le_iff_toNat_le.mp (of_decide_eq_true hupper).1
    exact absurd (hge.trans hle) (by decide)
  refine DomainName.Label.travels_of_isAlphanum ?_ hupper
  rw [isAlphanum_eq, hdigit, Bool.or_true]

/-- An address in four numbers is a name. -/
theorem ofOctets?_ipv4 (n : Nat) :
    DomainName.ofOctets? (Utf8.encode (Ipv4.text n)) = .ok (Ipv4.text n) := by
  have hne : Ipv4.octets n ≠ [] := by simp [Ipv4.octets]
  have hlabels : (Ipv4.octets n).mapM DomainName.Label.ofNormalForm? =
      some ((Ipv4.octets n).map fun part => ⟨part, part⟩) := by
    rw [mapM_eq_some_iff, List.forall₂_map_right_iff]
    refine List.forall₂_same.mpr fun part hpart => ?_
    refine DomainName.Label.ofNormalForm?_of_travels (travels_of_mem_octets hpart) ?_
    refine Bool.eq_false_iff.mpr fun hmarker => ?_
    have hx : 'x' ∈ part := (List.isPrefixOf_iff_prefix.mp hmarker).subset (by decide)
    exact absurd ((Ipv4.isDigit_of_mem_octets hpart).2 'x' hx) (by decide)
  have hshown : ((Ipv4.octets n).map fun part => (⟨part, part⟩ : DomainName.Label)).map
      DomainName.Label.shown = Ipv4.octets n := by
    rw [List.map_map]
    exact List.map_id _
  have hascii : ((Ipv4.octets n).map fun part => (⟨part, part⟩ : DomainName.Label)).map
      DomainName.Label.ascii = Ipv4.octets n := by
    rw [List.map_map]
    exact List.map_id _
  have hagree : Direction.agree (Ipv4.octets n) = true := Direction.agree_of_lt fun part hpart c hc =>
    (DomainName.travels_iff.mp (travels_of_mem_octets hpart c hc)).1
  rw [DomainName.ofOctets?, Utf8.decode?_encode, Option.bind_some, Ipv4.toList_text,
    DomainName.labels?_intercalate hne fun part hpart => travels_of_mem_octets hpart, hlabels,
    Option.bind_some, hshown, if_pos hagree]
  simp only [hascii]
  rw [← Ipv4.toList_text]
  split
  · next hnil => exact absurd hnil (Ipv4.text_ne_nil n)
  · rw [String.ofList_toList]

theorem ofBracketed?_text {l : List Nat} (hlength : l.length = 8) (hl : ∀ n ∈ l, n < 65536) :
    ofBracketed? ((Ipv6.text l).toList ++ [']']) = .ok (.ipv6 l) := by
  rw [ofBracketed?, List.getLast?_concat, List.dropLast_concat, Ipv6.ofText?_text hlength hl]
  rfl

/-- A host as it is read under a special scheme. -/
inductive Special : Host → Prop
  | ipv6 {pieces : List Nat} : pieces.length = 8 → (∀ n ∈ pieces, n < 65536) → Special (.ipv6 pieces)
  | ipv4 {n : Nat} : n < 2 ^ 32 → Special (.ipv4 n)
  | domain {octets : List UInt8} {name : String} : DomainName.ofOctets? octets = .ok name →
      Ipv4.endsInNumber name.toList = false → Special (.domain name)

theorem special_of_special? {l : List Char} {host : Host} (h : special? l = .ok host) :
    host.Special := by
  unfold special? at h
  split at h
  · unfold ofBracketed? at h
    split at h
    · next hread =>
      obtain rfl := Except.ok.inj h
      obtain ⟨hlength, hl⟩ := Ipv6.of_ofText? hread
      exact .ipv6 hlength hl
    · cases h
  · obtain ⟨name, hname, h⟩ := exists_of_bind_eq_ok h
    split at h
    · split at h
      · next haddress =>
        obtain rfl := Except.ok.inj h
        exact .ipv4 (Ipv4.lt_of_ofText? haddress)
      · cases h
    · next hend =>
      obtain rfl := Except.ok.inj h
      exact .domain hname (Bool.eq_false_iff.mpr hend)

theorem toList_text_ipv6 (pieces : List Nat) :
    (ipv6 pieces).text.toList = '[' :: ((Ipv6.text pieces).toList ++ [']']) := by
  simp [text]

/-- The text of a host is read as the host. -/
theorem Special.special?_text {host : Host} (h : host.Special) :
    special? host.text.toList = if host.isOverlong then .error .invalidDomain else .ok host := by
  cases h with
  | ipv6 hlength hl =>
    rw [toList_text_ipv6, special?, ofBracketed?_text hlength hl]
    rfl
  | @ipv4 n hn =>
    rw [text, special?_name fun c => DomainName.travels_of_mem_name (ofOctets?_ipv4 n),
      ofOctets?_ipv4]
    simp only [bind, Except.bind, Ipv4.endsInNumber_text, if_true, Ipv4.ofText?_text hn]
    rfl
  | domain hname hend =>
    rw [text, special?_name fun c => DomainName.travels_of_mem_name hname,
      DomainName.ofOctets?_encode hname, isOverlong]
    split
    · rfl
    · simp only [bind, Except.bind, hend]
      rfl

end Host

/-! ## Authorities -/

variable {u v : Url} {host : Host} {l : List Char}

/-- What stands in front of the path of a URL that was read. -/
structure Fronted (u : Url) (host : Host) : Prop where
  hosted : u.host = some host
  special : host.Special
  inner : host.text.toList ≠ [] ∧ ∀ c ∈ host.text.toList, isInner c = true
  username : ∀ c ∈ u.username.toList, (Percent.isControl c || Percent.userSet c) = false
  password : ∀ p ∈ u.password, p ≠ "" ∧
    ∀ c ∈ p.toList, (Percent.isControl c || Percent.userSet c) = false
  port : ∀ n ∈ u.port, n < 65536 ∧ some n ≠ defaultPort? u.scheme

theorem kept_of_mem_encodedUser {c : Char} (h : c ∈ (encodedUser l).toList) :
    (Percent.isControl c || Percent.userSet c) = false := by
  rw [encodedUser, String.toList_ofList] at h
  refine Percent.keep_of_mem_encode (fun d hd => ?_) h
  simpa using Percent.forall_isCode (p := fun c => !(Percent.isControl c || Percent.userSet c))
    (by decide) d hd

theorem encodedUser_eq_self {s : String}
    (h : ∀ c ∈ s.toList, (Percent.isControl c || Percent.userSet c) = false) :
    encodedUser s.toList = s := by
  rw [encodedUser, Percent.encode_eq_self h, String.ofList_toList]

theorem encodedUser_ne_empty (h : l ≠ []) : encodedUser l ≠ "" := by
  obtain ⟨c, l, rfl⟩ := List.exists_cons_of_ne_nil h
  intro heq
  have hnil := congrArg String.toList heq
  rw [encodedUser, String.toList_ofList, Percent.encode_cons] at hnil
  rcases Percent.encodeChar_eq Percent.userSet c with hc | ⟨m, hc⟩ <;> rw [hc] at hnil <;> cases hnil

theorem of_port? {scheme : String} {n : Nat} (h : port? scheme l = .ok (some n)) :
    n < 65536 ∧ some n ≠ defaultPort? scheme := by
  unfold port? at h
  split at h
  · split at h
    · next hlt =>
      have hsome := Except.ok.inj h
      obtain ⟨hcond, hn⟩ := Option.ite_none_left_eq_some.mp hsome
      obtain rfl := Option.some.inj hn
      rw [Bool.or_eq_true, not_or] at hcond
      exact ⟨hlt, by simpa using hcond.2⟩
    · cases h
  · cases h

theorem port?_toString {scheme : String} {n : Nat} (hn : n < 65536)
    (hdefault : some n ≠ defaultPort? scheme) : port? scheme (toString n).toList = .ok (some n) := by
  have hdigits : (toString n).toList = Nat.toDigits 10 n := Nat.toList_repr
  have hne : (Nat.toDigits 10 n).isEmpty = false := by simp
  rw [port?, hdigits, Ipv4.digits?_toDigits (by decide) (by decide)]
  simp [hn, hne, hdefault]

theorem fronted_of_ofText? {s : String} (h : ofText? s = .ok v)
    (hscheme : v.scheme = "http" ∨ v.scheme = "https") : ∃ host, v.Fronted host := by
  obtain ⟨rest, w, -, hspecial, hrest⟩ := exists_of_ofText? h hscheme
  obtain ⟨a, path, more, x, -, hx, rfl⟩ := exists_of_withHierarchy? hspecial hrest
  obtain ⟨host, port, -, hhost, hport, rfl⟩ := exists_of_withAuthority? hspecial hx
  refine ⟨host, rfl, Host.special_of_special? hhost, Host.isInner_of_special? hhost,
    fun c => kept_of_mem_encodedUser, fun p hp => ?_, fun n hn => ?_⟩
  · obtain ⟨password, hpassword, rfl⟩ := Option.map_eq_some_iff.mp hp
    have hne := (Option.filter_eq_some_iff.mp hpassword).2
    exact ⟨encodedUser_ne_empty (by simpa using hne), fun c => kept_of_mem_encodedUser⟩
  · obtain rfl : port = some n := hn
    rcases hl : a.port with _ | l <;> rw [hl] at hport
    · cases hport
    · exact of_port? hport

/-! ### Splitting -/

theorem splitCredentials_append {X : List Char} (h : '@' ∉ l) :
    splitCredentials (X ++ '@' :: l) = (some X, l) := by
  have hall : ∀ c ∈ l.reverse, decide (c ≠ '@') = true := by
    intro c hc
    refine decide_eq_true ?_
    rintro rfl
    exact h (List.mem_reverse.mp hc)
  have htake : ((X ++ '@' :: l).reverse.takeWhile (· ≠ '@')).reverse = l := by
    rw [List.reverse_append, List.reverse_cons, List.append_assoc,
      List.takeWhile_append_of_pos hall, List.singleton_append,
      List.takeWhile_cons_of_neg (by decide), List.append_nil, List.reverse_reverse]
  have hlength : (X ++ '@' :: l).length - l.length - 1 = X.length := by
    rw [List.length_append, List.length_cons]
    omega
  simp only [splitCredentials, htake, hlength, List.take_left]
  rw [if_neg]
  simp
  omega

/-- A port stands behind the first colon. -/
theorem splitPort_append (hl : ∀ c ∈ l, c ≠ ':' ∧ c ≠ '[') (port : Option (List Char)) :
    splitPort false (l ++ marked ':' port) = (l, port) := by
  induction l with
  | nil =>
    cases port with
    | none => rfl
    | some port => rfl
  | cons c l ih =>
    obtain ⟨⟨hcolon, hbracket⟩, hl⟩ := List.forall_mem_cons.mp hl
    rw [List.cons_append, splitPort]
    simp [hcolon, hbracket, ih hl]

/-- Within brackets a colon is like any other character. -/
theorem splitPort_bracketed (hl : ∀ c ∈ l, c ≠ ']') (m : List Char) :
    splitPort true (l ++ ']' :: m) = (l ++ ']' :: (splitPort false m).1, (splitPort false m).2) := by
  induction l with
  | nil =>
    rw [List.nil_append, splitPort]
    simp
  | cons c l ih =>
    obtain ⟨hc, hl⟩ := List.forall_mem_cons.mp hl
    rw [List.cons_append, splitPort]
    simp [hc, ih hl]

theorem splitPort_name {s : String} (hs : ∀ c ∈ s.toList, DomainName.travels c = true ∨ c = '.')
    (port : Option (List Char)) : splitPort false (s.toList ++ marked ':' port) = (s.toList, port) := by
  refine splitPort_append (fun c hc => ?_) port
  rcases hs c hc with htravels | rfl
  · obtain ⟨-, -, hforbidden⟩ := DomainName.travels_iff.mp htravels
    exact ⟨DomainName.ne_of_isForbiddenAscii hforbidden (by decide),
      DomainName.ne_of_isForbiddenAscii hforbidden (by decide)⟩
  · decide

/-- A host ends where its port begins. -/
theorem Host.Special.splitPort_text (h : host.Special) (port : Option (List Char)) :
    splitPort false (host.text.toList ++ marked ':' port) = (host.text.toList, port) := by
  cases h with
  | @ipv6 pieces =>
    have hl : ∀ c ∈ (Ipv6.text pieces).toList, c ≠ ']' := by
      rintro c hc rfl
      exact (Ipv6.mem_text hc).elim (absurd · (by decide)) (absurd · (by decide))
    have hport : splitPort false (marked ':' port) = ([], port) :=
      splitPort_append (l := []) (by simp) port
    rw [toList_text_ipv6, List.cons_append, List.append_assoc, List.singleton_append, splitPort]
    simp [splitPort_bracketed hl, hport]
  | @ipv4 n => exact splitPort_name (fun c => DomainName.travels_of_mem_name (ofOctets?_ipv4 n)) port
  | domain hname => exact splitPort_name (fun c => DomainName.travels_of_mem_name hname) port

/-! ### Texts -/

/-- The text of a user name and a password. -/
def user (u : Url) : List Char := u.username.toList ++ marked ':' (u.password.map String.toList)

/-- The text of a port. -/
def portText (u : Url) : Option (List Char) := u.port.map fun n => (toString n).toList

/-- The text of an authority. -/
def front (u : Url) (host : Host) : List Char :=
  u.credentials.toList ++ (host.text.toList ++ marked ':' u.portText)

theorem credentials_eq (u : Url) : u.credentials.toList =
    if u.username = "" ∧ u.password = none then [] else u.user ++ ['@'] := by
  unfold credentials
  by_cases hname : u.username = "" <;> rcases hpassword : u.password with _ | p <;>
    simp [user, marked, hname, hpassword]

theorem mem_portText {c : Char} {digits : List Char} (hdigits : digits ∈ u.portText)
    (hc : c ∈ digits) : isInner c = true := by
  obtain ⟨n, -, rfl⟩ := Option.map_eq_some_iff.mp hdigits
  exact isInner_of_mem_toString hc

namespace Fronted

variable (h : u.Fronted host)

include h

theorem toList_authority : u.authority.toList = "//".toList ++ u.front host := by
  rw [authority, h.hosted, front, portText]
  rcases u.port with _ | n <;> simp [marked]

/-- What stands behind the user is inner. -/
theorem isInner_of_mem {c : Char} (hc : c ∈ host.text.toList ++ marked ':' u.portText) :
    isInner c = true := by
  rcases List.mem_append.mp hc with hc | hc
  · exact h.inner.2 c hc
  · rcases mem_marked hc with rfl | ⟨digits, hdigits, hc⟩
    · decide
    · exact mem_portText hdigits hc

theorem isFront_of_mem_user {c : Char} (hc : c ∈ u.user) : isFront c = true := by
  have hkept : ∀ {s : String}, (∀ c ∈ s.toList, (Percent.isControl c || Percent.userSet c) = false) →
      c ∈ s.toList → isFront c = true := fun hs hc =>
    isFront_of_mem_encode (by rw [Percent.encode_eq_self hs]; exact hc)
  rcases List.mem_append.mp hc with hc | hc
  · exact hkept h.username hc
  · rcases mem_marked hc with rfl | ⟨p, hp, hc⟩
    · decide
    · obtain ⟨password, hpassword, rfl⟩ := Option.map_eq_some_iff.mp hp
      exact hkept (h.password password hpassword).2 hc

theorem isFront_of_mem_front {c : Char} (hc : c ∈ u.front host) : isFront c = true := by
  rcases List.mem_append.mp hc with hc | hc
  · rw [credentials_eq] at hc
    split at hc
    · cases hc
    · rcases List.mem_append.mp hc with hc | hc
      · exact h.isFront_of_mem_user hc
      · rw [List.mem_singleton.mp hc]
        decide
  · exact isFront_of_isInner (h.isInner_of_mem hc)

theorem front_ne_nil : u.front host ≠ [] :=
  List.append_ne_nil_of_right_ne_nil _ (List.append_ne_nil_of_left_ne_nil h.inner.1 _)

theorem splitCredentials_front : splitCredentials (u.front host) =
    (if u.username = "" ∧ u.password = none then none else some u.user,
      host.text.toList ++ marked ':' u.portText) := by
  have hat : '@' ∉ host.text.toList ++ marked ':' u.portText := fun hmem =>
    absurd (h.isInner_of_mem hmem) (by decide)
  rw [front, credentials_eq]
  split
  · exact splitCredentials_of_notMem hat
  · rw [List.append_assoc, List.singleton_append]
    exact splitCredentials_append hat

/-- The parts of an authority are found in its text. -/
theorem splitAuthority_front : (splitAuthority true (u.front host)).1 =
    ⟨if u.username = "" ∧ u.password = none then none else some u.user, host.text.toList,
      u.portText⟩ := by
  have hself : (u.front host).takeWhile (fun c => !(c = '/' || (true && c = '\\'))) =
      u.front host := by
    refine List.takeWhile_eq_self_iff.mpr fun c hc => ?_
    simp [no_slash_of_isFront (h.isFront_of_mem_front hc)]
  have hport : (u.portText.map fun p => p.takeWhile (· ≠ '\\')) = u.portText := by
    refine (Option.map_congr fun digits hdigits => ?_).trans Option.map_id'
    refine List.takeWhile_eq_self_iff.mpr fun c hc => decide_eq_true ?_
    exact (no_slash_of_isInner (mem_portText hdigits hc)).2
  simp only [splitAuthority, hself, h.splitCredentials_front, h.special.splitPort_text, hport]

/-- User name and password are found in their text. -/
theorem cut_user : cut (· = ':')
    ((if u.username = "" ∧ u.password = none then none else some u.user).getD []) =
      (u.username.toList, u.password.map String.toList) := by
  have hcolon : ∀ c ∈ u.username.toList, c ≠ ':' := fun c hc =>
    ne_of_kept (h.username c hc) (by decide)
  split
  · next hnone =>
    rw [hnone.1, hnone.2]
    rfl
  · exact cut_append_marked hcolon _

theorem encodedUser_password : ((u.password.map String.toList).filter
    fun (p : List Char) => !p.isEmpty).map encodedUser = u.password := by
  rcases hpassword : u.password with _ | p
  · rfl
  · obtain ⟨hne, hkept⟩ := h.password p hpassword
    have htext : p.toList.isEmpty = false := by simpa using hne
    rw [Option.map_some, Option.filter_some, htext]
    exact congrArg some (encodedUser_eq_self hkept)

/-- The text of an authority is read as the authority. -/
theorem withAuthority?_front {v : Url} (hscheme : v.scheme = u.scheme)
    (hspecial : isSpecial v.scheme = true) (more : Bool) :
    v.withAuthority? more (splitAuthority true (u.front host)).1 =
      if host.isOverlong then .error .invalidDomain else
        .ok { v with
          username := u.username, password := u.password, host := u.host, port := u.port } := by
  have hempty : host.text.toList.isEmpty = false := by simpa using h.inner.1
  have hport : u.portText.elim (.ok none) (port? v.scheme) = .ok u.port := by
    rw [portText]
    rcases hn : u.port with _ | n
    · rfl
    · obtain ⟨hlt, hdefault⟩ := h.port n hn
      exact hscheme ▸ port?_toString hlt hdefault
  rw [withAuthority?_special hspecial, h.splitAuthority_front]
  simp only [hempty, h.special.special?_text, hport, h.cut_user, h.encodedUser_password,
    encodedUser_eq_self h.username, h.hosted]
  rw [if_neg Bool.false_ne_true]
  split <;> rfl

end Fronted

/-! ## URLs -/

/-- Whether the host of a URL is too long to be shown. -/
def isOverlong (u : Url) : Bool := u.host.any Host.isOverlong

/-- The text of a URL that was read is read as the URL, unless its host has become too long. -/
theorem ofText?_text {s : String} (h : ofText? s = .ok u)
    (hscheme : u.scheme = "http" ∨ u.scheme = "https") :
    ofText? u.text = if u.isOverlong then .error .invalidDomain else .ok u := by
  obtain ⟨host, hfronted⟩ := fronted_of_ofText? h hscheme
  obtain ⟨segments, hpath, hne, hsettled⟩ := settled_of_ofText? h hscheme
  obtain ⟨hquery, hfragment⟩ := kept_of_ofText? h hscheme
  have hwritten : Written u.text u.scheme (u.front host) segments (u.query.map String.toList)
      (u.fragment.map String.toList) := by
    rw [Written, text, ← Path.toList_text_segments, ← hpath]
    rcases u.query with _ | q <;> rcases u.fragment with _ | f <;>
      simp [hfronted.toList_authority, marked]
  rw [ofText?_kept hscheme hfronted.front_ne_nil (fun c => hfronted.isFront_of_mem_front)
    (fun t ht => (hsettled t ht).plain) hne hquery hfragment hwritten,
    hfronted.withAuthority?_front (v := { scheme := u.scheme, path := .segments [] }) rfl
      (isSpecial_of_http hscheme), Path.settle_of_settled hsettled, ← hpath, isOverlong,
    hfronted.hosted, Option.any_some]
  split
  · rfl
  · rw [← hfronted.hosted]
    rfl

end EntityHub.Url
