import EntityHub.Proofs.Client.Endpoint
import EntityHub.Proofs.Url.Form
/-!
# Requests below an address

Where an operation sends, as seen from the address of the client (`Client.perform_below`). What stands
in front of the path of the address is kept by every request. The path of the operation follows the
path of the address, and its pairs are the only query, if the address has neither a query nor a
fragment. An address with one of them is accepted too. Then the path is taken up by what stands last in
the address, and every request goes to the path of the address itself.
-/

namespace EntityHub

/-- The URL is another one with a path added, and with these pairs as its query. -/
structure Url.Extends (u base : Url) (path : String) (pairs : List (String × String)) : Prop where
  scheme : u.scheme = base.scheme
  host : u.host = base.host
  port : u.port = base.port
  path : u.path.text = dropTrailingSlashes base.path.text ++ path
  query : Form.decode (u.query.getD "") = pairs

theorem Url.Path.text_append (ls ls' : List String) :
    (Path.segments (ls ++ ls')).text = (Path.segments ls).text ++ (Path.segments ls').text := by
  rw [← String.toList_inj, String.toList_append]
  simp only [toList_text_segments, List.flatMap_append]

/-- An address with a query or a fragment keeps its path, whatever is added. -/
theorem Url.path_below {u : Url} (h : ¬(u.query = none ∧ u.fragment = none)) (ls : List String) :
    (u.below ls).path = u.path := by
  obtain ⟨_, _, _, _, _, _, _ | q, _ | f⟩ := u
  · exact absurd ⟨rfl, rfl⟩ h
  · rfl
  · rfl
  · rfl

/-- What is added comes behind the front of a URL. -/
theorem Url.front_below (u : Url) (ls : List String) :
    (u.below ls).scheme = u.scheme ∧ (u.below ls).host = u.host ∧ (u.below ls).port = u.port := by
  obtain ⟨_, _, _, _, _, _, _ | q, _ | f⟩ := u <;> exact ⟨rfl, rfl, rfl⟩

namespace Client

variable {τ α : Type}

/-! ## Paths of operations -/

namespace Operation

/-- The name in the path of an operation, if there is one. -/
def name? : Operation α → Option String
  | .page dataset _ _ _ | .openFeed dataset _ _ _ => some dataset
  | .nextEntity feed _ _ => some feed.dataset
  | .accessRules id | .setAccessRules id _ => some id
  | .query _ | .openQuery _ _ | .nextResult _ _ | .clients | .addClient _ _ | .deleteClient _ => none

/-- The segments of the path of an operation. -/
def segments : Operation α → List String
  | .page dataset q _ _ | .openFeed dataset q _ _ =>
    Place.asked ⟨["datasets"], dataset, [q.endpoint]⟩
  | .nextEntity feed _ _ => Place.asked ⟨["datasets"], feed.dataset, [feed.query.endpoint]⟩
  | .query _ | .openQuery _ _ | .nextResult _ _ => ["query"]
  | .clients | .addClient _ _ | .deleteClient _ => ["security", "clients"]
  | .accessRules id | .setAccessRules id _ => Place.asked ⟨["security", "clients"], id, ["acl"]⟩

theorem text_segments (op : Operation α) : (Url.Path.segments op.segments).text = op.path := by
  rw [← String.toList_inj, Url.Path.toList_text_segments]
  cases op <;> simp [segments, path, Place.asked, DatasetQuery.path, Query.path, clientsPath,
    rulesPath]

/-- Segments stand for themselves, but for the dots that a name may be. -/
theorem settled_segments (op : Operation α) (hname : ∀ name ∈ op.name?, name ≠ "." ∧ name ≠ "..") :
    ∀ s ∈ op.segments, Url.Path.Settled s := by
  have hplace : ∀ p : Place, p.Regular → p.name ≠ "." ∧ p.name ≠ ".." →
      ∀ s ∈ p.asked, Url.Path.Settled s := by
    intro p hregular hdots s hs
    rcases List.mem_append.mp hs with hs | hs
    · exact hregular.front s hs
    · rcases List.mem_cons.mp hs with rfl | hs
      · exact Url.Path.settled_percentSegment hdots.1 hdots.2
      · exact hregular.back s hs
  cases op
  case page dataset q _ _ | openFeed dataset q _ _ =>
    exact hplace _ (regular_dataset dataset q) (hname dataset rfl)
  case nextEntity feed _ _ =>
    exact hplace _ (regular_dataset feed.dataset feed.query) (hname feed.dataset rfl)
  case accessRules id | setAccessRules id _ => exact hplace _ (regular_rules id) (hname id rfl)
  case query | openQuery | nextResult =>
    exact List.forall_mem_singleton.mpr
      (Url.Path.settled_of_all (by decide) (by decide) (by decide))
  case clients | addClient | deleteClient => exact (regular_rules "").front

theorem segments_ne_nil (op : Operation α) : op.segments ≠ [] := by
  cases op <;> simp [segments, Place.asked]

/-- There is more to the path of an operation than slashes. -/
theorem exists_mem_path (op : Operation α) : ∃ a ∈ op.path.toList, a ≠ '/' := by
  have hletter : 's' ∈ op.path.toList ∨ 'q' ∈ op.path.toList := by
    cases op <;> simp [path, DatasetQuery.path, Query.path, clientsPath, rulesPath]
  rcases hletter with h | h
  · exact ⟨_, h, by decide⟩
  · exact ⟨_, h, by decide⟩

end Operation

/-! ## URLs of requests -/

/-- The URL of a request that is made of a URL. -/
theorem url_requestOf (c : Client τ) (u : Url) (authorization : Option String)
    (draft : Http.Draft) : (c.requestOf u authorization draft).url =
      { u.sent with query := draft.pairs.elim u.query (Url.joinQuery u.query) } := by
  rw [requestOf, Http.Agent.request]
  cases draft.pairs <;> rfl

/-- The pairs of a draft come behind those of the URL. -/
theorem decode_requestOf (c : Client τ) (u : Url) (authorization : Option String)
    (draft : Http.Draft) :
    Form.decode ((c.requestOf u authorization draft).url.query.getD "") =
      Form.decode (u.query.getD "") ++ draft.pairs.getD [] := by
  rw [url_requestOf]
  cases draft.pairs with
  | none => exact (List.append_nil _).symm
  | some pairs => exact Form.decode_joinQuery u.query pairs

/-- A request extends the address if and only if the address ends in its path. -/
theorem extends_iff {c : Client τ} {address : String}
    (haddress : ClientOptions.serverUrl? address = .ok c.url) (op : Operation α)
    (hname : ∀ name ∈ op.name?, name ≠ "." ∧ name ≠ "..") {draft : Http.Draft}
    (hdraft : draft.pairs = op.pairs?) (later : Client τ) (authorization : Option String) :
    (later.requestOf (c.url.below op.segments) authorization draft).url.Extends c.url op.path
      (op.pairs?.getD []) ↔ c.url.query = none ∧ c.url.fragment = none := by
  have hpath := path_requestOf later (c.url.below op.segments) authorization draft
  constructor
  · intro h
    by_contra hlast
    have htext := h.path
    rw [hpath, Url.path_below hlast] at htext
    obtain ⟨a, hmem, ha⟩ := op.exists_mem_path
    exact dropTrailingSlashes_append_ne hmem ha htext.symm
  · rintro ⟨hquery, hfragment⟩
    have hbelow : c.url.below op.segments =
        { c.url with path := .segments (c.url.path.basis ++ op.segments) } := by
      have hsettled : ∀ s ∈ c.url.path.basis ++ op.segments, Url.Path.Settled s := fun s hs =>
        (List.mem_append.mp hs).elim (settled_basis haddress s) (op.settled_segments hname s)
      simp only [Url.below, hquery, hfragment, Url.Path.settle_of_settled hsettled]
    refine ⟨?_, ?_, ?_, ?_, ?_⟩
    · rw [url_requestOf, hbelow]
      rfl
    · rw [url_requestOf, hbelow]
      rfl
    · rw [url_requestOf, hbelow]
      rfl
    · rw [hpath, hbelow, Url.Path.text_append, text_basis haddress, op.text_segments]
    · rw [decode_requestOf, hbelow, hdraft, hquery]
      rfl

variable [TokenSource τ]

/-- The URL of an operation is the address with the path of the operation added, and nothing else
keeps it from being built than a host that is too long to be shown. Every request has scheme, host and
port of the address. It extends the address by the path and the pairs of the operation if and only if
the address has neither query nor fragment, and otherwise it goes to the path of the address. -/
theorem perform_below {address : String} {c : Client τ}
    (haddress : ClientOptions.serverUrl? address = .ok c.url) (now : Instant) (op : Operation α)
    (hname : ∀ name ∈ op.name?, name ≠ "." ∧ name ≠ "..") :
    (c.requestUrl op.path = if c.url.isOverlong then
        .error (.ofFault (.requestPathInvalid op.path) (.url .invalidDomain))
      else .ok (c.url.below op.segments)) ∧
    (∀ x, op.plan c = .settled x → op.perform now c = (x, c) ∧
      (c.url.isOverlong = true ∨ ∀ other : Client τ, op.plan other = .settled x)) ∧
    ∀ g, op.plan c = .send g →
      op.perform now c = g.deliver (c.tokens.ensure now).1 (c.authenticated now) ∧
      ∀ (later : Client τ) (authorization : Option String),
        let u := (later.requestOf g.url authorization g.draft).url
        u.scheme = c.url.scheme ∧ u.host = c.url.host ∧ u.port = c.url.port ∧
        (u.Extends c.url op.path (op.pairs?.getD []) ↔
          c.url.query = none ∧ c.url.fragment = none) ∧
        (¬(c.url.query = none ∧ c.url.fragment = none) → u.path = c.url.path) := by
  have hperform := perform_eq_carry now c op
  have hurl := requestUrl_eq haddress (fun s hs => (op.settled_segments hname s hs).plain)
    op.segments_ne_nil
  rw [op.text_segments] at hurl
  refine ⟨hurl, fun x hplan => ⟨by rw [hperform, hplan]; rfl, ?_⟩, fun g hplan =>
    ⟨by rw [hperform, hplan]; rfl, fun later authorization => ?_⟩⟩
  · rcases routed_plan (τ := τ) op with ⟨y, hy⟩ | ⟨purpose, draft, read, -, hp⟩
    · obtain rfl : y = x := Plan.settled.inj ((hy c).symm.trans hplan)
      exact .inr hy
    · refine .inl ?_
      by_contra hlong
      have hsend := (hp c).symm.trans hplan
      rw [toward, hurl, if_neg hlong] at hsend
      cases hsend
  · obtain ⟨hsend, hdraft⟩ := (routed_plan op).of_send hplan
    have hbelow : c.url.below op.segments = g.url := by
      rw [hurl] at hsend
      split at hsend
      · cases hsend
      · exact Except.ok.inj hsend
    rw [← hbelow]
    obtain ⟨hscheme, hhost, hport⟩ := c.url.front_below op.segments
    refine ⟨?_, ?_, ?_, extends_iff haddress op hname hdraft later authorization, fun hlast => ?_⟩
    · rw [url_requestOf]
      exact hscheme
    · rw [url_requestOf]
      exact hhost
    · rw [url_requestOf]
      exact hport
    · rw [path_requestOf, Url.path_below hlast]

/-- The rules of a client are asked for below an address without a path. If the address has a query,
they are asked for at the address itself. -/
theorem perform_below_loopback :
    ClientOptions.serverUrl? "http://[::1]/" = .ok loopback.url ∧
      (∀ name ∈ (Operation.accessRules "a").name?, name ≠ "." ∧ name ≠ "..") ∧
      (∃ g, (Operation.accessRules "a").plan loopback = .send g ∧
        ∀ (later : Client StaticSource) (authorization : Option String),
          (later.requestOf g.url authorization g.draft).url.Extends loopback.url
            "/security/clients/a/acl" []) ∧
      let c : Client StaticSource := { loopback with url.query := some "x=1" }
      ClientOptions.serverUrl? "http://[::1]/?x=1" = .ok c.url ∧
        ∃ g, (Operation.accessRules "a").plan c = .send g ∧
          ∀ (later : Client StaticSource) (authorization : Option String),
            (later.requestOf g.url authorization g.draft).url.path = .segments [""] := by
  have hname : ∀ name ∈ (Operation.accessRules "a").name?, name ≠ "." ∧ name ≠ ".." := by
    rintro name ⟨⟩
    decide
  have hsends : ∀ {c : Client StaticSource}, ((Operation.accessRules "a").plan c).sends = true →
      ∃ g, (Operation.accessRules "a").plan c = .send g := by
    intro c h
    rcases hplan : (Operation.accessRules "a").plan c with x | g <;> rw [hplan] at h
    · cases h
    · exact ⟨g, rfl⟩
  have hquery : ClientOptions.serverUrl? "http://[::1]/?x=1" =
      .ok { loopback.url with query := some "x=1" } :=
    eq_ok_of_toOption (by decide +kernel)
  obtain ⟨-, -, hplain⟩ :=
    perform_below serverUrl?_loopback .epoch (Operation.accessRules "a") hname
  obtain ⟨-, -, hasked⟩ := perform_below (c := { loopback with url.query := some "x=1" }) hquery
    .epoch (Operation.accessRules "a") hname
  refine ⟨serverUrl?_loopback, hname, ?_, hquery, ?_⟩
  · obtain ⟨g, hg⟩ := hsends (c := loopback) (by decide +kernel)
    refine ⟨g, hg, fun later authorization => ?_⟩
    obtain ⟨-, -, -, hextends, -⟩ := (hplain g hg).2 later authorization
    exact hextends.mpr ⟨rfl, rfl⟩
  · obtain ⟨g, hg⟩ := hsends (c := { loopback with url.query := some "x=1" }) (by decide +kernel)
    refine ⟨g, hg, fun later authorization => ?_⟩
    obtain ⟨-, -, -, -, hpath⟩ := (hasked g hg).2 later authorization
    exact hpath (by simp)

end Client

end EntityHub
