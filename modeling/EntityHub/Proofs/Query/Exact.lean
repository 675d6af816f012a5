import EntityHub.Proofs.Query.Traversal
/-!
# Cursors are exact

Lists of continuations and the cursors that are made of them stand for one another, and a text that
is no array of strings is refused before anything is sent. A traversal is over at a cursor that
carries no continuation, and at no other: `Query.cursor_exact`.
-/

namespace EntityHub.Query

open Json (StringArray)

variable {τ : Type} [TokenSource τ] {q : Query} {now : Instant} {c : Client τ} {k : Continuation}
  {l : List String}

/-- A traversal is over at a cursor: what follows is an empty page without a cursor of its own, and
nothing is sent for it. -/
def Over (q : Query) (now : Instant) (c : Client τ) (k : Continuation) : Prop :=
  q.fetch now (some k) c = (.ok {}, c)

/-- Nothing is sent for a cursor that is refused. -/
theorem fetch_of_refused {e : Error} (hk : decodeCursor k = .error e) (q : Query) (now : Instant)
    (c : Client τ) : q.fetch now (some k) c = (.error e, c) := by
  rw [fetch_eq, fetchAt, run_bind, run_ofExcept, hk]

/-- Whatever a cursor carries is posted, if it carries anything. -/
theorem over_or_posted (hk : decodeCursor k = .ok l) (q : Query) (now : Instant) (c : Client τ) :
    l = [] ∧ q.Over now c k ∨
      l ≠ [] ∧ ¬q.Over now c k ∧ q.Posted now l c (q.fetch now (some k) c).2 := by
  rcases l with _ | ⟨s, l⟩
  · exact .inl ⟨rfl, (fetch_some hk q now c).trans (if_pos rfl)⟩
  · have hcarries : Carries (some k) (some (s :: l)) := congrArg some hk
    obtain ⟨next, hask⟩ := ask_fetch hcarries q now c
    refine .inr ⟨List.cons_ne_nil s l, ?_⟩
    rw [Over]
    generalize q.fetch now (some k) c = answer at hask
    obtain ⟨x, left⟩ := answer
    cases hask with
    | rest hsend => cases hsend
    | fail hsend hposted =>
      obtain rfl := Option.some.inj hsend
      exact ⟨nofun, hposted⟩
    | page hsend hposted =>
      obtain rfl := Option.some.inj hsend
      refine ⟨fun h => ?_, hposted⟩
      -- A page that was asked for has a cursor of its own.
      cases congrArg Page.continuation (Except.ok.inj (Prod.mk.inj h).1)

theorem over_iff : q.Over now c k ↔ decodeCursor k = .ok [] := by
  rcases hk : decodeCursor k with e | l
  · rw [Over, fetch_of_refused hk]
    exact iff_of_false nofun nofun
  · rw [Except.ok.injEq]
    obtain ⟨hl, hover⟩ | ⟨hl, hover, -⟩ := over_or_posted hk q now c
    · exact iff_of_true hover hl
    · exact iff_of_false hover hl

/-- What a list of continuations is encoded as is decoded as that list, and two lists are never
encoded as one cursor. A cursor is decoded if and only if its text is an array of strings in JSON,
and else refused with an error that says so, before anything is sent. A traversal is over at a
cursor if and only if its text is an empty array: of the lists, at the cursor of the empty one.
At that of any other the query is posted with the continuations of the list. -/
theorem cursor_exact :
    (∀ l, decodeCursor (encodeCursor l) = .ok l) ∧
    Function.Injective encodeCursor ∧
    (∀ k l, decodeCursor k = .ok l ↔ StringArray k.value.toList l) ∧
    (∀ k, (∃ e, decodeCursor k = .error e ∧ e.kind = .parameter ∧
        e.message = "not a query continuation" ∧
        ∀ (q : Query) (now : Instant) (c : Client τ), q.fetch now (some k) c = (.error e, c)) ↔
      ∀ l, ¬StringArray k.value.toList l) ∧
    ∀ (q : Query) (now : Instant) (c : Client τ),
      (∀ k, q.Over now c k ↔ StringArray k.value.toList []) ∧
      (∀ l, q.Over now c (encodeCursor l) ↔ l = []) ∧
      ∀ l, l = [] ∨ q.Posted now l c (q.fetch now (some (encodeCursor l)) c).2 := by
  refine ⟨decodeCursor_encodeCursor, encodeCursor_injective, fun k l => decodeCursor_eq_ok_iff,
    fun k => ⟨?_, fun h => ?_⟩, fun q now c => ⟨fun k => ?_, fun l => ?_, fun l => ?_⟩⟩
  · rintro ⟨e, hk, -⟩
    exact (decodeCursor_eq_error_iff.mp hk).2
  · have hk := decodeCursor_eq_error_iff.mpr ⟨rfl, h⟩
    exact ⟨_, hk, rfl, rfl, fetch_of_refused hk⟩
  · rw [over_iff, decodeCursor_eq_ok_iff]
  · rw [over_iff, decodeCursor_encodeCursor, Except.ok.injEq]
  · obtain ⟨hl, -⟩ | ⟨-, -, hposted⟩ := over_or_posted (decodeCursor_encodeCursor l) q now c
    · exact .inl hl
    · exact .inr hposted

end EntityHub.Query
