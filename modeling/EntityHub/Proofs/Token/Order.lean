import EntityHub.Proofs.Token.Invalidation
import Mathlib.Data.List.Induction
/-!
# The order of tokens

Fetches are numbered in the order in which they are started. `TokenCache.Act.handed` gives the tokens
that calls get in a run, each with the number of the fetch that brought it.
`TokenCache.handed_sorted` says that the numbers are right, that is, the source gave each token to the
fetch with its number, and that they never fall: no call gets a token that is older than one that a
call has got before.

The invariant (`Numbered`) ties the token held to its number. A fetch that ends is the one started
last, so what it stores is newer than all that was handed out.
-/

namespace EntityHub

namespace TokenSource

variable {σ : Type} [TokenSource σ]

theorem draw_concat (l : List Instant) (now : Instant) (s : σ) :
    draw (l ++ [now]) s = ((draw l s).1 ++ [(fetch now (draw l s).2).1.answer],
      (fetch now (draw l s).2).2) := by
  induction l generalizing s with
  | nil => rfl
  | cons first l ih => simp [draw, ih]

end TokenSource

namespace TokenCache

variable {σ : Type}

/-! ## Tokens that are handed out -/

namespace Act

/-- The tokens that calls get by acts, each with the number of the fetch that brought it, if before
them `n` fetches had been started and the token held was brought by `o`. -/
def handedFrom : Nat → Option Nat → List Act → List (Nat × Token)
  | _, _, [] => []
  | n, o, .started _ :: l => handedFrom (n + 1) o l
  | n, o, .ended _ a :: l => handedFrom n (originOf (n - 1) o a) l
  | n, o, .returned _ (.ok (some t)) :: l => (o.toList.map fun i => (i, t)) ++ handedFrom n o l
  | n, o, .returned _ _ :: l => handedFrom n o l
  | n, _, .set _ :: l => handedFrom n none l
  | n, _, .invalidated :: l => handedFrom n none l

/-- The tokens that calls get in a run of a new cache, with the numbers of their fetches. -/
def handed (l : List Act) : List (Nat × Token) := handedFrom 0 none l

/-- The tokens that calls get. -/
def tokens (l : List Act) : List Token := (returns l).filterMap fun x => x.2.toOption.join

theorem handedFrom_append (n : Nat) (o : Option Nat) (l m : List Act) :
    handedFrom n o (l ++ m) =
      handedFrom n o l ++ handedFrom (n + (starts l).length) (originFrom n o l) m := by
  induction l generalizing n o with
  | nil => rfl
  | cons a l ih =>
    cases a with
    | started => simp [handedFrom, originFrom, starts, ih, Nat.add_assoc, Nat.add_comm 1]
    | returned _ a => rcases a with x | _ | t <;> simp [handedFrom, originFrom, starts, ih]
    | _ => simp [handedFrom, originFrom, starts, ih]

theorem handed_concat (l : List Act) (a : Act) :
    handed (l ++ [a]) = handed l ++ handedFrom (starts l).length (origin l) [a] := by
  rw [handed, handedFrom_append, Nat.zero_add, handed, origin]

/-- An act that does not give a token to a call hands out nothing. -/
theorem handed_concat_of_ne {a : Act} (h : ∀ id t, a ≠ .returned id (.ok (some t)))
    (l : List Act) : handed (l ++ [a]) = handed l ∧ tokens (l ++ [a]) = tokens l := by
  rw [handed_concat, tokens, returns_append, List.filterMap_append]
  cases a with
  | returned id a =>
    rcases a with x | _ | t
    · exact ⟨List.append_nil _, List.append_nil _⟩
    · exact ⟨List.append_nil _, List.append_nil _⟩
    · exact absurd rfl (h id t)
  | _ => exact ⟨List.append_nil _, List.append_nil _⟩

theorem starts_concat_of_ne {a : Act} (h : ∀ now, a ≠ .started now) (l : List Act) :
    starts (l ++ [a]) = starts l := by
  rw [starts_append]
  cases a with
  | started now => exact absurd rfl (h now)
  | _ => exact List.append_nil _

theorem origin_concat (l : List Act) (a : Act) :
    origin (l ++ [a]) = originFrom (starts l).length (origin l) [a] := by
  rw [origin, originFrom_append, Nat.zero_add, origin]

theorem tokens_append (l m : List Act) : tokens (l ++ m) = tokens l ++ tokens m := by
  rw [tokens, returns_append, List.filterMap_append, tokens, tokens]

end Act

variable [TokenSource σ] {d d' : TokenCache σ} {e : Event} {r : Option TokenAnswer}
  {l acts : List Act} {now : Instant} {observed id : Nat} {s source : σ} {t : Token} {f : Flight}

/-- The source `s` gives `t` to the fetch with number `i` of those that are started. -/
def Brings (s : σ) (l : List Act) (i : Nat) (t : Token) : Prop :=
  (TokenSource.draw (Act.starts l) s).1[i]? = some (.ok (some t))

theorem Brings.lt_length {i : Nat} (h : Brings s l i t) : i < (Act.starts l).length := by
  rw [← TokenSource.length_draw (Act.starts l) s]
  exact (List.getElem?_eq_some_iff.mp h).1

/-- A fetch that is started later does not change what was brought before. -/
theorem Brings.concat {i : Nat} (h : Brings s l i t) (a : Act) : Brings s (l ++ [a]) i t := by
  unfold Brings at *
  rw [Act.starts_append]
  cases a with
  | started now =>
    rw [Act.starts, Act.starts, TokenSource.draw_concat]
    exact List.getElem?_append_left (List.getElem?_eq_some_iff.mp h).1 ▸ h
  | _ => simpa [Act.starts] using h

/-- What was handed out by the acts `l` of a cache over the source `s`. -/
structure Rising (s : σ) (l : List Act) : Prop where
  brings : ∀ x ∈ Act.handed l, Brings s l x.1 x.2
  tokens : (Act.handed l).map Prod.snd = Act.tokens l
  sorted : ((Act.handed l).map Prod.fst).Pairwise (· ≤ ·)
  /-- Nothing was handed out that is newer than the token held. -/
  le_origin : ∀ x ∈ Act.handed l, ∀ i ∈ origin l, x.1 ≤ i

namespace Rising

/-- An act that does not give a token to a call keeps the order if what is held after it is newer
than all that was handed out. -/
theorem quiet (h : Rising s l) {a : Act} (ha : ∀ id t, a ≠ .returned id (.ok (some t)))
    (hle : ∀ x ∈ Act.handed l, ∀ i ∈ originFrom (Act.starts l).length (origin l) [a], x.1 ≤ i) :
    Rising s (l ++ [a]) := by
  obtain ⟨hhanded, htokens⟩ := Act.handed_concat_of_ne ha l
  refine ⟨?_, ?_, ?_, ?_⟩
  · rw [hhanded]
    intro x hx
    exact (h.brings x hx).concat a
  · rw [hhanded, htokens, h.tokens]
  · rw [hhanded]
    exact h.sorted
  · rw [hhanded, Act.origin_concat]
    exact hle

/-- A token that was not handed out before the one held is now. -/
theorem returned (h : Rising s l) {i : Nat} (hi : origin l = some i) (hbrings : Brings s l i t)
    (id : Nat) : Rising s (l ++ [.returned id (.ok (some t))]) := by
  have hhanded : Act.handed (l ++ [.returned id (.ok (some t))]) = Act.handed l ++ [(i, t)] := by
    rw [Act.handed_concat, hi]
    rfl
  have htokens : Act.tokens (l ++ [.returned id (.ok (some t))]) = Act.tokens l ++ [t] :=
    Act.tokens_append l _
  refine ⟨?_, ?_, ?_, ?_⟩
  · rw [hhanded]
    intro x hx
    rcases List.mem_append.mp hx with hx | hx
    · exact (h.brings x hx).concat _
    · rw [List.mem_singleton.mp hx]
      exact hbrings.concat _
  · rw [hhanded, htokens, List.map_append, h.tokens]
    rfl
  · rw [hhanded, List.map_append, List.pairwise_append]
    refine ⟨h.sorted, List.pairwise_singleton _ _, ?_⟩
    intro k hk j hj
    obtain ⟨x, hx, rfl⟩ := List.mem_map.mp hk
    rw [List.mem_singleton.mp hj]
    exact h.le_origin x hx i hi
  · rw [hhanded, Act.origin_concat, hi]
    intro x hx j hj
    obtain rfl : i = j := Option.some.inj hj
    rcases List.mem_append.mp hx with hx | hx
    · exact h.le_origin x hx i hi
    · rw [List.mem_singleton.mp hx]

/-- A fetch that ends is the one started last, so its token is newer than all before. -/
theorem ended (h : Rising s l) (now : Instant) (a : TokenAnswer) :
    Rising s (l ++ [.ended now a]) := by
  refine h.quiet (by simp) ?_
  intro x hx i hi
  rcases a with y | _ | t
  · cases hi
  · exact h.le_origin x hx i hi
  · obtain rfl : (Act.starts l).length - 1 = i := Option.some.inj hi
    have hlt := (h.brings x hx).lt_length
    omega

end Rising

/-- What is true of a cache that has come from a new one over the source `s` by the acts `l`. -/
structure Numbered (s : σ) (d : TokenCache σ) (l : List Act) : Prop where
  source : (TokenSource.draw (Act.starts l) s).2 = d.source
  /-- The fetch under way is the one started last. -/
  flying : ∀ f ∈ d.flight, (TokenSource.draw (Act.starts l) s).1.getLast? = some f.answer
  unheld : d.token = none → origin l = none
  held : ∀ t, d.token = some t → ∃ i, origin l = some i ∧ Brings s l i t
  rising : Rising s l

namespace Numbered

/-- The line and the counter do not matter, nor how long the fetch under way will take. -/
theorem congr (h : Numbered s d l) (hsource : d'.source = d.source) (htoken : d'.token = d.token)
    (hflight : ∀ f' ∈ d'.flight, ∃ f ∈ d.flight, f.answer = f'.answer) : Numbered s d' l where
  source := h.source.trans hsource.symm
  flying f' hf' := by
    obtain ⟨f, hf, hans⟩ := hflight f' hf'
    rw [h.flying f hf, hans]
  unheld hnone := h.unheld (htoken.symm.trans hnone)
  held t ht := h.held t (htoken.symm.trans ht)
  rising := h.rising

theorem started (h : Numbered s d l) (hf : TokenSource.fetch now d.source = (f, source)) :
    Numbered s { d with source, flight := some f } (l ++ [.started now]) := by
  have hdraw := TokenSource.draw_concat (Act.starts l) now s
  rw [h.source, hf] at hdraw
  have hstarts : Act.starts (l ++ [.started now]) = Act.starts l ++ [now] := Act.starts_append l _
  have horigin : origin (l ++ [.started now]) = origin l := Act.origin_concat l _
  refine ⟨?_, ?_, ?_, ?_, h.rising.quiet (by simp) h.rising.le_origin⟩
  · rw [hstarts, hdraw]
  · rintro g hg
    obtain rfl : f = g := Option.some.inj hg
    rw [hstarts, hdraw, List.getLast?_concat]
  · rw [horigin]
    exact h.unheld
  · intro t ht
    obtain ⟨i, hi, hbrings⟩ := h.held t ht
    exact ⟨i, horigin.trans hi, hbrings.concat _⟩

theorem ended (h : Numbered s d l) (hf : d.flight = some f) (now : Instant) :
    Numbered s { d with token := f.answer.hold d.token, flight := none }
      (l ++ [.ended now f.answer]) := by
  have hstarts := Act.starts_concat_of_ne (a := .ended now f.answer) (by simp) l
  have hlast : (TokenSource.draw (Act.starts l) s).1[(Act.starts l).length - 1]? =
      some f.answer := by
    rw [← h.flying f hf, List.getLast?_eq_getElem?, TokenSource.length_draw]
  refine ⟨?_, by simp, ?_, ?_, h.rising.ended now f.answer⟩
  · rw [hstarts, h.source]
  · rw [Act.origin_concat]
    rcases f.answer with x | _ | t
    · exact fun _ => rfl
    · exact h.unheld
    · exact fun hnone => absurd hnone (Option.some_ne_none t)
  · rw [Act.origin_concat]
    intro t ht
    rcases hans : f.answer with x | _ | u <;> rw [hans] at ht
    · cases ht
    · obtain ⟨i, hi, hbrings⟩ := h.held t ht
      exact ⟨i, hi, hbrings.concat _⟩
    · rw [hans] at hlast
      obtain rfl : u = t := Option.some.inj ht
      exact ⟨_, rfl, Brings.concat hlast _⟩

/-- A token that a call gets is the one held. -/
theorem returned (h : Numbered s d l) {a : TokenAnswer}
    (ha : ∀ t, a = .ok (some t) → d.token = some t) (id : Nat) :
    Numbered s d (l ++ [.returned id a]) := by
  have hstarts := Act.starts_concat_of_ne (a := .returned id a) (by simp) l
  have horigin : origin (l ++ [.returned id a]) = origin l := Act.origin_concat l _
  refine ⟨?_, ?_, ?_, ?_, ?_⟩
  · rw [hstarts, h.source]
  · rw [hstarts]
    exact h.flying
  · rw [horigin]
    exact h.unheld
  · intro t ht
    obtain ⟨i, hi, hbrings⟩ := h.held t ht
    exact ⟨i, horigin.trans hi, hbrings.concat _⟩
  · rcases a with x | _ | t
    · exact h.rising.quiet (by simp) h.rising.le_origin
    · exact h.rising.quiet (by simp) h.rising.le_origin
    · obtain ⟨i, hi, hbrings⟩ := h.held t (ha t rfl)
      exact h.rising.returned hi hbrings id

theorem invalidated (h : Numbered s d l) : Numbered s d.invalidate (l ++ [.invalidated]) := by
  have hstarts := Act.starts_concat_of_ne (a := .invalidated) (by simp) l
  refine ⟨?_, ?_, fun _ => Act.origin_concat l _, ?_, h.rising.quiet (by simp) ?_⟩
  · rw [hstarts]
    exact h.source
  · rw [hstarts]
    exact h.flying
  · intro t ht
    cases ht
  · intro x _ i hi
    cases hi

/-- A fetch ends, and its call returns. -/
theorem settle (h : Numbered s d l) (hf : d.flight = some f) (now : Instant) (id : Nat) :
    Numbered s (d.settle now f.answer).2
      (l ++ [.ended now f.answer, .returned id (d.settle now f.answer).1]) := by
  have hended : Numbered s (d.settle now f.answer).2 (l ++ [.ended now f.answer]) :=
    (h.ended hf now).congr (settle_source _ _ _) (settle_token _ _ _) (by simp)
  rw [List.append_cons]
  exact hended.returned (fun t ht => (token_of_settle ht).1) id

end Numbered

theorem Turn.numbered (h : Turn d now observed id r d' acts) (hn : Numbered s d l) :
    Numbered s d' (l ++ acts) := by
  cases h with
  | @share t hf hshare =>
    have hshared : Numbered s d.release l := hn.congr rfl rfl (by simp [release])
    refine hshared.returned (fun u hu => ?_) id
    cases hu
    exact (token_of_share? hshare).1
  | wait hf =>
    rw [List.append_nil]
    exact hn.congr rfl rfl (by simp [hf])
  | finish hf => exact hn.settle hf now id
  | start _ _ hfetch => exact (hn.started hfetch).congr rfl rfl (by simp)
  | @fetch f source hf _ hfetch =>
    have hsame : ({ d with source, flight := some f } : TokenCache σ).settle now f.answer =
        ({ d with source } : TokenCache σ).settle now f.answer := by
      rcases f.answer with x | _ | t <;> rfl
    have hsettled := (hn.started hfetch).settle rfl now id
    rw [hsame, List.append_assoc] at hsettled
    exact hsettled

theorem Move.numbered (h : Move d e r d' acts) (hn : Numbered s d l) (hset : ∀ t, e ≠ .set t) :
    Numbered s d' (l ++ acts) := by
  cases h with
  | reuse hreuse =>
    refine hn.returned (fun u hu => ?_) _
    cases hu
    exact (token_of_reusable? hreuse).1
  | queue | leave =>
    rw [List.append_nil]
    exact hn.congr rfl rfl fun f hf => ⟨f, hf, rfl⟩
  | idle =>
    rw [List.append_nil]
    exact hn
  | lead _ _ ht => exact ht.numbered (hn.congr rfl rfl fun f hf => ⟨f, hf, rfl⟩)
  | turn _ ht => exact ht.numbered hn
  | giveUp =>
    rw [List.append_nil]
    exact hn.congr rfl rfl (by simp [release])
  | set => exact (hset _ rfl).elim
  | invalidate => exact hn.invalidated

theorem Numbered.run (h : Numbered s d l) {es : List Event} (hset : ∀ t, .set t ∉ es) :
    Numbered s (d.run es) (l ++ d.trace es) := by
  induction es generalizing d l with
  | nil =>
    rw [trace, List.append_nil]
    exact h
  | cons e es ih =>
    have hstep := (d.move_step e).numbered h fun t ht => hset t (ht ▸ List.mem_cons_self)
    rw [run_cons, trace, ← List.append_assoc]
    exact ih hstep fun t ht => hset t (List.mem_cons_of_mem _ ht)

/-- In a run of a new cache in which nothing is set, each call that gets a token gets one that the
source gave to some fetch, and the numbers of these fetches never fall. -/
theorem handed_sorted (config : TokenConfig) (source : σ) {es : List Event}
    (hset : ∀ t, .set t ∉ es) :
    let acts := ({ config, source } : TokenCache σ).trace es
    (Act.handed acts).map Prod.snd = Act.tokens acts ∧
      (∀ x ∈ Act.handed acts, Brings source acts x.1 x.2) ∧
      ((Act.handed acts).map Prod.fst).Pairwise (· ≤ ·) := by
  have hnew : Numbered source { config, source } [] := by
    have hnone : Act.handed [] = [] := rfl
    exact ⟨rfl, by simp, fun _ => rfl, by simp, by simp [hnone], rfl, .nil, by simp [hnone]⟩
  have hrising := (hnew.run hset).rising
  exact ⟨hrising.tokens, hrising.brings, hrising.sorted⟩

/-- A cache that always authenticates again. Its source answers with a token, with another one, that
there is none, and with a third token. -/
def patchy : TokenCache ScriptedSource where
  config := { noExpiryPolicy := .alwaysReauthenticate }
  source :=
    { outcomes :=
        [{ suspensions := 1, answer := .ok (some { accessToken := "a" }) },
          { answer := .ok (some { accessToken := "b" }) }, { answer := .ok none },
          { answer := .ok (some { accessToken := "d" }) }] }

/-- The call that makes the first fetch is dropped, and the one behind it makes the second. The third
fetch falls back on the token held, the fourth renews it, and then the token is dropped. -/
def relay : List Event :=
  [.enter .epoch 0, .enter .epoch 1, .drop 0, .resume .epoch 1, .enter .epoch 2, .enter .epoch 3,
    .invalidate, .enter .epoch 4]

theorem handed_sorted_relay :
    (∀ t, Event.set t ∉ relay) ∧
      Act.handed (patchy.trace relay) =
        [(1, { accessToken := "b" }), (1, { accessToken := "b" }), (3, { accessToken := "d" })] ∧
      Act.tokens (patchy.trace relay) =
        [{ accessToken := "b" }, { accessToken := "b" }, { accessToken := "d" }] ∧
      ((Act.handed (patchy.trace relay)).map Prod.fst).Pairwise (· ≤ ·) := by
  have hset : ∀ t, Event.set t ∉ relay := by simp [relay]
  obtain ⟨htokens, -, hsorted⟩ := handed_sorted patchy.config patchy.source hset
  exact ⟨hset, rfl, htokens.symm, hsorted⟩

end TokenCache

end EntityHub
