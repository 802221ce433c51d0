import AnalyticsTesting.Lib.Regex

set_option autoImplicit false

/-! # Replacing the matches of a pattern

`re.sub` reads a text from left to right: where the pattern matches, the match is replaced and
reading goes on behind it, and elsewhere a character is kept. `pieces` is that division of the text,
`Cut` the relation it computes (`pieces_eq_iff`): every text has one division, which does not depend
on what the matches are replaced by. `sub` puts the pieces together again.

The patterns are those that match no empty text (`Consuming`). -/

namespace Regex

/-- A character that is kept, or a match with its groups. -/
inductive Piece (ν α : Type)
  | char (c : α)
  | found (groups : List (ν × List α)) (text : List α)
  deriving DecidableEq

variable {ν α : Type}

/-- What the piece is in the text. -/
def Piece.text : Piece ν α → List α
  | .char c => [c]
  | .found _ text => text

/-- What a group holds. -/
def groupText [DecidableEq ν] (groups : List (ν × List α)) (name : ν) : List α :=
  (groups.lookup name).getD []

/-- What it becomes. -/
def Piece.replaced (f : List (ν × List α) → List α → List α) : Piece ν α → List α
  | .char c => [c]
  | .found groups text => f groups text

variable [DecidableEq α]

def piecesWithin (r : Regex ν α) : Nat → List α → List (Piece ν α)
  | 0, _ => []
  | _ + 1, [] => []
  | fuel + 1, c :: t =>
      match r.first (c :: t) with
      | some m => .found m.groups m.text :: piecesWithin r fuel m.rest
      | none => .char c :: piecesWithin r fuel t

/-- The text as it is read. -/
def pieces (r : Regex ν α) (t : List α) : List (Piece ν α) := r.piecesWithin t.length t

/-- `re.sub`: `f` is given the groups and the text of a match. -/
def sub (r : Regex ν α) (f : List (ν × List α) → List α → List α) (t : List α) : List α :=
  (r.pieces t).flatMap (Piece.replaced f)

/-- The pattern matches no empty text. -/
def Consuming (r : Regex ν α) : Prop := ∀ t m, r.first t = some m → m.text ≠ []

/-- The division of a text. -/
inductive Cut (r : Regex ν α) : List α → List (Piece ν α) → Prop
  | nil : Cut r [] []
  | char {c : α} {t : List α} {ps : List (Piece ν α)} (h : r.results (c :: t) = [])
      (rest : Cut r t ps) : Cut r (c :: t) (.char c :: ps)
  | found {t : List α} {m : Match ν α} {ps : List (Piece ν α)} (h : Takes r t m)
      (hne : m.text ≠ []) (rest : Cut r m.rest ps) : Cut r t (.found m.groups m.text :: ps)

variable {r : Regex ν α} {t : List α} {ps : List (Piece ν α)}

theorem Takes.eq {m : Match ν α} (h : Takes r t m) : t = m.text ++ m.rest :=
  (sound r (List.mem_of_mem_head? h)).1

theorem first_eq_none_iff : r.first t = none ↔ r.results t = [] := List.head?_eq_none_iff

/-- A text is read to its end. -/
theorem cut_piecesWithin (hr : Consuming r) :
    ∀ (fuel : Nat) (t : List α), t.length ≤ fuel → Cut r t (r.piecesWithin fuel t) := by
  intro fuel
  induction fuel with
  | zero =>
      intro t ht
      obtain rfl := List.length_eq_zero_iff.1 (Nat.le_zero.1 ht)
      exact .nil
  | succ fuel ih =>
      intro t ht
      cases t with
      | nil => exact .nil
      | cons c t =>
          have ht : t.length ≤ fuel := Nat.le_of_succ_le_succ ht
          simp only [piecesWithin]
          cases hfirst : r.first (c :: t) with
          | none => exact .char (first_eq_none_iff.1 hfirst) (ih t ht)
          | some m =>
              have hne := hr _ m hfirst
              have hlength := congrArg List.length (Takes.eq hfirst)
              have hpos := List.length_pos_iff.2 hne
              simp only [List.length_cons, List.length_append] at hlength
              exact .found hfirst hne (ih m.rest (by omega))

/-- A text has one division. -/
theorem Cut.unique (h : Cut r t ps) : ∀ {ps' : List (Piece ν α)}, Cut r t ps' → ps = ps' := by
  induction h with
  | nil =>
      intro ps' h'
      generalize ht : ([] : List α) = t at h'
      cases h' with
      | nil => rfl
      | char h rest => simp at ht
      | found h hne rest =>
          have heq := Takes.eq h
          rw [← ht] at heq
          exact absurd (List.append_eq_nil_iff.1 heq.symm).1 hne
  | @char c t ps h rest ih =>
      intro ps' h'
      generalize ht : c :: t = u at h'
      cases h' with
      | nil => simp at ht
      | char h' rest' =>
          obtain ⟨rfl, rfl⟩ := List.cons.inj ht
          rw [ih rest']
      | found h' hne rest' =>
          subst ht
          rw [Takes, first, h] at h'
          simp at h'
  | @found t m ps h hne rest ih =>
      intro ps' h'
      cases h' with
      | nil => exact absurd (List.append_eq_nil_iff.1 (Takes.eq h).symm).1 hne
      | char h' rest' =>
          rw [Takes, first, h'] at h
          simp at h
      | @found _ m' _ h' hne' rest' =>
          obtain rfl : m = m' := Option.some.inj (h.symm.trans h')
          rw [ih rest']

/-- **The pieces of a text are its division.** -/
theorem pieces_eq_iff (hr : Consuming r) : r.pieces t = ps ↔ Cut r t ps := by
  have hcut := cut_piecesWithin hr t.length t (Nat.le_refl _)
  constructor
  · rintro rfl
    exact hcut
  · exact fun h => hcut.unique h

/-- Nothing is lost. -/
theorem Cut.flatten (h : Cut r t ps) : ps.flatMap Piece.text = t := by
  induction h with
  | nil => rfl
  | char h rest ih => rw [List.flatMap_cons, ih]; rfl
  | found h hne rest ih => rw [List.flatMap_cons, ih]; exact (Takes.eq h).symm

/-! ## Reading on -/

/-- A match at the front is replaced. -/
theorem pieces_of_takes (hr : Consuming r) {m : Match ν α} (h : Takes r t m) :
    r.pieces t = .found m.groups m.text :: r.pieces m.rest :=
  (pieces_eq_iff hr).2 (.found h (hr t m h) ((pieces_eq_iff hr).1 rfl))

/-- Where the pattern does not match, a character is kept. -/
theorem pieces_of_none (hr : Consuming r) {c : α} (h : r.results (c :: t) = []) :
    r.pieces (c :: t) = .char c :: r.pieces t :=
  (pieces_eq_iff hr).2 (.char h ((pieces_eq_iff hr).1 rfl))

theorem consuming_of_lang (h : ∀ u v, r.Lang u v → u ≠ []) : Consuming r := by
  intro t m hfirst
  exact h m.text m.rest (sound r (List.mem_of_mem_head? hfirst)).2

end Regex
