import AnalyticsTesting.Lib.RegexSub

set_option autoImplicit false

/-! # Templates

A template is a list of characters and holes, a hole has a name, and a text is what a template is
printed as. `Form` says how holes are written: the name between two delimiters. Every text is the
print of exactly one template that can be read back (`existsUnique_readable`), and that is the one
whose holes `re.sub` replaces (`sub_print`): from left to right, and without reading what they are
replaced by. -/

namespace Template

open Regex

/-- How holes are written. -/
structure Form (α : Type) where
  opener : List α
  closer : List α
  /-- What a name may begin with, and what may follow. -/
  first : α → Bool
  more : α → Bool
  opener_ne_nil : opener ≠ []
  /-- A name is over where the closing delimiter begins. -/
  stops : ∀ t, Stops more (closer ++ t)

variable {α : Type}

/-- The pattern of a hole, with its name as the group. -/
def Form.pattern (F : Form α) : Regex Unit α :=
  .seqs [.lit F.opener, .group () (.seq (.one F.first) (.many true F.more)), .lit F.closer]

/-- A name that may stand in a hole. -/
structure Name (F : Form α) where
  head : α
  tail : List α
  first : F.first head = true
  more : ∀ c ∈ tail, F.more c = true

variable {F : Form α}

namespace Name

def text (name : Name F) : List α := name.head :: name.tail

def print (name : Name F) : List α := F.opener ++ (name.text ++ F.closer)

theorem text_injective : Function.Injective (text : Name F → List α) := by
  rintro ⟨c, t, hc, ht⟩ ⟨d, u, hd, hu⟩ h
  obtain ⟨rfl, rfl⟩ := List.cons.inj h
  rfl

theorem print_ne_nil (name : Name F) : name.print ≠ [] := by
  simp [print, F.opener_ne_nil]

end Name

/-- What a template is made of. -/
inductive Token (F : Form α)
  | char (c : α)
  | hole (name : Name F)

def Token.print : Token F → List α
  | .char c => [c]
  | .hole name => name.print

/-- The text of a template. -/
def print (ts : List (Token F)) : List α := ts.flatMap Token.print

/-- No hole begins at a character. -/
def Readable : List (Token F) → Prop
  | [] => True
  | .char c :: ts => (∀ name : Name F, ¬ name.print <+: c :: print ts) ∧ Readable ts
  | .hole _ :: ts => Readable ts

/-- The names in the holes. -/
def names (ts : List (Token F)) : List (List α) :=
  ts.filterMap fun
    | .char _ => none
    | .hole name => some name.text

/-- The template with its holes filled. -/
def fill (value : Name F → List α) (ts : List (Token F)) : List α :=
  ts.flatMap fun
    | .char c => [c]
    | .hole name => value name

theorem names_cons_char (c : α) (ts : List (Token F)) : names (.char c :: ts) = names ts := rfl

theorem names_cons_hole (name : Name F) (ts : List (Token F)) :
    names (.hole name :: ts) = name.text :: names ts := rfl

/-- Only the names in the holes matter. -/
theorem fill_congr {value value' : Name F → List α} {ts : List (Token F)}
    (h : ∀ name : Name F, name.text ∈ names ts → value name = value' name) :
    fill value ts = fill value' ts := by
  induction ts with
  | nil => rfl
  | cons token ts ih =>
      cases token with
      | char c => exact congrArg (c :: ·) (ih h)
      | hole name =>
          have hrest := ih fun name' hname => h name' (List.mem_cons_of_mem _ hname)
          have hhead := h name List.mem_cons_self
          change value name ++ fill value ts = value' name ++ fill value' ts
          rw [hhead, hrest]

/-! ## Reading a text -/

variable [DecidableEq α]

omit [DecidableEq α] in
theorem lang_pattern {u t : List α} : F.pattern.Lang u t ↔ ∃ name : Name F, u = name.print := by
  constructor
  · rintro ⟨v, w, rfl, rfl, x, y, rfl, ⟨v, w, rfl, ⟨c, rfl, hc⟩, hw⟩, rfl⟩
    exact ⟨⟨c, w, hc, hw⟩, rfl⟩
  · rintro ⟨name, rfl⟩
    exact ⟨F.opener, name.text ++ F.closer, rfl, rfl, name.text, F.closer, rfl,
      ⟨[name.head], name.tail, rfl, ⟨name.head, rfl, name.first⟩, name.more⟩, rfl⟩

theorem consuming_pattern : Consuming F.pattern :=
  consuming_of_lang fun u v h => by
    obtain ⟨name, rfl⟩ := lang_pattern.1 h
    exact name.print_ne_nil

/-- A hole is read as what it was printed from. -/
theorem takes_pattern (name : Name F) (t : List α) :
    Takes F.pattern (name.print ++ t) ⟨[((), name.text)], name.print, t⟩ := by
  have htail := takes_many (ν := Unit) name.more (F.stops t)
  have hname := takes_group (takes_seq (takes_one name.first _) htail) ()
  have hrest := takes_seqs hname (takes_last (takes_lit F.closer t))
  have hwhole := takes_seqs (takes_lit F.opener (name.text ++ (F.closer ++ t))) hrest
  simpa [Name.print, Name.text, Form.pattern] using hwhole

theorem results_pattern_eq_nil_iff {t : List α} :
    F.pattern.results t = [] ↔ ∀ name : Name F, ¬ name.print <+: t := by
  constructor
  · rintro h name ⟨rest, rfl⟩
    have htakes := takes_pattern name rest
    rw [Takes, first, h] at htakes
    simp at htakes
  · intro h
    refine results_eq_nil fun u v hlang heq => ?_
    obtain ⟨name, rfl⟩ := lang_pattern.1 hlang
    exact h name ⟨v, heq.symm⟩

/-- The piece that a token is read as. -/
def Token.piece : Token F → Piece Unit α
  | .char c => .char c
  | .hole name => .found [((), name.text)] name.print

omit [DecidableEq α] in
theorem Token.piece_injective : Function.Injective (Token.piece : Token F → Piece Unit α) := by
  intro a b h
  cases a with
  | char c =>
      cases b with
      | char d => rw [Piece.char.inj h]
      | hole name => simp [Token.piece] at h
  | hole name =>
      cases b with
      | char d => simp [Token.piece] at h
      | hole name' =>
          have htext : name.text = name'.text := by simpa using (Piece.found.inj h).1
          rw [Name.text_injective htext]

/-- A template that can be read back is. -/
theorem cut_print {ts : List (Token F)} (h : Readable ts) :
    Cut F.pattern (print ts) (ts.map Token.piece) := by
  induction ts with
  | nil => exact .nil
  | cons token ts ih =>
      cases token with
      | char c => exact .char (results_pattern_eq_nil_iff.2 h.1) (ih h.2)
      | hole name => exact .found (takes_pattern name (print ts)) name.print_ne_nil (ih h)

/-- Every text is the print of a template. -/
theorem exists_readable {t : List α} {ps : List (Piece Unit α)} (h : Cut F.pattern t ps) :
    ∃ ts : List (Token F), Readable ts ∧ print ts = t := by
  induction h with
  | nil => exact ⟨[], trivial, rfl⟩
  | @char c t ps h rest ih =>
      obtain ⟨ts, hts, rfl⟩ := ih
      exact ⟨.char c :: ts, ⟨results_pattern_eq_nil_iff.1 h, hts⟩, rfl⟩
  | @found t m ps h hne rest ih =>
      obtain ⟨ts, hts, hprint⟩ := ih
      obtain ⟨name, hname⟩ := lang_pattern.1 (sound _ (List.mem_of_mem_head? h)).2
      refine ⟨.hole name :: ts, hts, ?_⟩
      rw [Takes.eq h, hname, ← hprint]
      rfl

/-- **Printing and reading are inverse**: a text has one template that can be read back. -/
theorem existsUnique_readable (F : Form α) (t : List α) :
    ∃! ts : List (Token F), Readable ts ∧ print ts = t := by
  obtain ⟨ts, hts, rfl⟩ : ∃ ts : List (Token F), Readable ts ∧ print ts = t :=
    exists_readable ((pieces_eq_iff consuming_pattern).1 rfl)
  refine ⟨ts, ⟨hts, rfl⟩, fun ts' h => ?_⟩
  have hcut := cut_print h.1
  rw [h.2] at hcut
  exact Token.piece_injective.list_map (hcut.unique (cut_print hts))

theorem pieces_print {ts : List (Token F)} (h : Readable ts) :
    F.pattern.pieces (print ts) = ts.map Token.piece :=
  (pieces_eq_iff consuming_pattern).2 (cut_print h)

/-- **`re.sub` fills the holes.** -/
theorem sub_print (f : List (Unit × List α) → List α → List α) {ts : List (Token F)}
    (h : Readable ts) :
    F.pattern.sub f (print ts) = fill (fun name => f [((), name.text)] name.print) ts := by
  rw [sub, pieces_print h, List.flatMap_map]
  refine List.flatMap_congr fun token _ => ?_
  cases token with
  | char c => rfl
  | hole name => rfl

end Template
