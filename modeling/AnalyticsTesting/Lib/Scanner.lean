import Mathlib.Data.List.Basic
import Mathlib.Data.List.TakeWhile

set_option autoImplicit false

/-! # Scanners that cut a text into entries

A `Scanner` reads a text character by character, moves its state on and cuts the text at some of the
characters. `Scanner.entries` is what it makes of the text: the pieces between the cuts, without the
blanks around them, and without the pieces that are all blank.

Two scanners that cut at the same characters give the same entries (`entries_eq_of_agree`). The
converse needs that a piece has something in it wherever the scanners disagree for the first time
(`Discerned`): then one of them ends an entry that the other goes on with, and the entries have
different numbers of characters that are not blank (`agree_of_entries_eq`). -/

/-- A scanner with states `σ` over characters `α`. -/
structure Scanner (σ α : Type*) where
  /-- The state after a character. -/
  next : σ → α → σ
  /-- The character ends a piece and belongs to none. -/
  cuts : σ → α → Bool

namespace Scanner

variable {σ τ α : Type*}

/-! ## Blanks -/

/-- Remove the blanks at both ends. -/
def trim (blank : α → Bool) (text : List α) : List α :=
  ((text.dropWhile blank).reverse.dropWhile blank).reverse

/-- The characters that are not blank. -/
def marks (blank : α → Bool) (text : List α) : List α := text.filter fun c => !blank c

section Blank

variable {blank : α → Bool}

@[simp] theorem marks_append (l₁ l₂ : List α) :
    marks blank (l₁ ++ l₂) = marks blank l₁ ++ marks blank l₂ := List.filter_append ..

theorem marks_reverse (l : List α) : marks blank l.reverse = (marks blank l).reverse :=
  List.filter_reverse ..

theorem marks_dropWhile (l : List α) : marks blank (l.dropWhile blank) = marks blank l := by
  induction l with
  | nil => rfl
  | cons c rest ih =>
      by_cases hc : blank c = true
      · rw [List.dropWhile_cons_of_pos hc, ih]
        simp [marks, hc]
      · rw [List.dropWhile_cons_of_neg hc]

/-- Trimming removes blanks only. -/
theorem marks_trim (l : List α) : marks blank (trim blank l) = marks blank l := by
  rw [trim, marks_reverse, marks_dropWhile, marks_reverse, List.reverse_reverse, marks_dropWhile]

theorem trim_ne_nil {l : List α} (h : marks blank l ≠ []) : trim blank l ≠ [] := by
  intro hnil
  rw [← marks_trim, hnil] at h
  exact h rfl

theorem exists_trim_eq (blank : α → Bool) (l : List α) :
    ∃ a b, l = a ++ (trim blank l ++ b) ∧ (∀ c ∈ a, blank c = true) ∧ ∀ c ∈ b, blank c = true := by
  refine ⟨l.takeWhile blank, ((l.dropWhile blank).reverse.takeWhile blank).reverse, ?_,
    fun c hc => List.mem_takeWhile_imp hc,
    fun c hc => List.mem_takeWhile_imp (List.mem_reverse.1 hc)⟩
  rw [trim, ← List.reverse_append, List.takeWhile_append_dropWhile, List.reverse_reverse,
    List.takeWhile_append_dropWhile]

variable (blank) in
/-- A text has no blanks at its ends. -/
structure Bare (l : List α) : Prop where
  head : ∀ c ∈ l.head?, blank c = false
  last : ∀ c ∈ l.getLast?, blank c = false

theorem head?_dropWhile (l : List α) : ∀ c ∈ (l.dropWhile blank).head?, blank c = false := by
  intro c hc
  have hhead := List.head?_dropWhile_not blank l
  rw [Option.mem_def.1 hc] at hhead
  exact hhead

theorem bare_trim (l : List α) : Bare blank (trim blank l) where
  head := by
    intro c hc
    refine head?_dropWhile l c ?_
    -- trimming at the end leaves the head where it is
    have hprefix : trim blank l <+: l.dropWhile blank := by
      rw [trim, ← List.reverse_suffix, List.reverse_reverse]
      exact List.dropWhile_suffix _
    obtain ⟨more, heq⟩ := hprefix
    rw [← heq, List.head?_append_of_ne_nil]
    · exact hc
    · rintro hnil
      rw [hnil] at hc
      simp at hc
  last := by
    intro c hc
    rw [trim, List.getLast?_reverse] at hc
    exact head?_dropWhile _ c hc

theorem dropWhile_of_head {l : List α} (h : ∀ c ∈ l.head?, blank c = false) :
    l.dropWhile blank = l := by
  cases l with
  | nil => rfl
  | cons c l => exact List.dropWhile_cons_of_neg (by simpa using h c rfl)

theorem trim_of_bare {l : List α} (h : Bare blank l) : trim blank l = l := by
  rw [trim, dropWhile_of_head h.head, dropWhile_of_head, List.reverse_reverse]
  rw [List.head?_reverse]
  exact h.last

/-- A text has other characters than a longer one, if what comes after it is not blank. -/
theorem trim_ne_trim_append {l more : List α} (h : marks blank more ≠ []) :
    trim blank l ≠ trim blank (l ++ more) := by
  intro heq
  have hmarks := congrArg (marks blank) heq
  rw [marks_trim, marks_trim, marks_append] at hmarks
  exact h (List.self_eq_append_right.1 hmarks)

end Blank

/-! ## Entries -/

variable (M : Scanner σ α) (N : Scanner τ α)

/-- The state after a text. -/
def run (s : σ) (text : List α) : σ := text.foldl M.next s

/-- The pieces of a text, where `buf` has been read of the first one. -/
def pieces (s : σ) (buf : List α) : List α → List (List α)
  | [] => [buf]
  | c :: rest =>
      if M.cuts s c then buf :: pieces (M.next s c) [] rest
      else pieces (M.next s c) (buf ++ [c]) rest

/-- What is left of a piece: nothing, if it is blank. -/
def entry (blank : α → Bool) (piece : List α) : Option (List α) :=
  if trim blank piece = [] then none else some (trim blank piece)

/-- The pieces that are not blank, trimmed. -/
def entries (blank : α → Bool) (s : σ) (buf text : List α) : List (List α) :=
  (M.pieces s buf text).filterMap (entry blank)

/-- The scanners cut at the same characters. -/
def Agree (s : σ) (t : τ) (text : List α) : Prop :=
  ∀ before c after, text = before ++ c :: after →
    M.cuts (M.run s before) c = N.cuts (N.run t before) c

variable {M N} {blank : α → Bool}

@[simp] theorem run_nil (s : σ) : M.run s [] = s := rfl

@[simp] theorem run_cons (s : σ) (c : α) (text : List α) :
    M.run s (c :: text) = M.run (M.next s c) text := rfl

theorem run_append (s : σ) (l₁ l₂ : List α) : M.run s (l₁ ++ l₂) = M.run (M.run s l₁) l₂ :=
  List.foldl_append ..

theorem run_concat (s : σ) (text : List α) (c : α) :
    M.run s (text ++ [c]) = M.next (M.run s text) c := run_append s text [c]

theorem pieces_of_cuts {s : σ} {c : α} (h : M.cuts s c = true) (buf rest : List α) :
    M.pieces s buf (c :: rest) = buf :: M.pieces (M.next s c) [] rest := if_pos h

theorem pieces_of_not_cuts {s : σ} {c : α} (h : M.cuts s c = false) (buf rest : List α) :
    M.pieces s buf (c :: rest) = M.pieces (M.next s c) (buf ++ [c]) rest := by
  rw [pieces, if_neg (by simp [h])]

theorem entry_of_marks {piece : List α} (h : marks blank piece ≠ []) :
    entry blank piece = some (trim blank piece) := if_neg (trim_ne_nil h)

/-- The entries alone are the trimmed pieces: pieces that are blank add nothing. -/
theorem flatten_filterMap_entry (ps : List (List α)) :
    (ps.filterMap (entry blank)).flatten = (ps.map (trim blank)).flatten := by
  induction ps with
  | nil => rfl
  | cons p ps ih =>
      rw [List.map_cons, List.flatten_cons, ← ih]
      by_cases hnil : trim blank p = []
      · have hentry : entry blank p = none := if_pos hnil
        rw [List.filterMap_cons_none hentry, hnil, List.nil_append]
      · have hentry : entry blank p = some (trim blank p) := if_neg hnil
        rw [List.filterMap_cons_some hentry, List.flatten_cons]

@[simp] theorem entries_nil (s : σ) (buf : List α) :
    M.entries blank s buf [] = (entry blank buf).toList := by
  rw [entries, pieces, List.filterMap_cons]
  cases entry blank buf with
  | none => rfl
  | some e => rfl

theorem entries_of_cuts {s : σ} {c : α} (h : M.cuts s c = true) (buf rest : List α) :
    M.entries blank s buf (c :: rest)
      = (entry blank buf).toList ++ M.entries blank (M.next s c) [] rest := by
  rw [entries, pieces_of_cuts h, List.filterMap_cons]
  cases entry blank buf with
  | none => rfl
  | some e => rfl

theorem entries_of_not_cuts {s : σ} {c : α} (h : M.cuts s c = false) (buf rest : List α) :
    M.entries blank s buf (c :: rest) = M.entries blank (M.next s c) (buf ++ [c]) rest := by
  rw [entries, pieces_of_not_cuts h]
  rfl

variable (M) in
/-- The first piece goes on from what has been read of it. -/
theorem exists_pieces_eq (text : List α) : ∀ (s : σ) (buf : List α),
    ∃ more rest, M.pieces s buf text = (buf ++ more) :: rest := by
  induction text with
  | nil => exact fun s buf => ⟨[], [], by rw [List.append_nil]; rfl⟩
  | cons c text ih =>
      intro s buf
      cases hcut : M.cuts s c with
      | true => exact ⟨[], _, by rw [pieces_of_cuts hcut, List.append_nil]⟩
      | false =>
          obtain ⟨more, rest, heq⟩ := ih (M.next s c) (buf ++ [c])
          exact ⟨c :: more, rest, by
            rw [pieces_of_not_cuts hcut, heq, List.append_assoc, List.singleton_append]⟩

variable (M) in
/-- The first entry goes on from what has been read of it, once there is something in it. -/
theorem exists_entries_eq (text : List α) (s : σ) {buf : List α} (h : marks blank buf ≠ []) :
    ∃ more rest, M.entries blank s buf text = trim blank (buf ++ more) :: rest := by
  obtain ⟨more, rest, heq⟩ := exists_pieces_eq M text s buf
  have hmore : marks blank (buf ++ more) ≠ [] := by simp [h]
  exact ⟨more, _, by rw [entries, heq, List.filterMap_cons_some (entry_of_marks hmore)]⟩

theorem agree_cons_iff {s : σ} {t : τ} {c : α} {text : List α} :
    Agree M N s t (c :: text) ↔
      M.cuts s c = N.cuts t c ∧ Agree M N (M.next s c) (N.next t c) text := by
  constructor
  · intro h
    exact ⟨h [] c text rfl, fun before d after heq => h (c :: before) d after (by rw [heq]; rfl)⟩
  · rintro ⟨hcut, hrest⟩ before d after heq
    cases before with
    | nil =>
        obtain ⟨rfl, rfl⟩ := List.cons.inj heq
        exact hcut
    | cons e before =>
        obtain ⟨rfl, rfl⟩ := List.cons.inj heq
        exact hrest before d after rfl

/-! ## Two scanners -/

theorem pieces_eq_of_agree (text : List α) : ∀ (s : σ) (t : τ) (buf : List α),
    Agree M N s t text → M.pieces s buf text = N.pieces t buf text := by
  induction text with
  | nil => exact fun s t buf _ => rfl
  | cons c text ih =>
      intro s t buf h
      obtain ⟨hcut, hrest⟩ := agree_cons_iff.1 h
      cases hM : M.cuts s c with
      | true => rw [pieces_of_cuts hM, pieces_of_cuts (hcut ▸ hM), ih _ _ _ hrest]
      | false => rw [pieces_of_not_cuts hM, pieces_of_not_cuts (hcut ▸ hM), ih _ _ _ hrest]

/-- **Scanners that cut at the same characters give the same entries.** -/
theorem entries_eq_of_agree {s : σ} {t : τ} {text : List α} (h : Agree M N s t text)
    (buf : List α) : M.entries blank s buf text = N.entries blank t buf text := by
  rw [entries, entries, pieces_eq_of_agree text s t buf h]

variable (M N blank) in
/-- A relation between the two states and what has been read of a piece, kept as long as the
    scanners agree, under which they only disagree in a piece that has something in it. -/
structure Discerned (R : σ → τ → List α → Prop) : Prop where
  read : ∀ s t buf c, R s t buf → M.cuts s c = false → N.cuts t c = false →
    R (M.next s c) (N.next t c) (buf ++ [c])
  cut : ∀ s t buf c, R s t buf → M.cuts s c = true → N.cuts t c = true →
    R (M.next s c) (N.next t c) []
  differ : ∀ s t buf c, R s t buf → M.cuts s c ≠ N.cuts t c →
    marks blank buf ≠ [] ∧ blank c = false

/-- Where one scanner ends a piece that the other goes on with, the entries differ. -/
theorem entries_ne_of_cut {s : σ} {t : τ} {buf text : List α} {c : α}
    (hM : M.cuts s c = true) (hN : N.cuts t c = false) (hbuf : marks blank buf ≠ [])
    (hc : blank c = false) :
    M.entries blank s buf (c :: text) ≠ N.entries blank t buf (c :: text) := by
  have hlong : marks blank (buf ++ [c]) ≠ [] := by simp [hbuf]
  obtain ⟨more, rest, heq⟩ := exists_entries_eq N text (N.next t c) hlong
  have hnew : marks blank ([c] ++ more) ≠ [] := by simp [marks, hc]
  rw [entries_of_cuts hM, entry_of_marks hbuf, entries_of_not_cuts hN, heq, List.append_assoc]
  intro hentries
  exact trim_ne_trim_append hnew (List.cons.inj hentries).1

/-- **Discerned scanners that give the same entries cut at the same characters.** -/
theorem agree_of_entries_eq {R : σ → τ → List α → Prop} (hR : Discerned M N blank R)
    (text : List α) : ∀ (s : σ) (t : τ) (buf : List α), R s t buf →
    M.entries blank s buf text = N.entries blank t buf text → Agree M N s t text := by
  induction text with
  | nil =>
      intro s t buf _ _ before c after heq
      cases before <;> cases heq
  | cons c text ih =>
      intro s t buf hrel heq
      rw [agree_cons_iff]
      cases hM : M.cuts s c with
      | true =>
          cases hN : N.cuts t c with
          | true =>
              refine ⟨rfl, ih _ _ [] (hR.cut s t buf c hrel hM hN) ?_⟩
              rw [entries_of_cuts hM, entries_of_cuts hN] at heq
              exact List.append_cancel_left heq
          | false =>
              obtain ⟨hbuf, hc⟩ := hR.differ s t buf c hrel (by rw [hM, hN]; decide)
              exact absurd heq (entries_ne_of_cut hM hN hbuf hc)
      | false =>
          cases hN : N.cuts t c with
          | true =>
              obtain ⟨hbuf, hc⟩ := hR.differ s t buf c hrel (by rw [hM, hN]; decide)
              exact absurd heq.symm (entries_ne_of_cut hN hM hbuf hc)
          | false =>
              refine ⟨rfl, ih _ _ (buf ++ [c]) (hR.read s t buf c hrel hM hN) ?_⟩
              rwa [entries_of_not_cuts hM, entries_of_not_cuts hN] at heq

/-! ## Cutting at one character -/

variable (M) in
/-- None of the characters is a cut. -/
def Uncut : σ → List α → Prop
  | _, [] => True
  | s, c :: rest => M.cuts s c = false ∧ Uncut (M.next s c) rest

variable (M) in
/-- A text without the characters it is cut at. -/
def kept : σ → List α → List α
  | _, [] => []
  | s, c :: rest => (if M.cuts s c then [] else [c]) ++ kept (M.next s c) rest

variable (M blank) in
/-- The scanner cuts at one character, after which it begins anew, and passes over blanks. -/
structure Splits (start : σ) (sep : α) : Prop where
  cut : ∀ s c, M.cuts s c = true → c = sep ∧ M.next s c = start
  blank : ∀ s c, blank c = true → M.cuts s c = false ∧ M.next s c = s

variable (M) in
/-- Pieces of a text that is cut at the separators between them, and nowhere else. -/
inductive Separated (start : σ) (sep : α) : List (List α) → Prop
  | last {p : List α} (h : M.Uncut start p) : Separated start sep [p]
  | cons {p : List α} {ps : List (List α)} (h : M.Uncut start p)
      (hcut : M.cuts (M.run start p) sep = true) (hps : Separated start sep ps) :
      Separated start sep (p :: ps)

section Splits

variable {start : σ} {sep : α}

theorem uncut_append {s : σ} {l₁ l₂ : List α} :
    M.Uncut s (l₁ ++ l₂) ↔ M.Uncut s l₁ ∧ M.Uncut (M.run s l₁) l₂ := by
  induction l₁ generalizing s with
  | nil => simp [Uncut]
  | cons c l₁ ih => rw [List.cons_append, Uncut, Uncut, ih, and_assoc, run_cons]

theorem uncut_iff {s : σ} {text : List α} :
    M.Uncut s text ↔ ∀ before c after, text = before ++ c :: after →
      M.cuts (M.run s before) c = false := by
  constructor
  · rintro h before c after rfl
    exact (uncut_append.1 h).2.1
  · intro h
    induction text generalizing s with
    | nil => trivial
    | cons c text ih =>
        refine ⟨h [] c text rfl, ih fun before d after heq => ?_⟩
        exact h (c :: before) d after (by rw [heq]; rfl)

theorem pieces_ne_nil (s : σ) (buf text : List α) : M.pieces s buf text ≠ [] := by
  obtain ⟨more, rest, heq⟩ := exists_pieces_eq M text s buf
  rw [heq]
  exact List.cons_ne_nil _ _

theorem intercalate_cons {p : List α} {ps : List (List α)} (hps : ps ≠ []) :
    [sep].intercalate (p :: ps) = p ++ sep :: [sep].intercalate ps := by
  cases ps with
  | nil => exact absurd rfl hps
  | cons q ps => rw [List.intercalate_cons_cons, List.append_assoc, List.singleton_append]

/-- **The pieces and the separators make up the text.** -/
theorem intercalate_pieces (h : Splits M blank start sep) (text : List α) : ∀ s buf,
    [sep].intercalate (M.pieces s buf text) = buf ++ text := by
  induction text with
  | nil => exact fun s buf => by simp [pieces]
  | cons c text ih =>
      intro s buf
      cases hcut : M.cuts s c with
      | true =>
          obtain ⟨rfl, -⟩ := h.cut s c hcut
          rw [pieces_of_cuts hcut, intercalate_cons (pieces_ne_nil _ _ _), ih]
          rfl
      | false => rw [pieces_of_not_cuts hcut, ih, List.append_assoc, List.singleton_append]

/-- **The pieces alone are the text without its cuts.** -/
theorem flatten_pieces (text : List α) : ∀ s buf,
    (M.pieces s buf text).flatten = buf ++ M.kept s text := by
  induction text with
  | nil => exact fun s buf => by simp [pieces, kept]
  | cons c text ih =>
      intro s buf
      cases hcut : M.cuts s c with
      | true => rw [pieces_of_cuts hcut, List.flatten_cons, ih, kept, hcut]; rfl
      | false => rw [pieces_of_not_cuts hcut, ih, kept, hcut, List.append_assoc]; rfl

theorem separated_pieces (h : Splits M blank start sep) (text : List α) : ∀ buf,
    M.Uncut start buf → Separated M start sep (M.pieces (M.run start buf) buf text) := by
  induction text with
  | nil => exact fun buf hbuf => .last hbuf
  | cons c text ih =>
      intro buf hbuf
      cases hcut : M.cuts (M.run start buf) c with
      | true =>
          obtain ⟨rfl, hnext⟩ := h.cut _ c hcut
          rw [pieces_of_cuts hcut, hnext]
          exact .cons hbuf hcut (ih [] trivial)
      | false =>
          rw [pieces_of_not_cuts hcut, ← run_concat]
          exact ih (buf ++ [c]) (uncut_append.2 ⟨hbuf, hcut, trivial⟩)

theorem pieces_append_of_uncut {p : List α} : ∀ {s : σ} (buf : List α), M.Uncut s p →
    ∀ text, M.pieces s buf (p ++ text) = M.pieces (M.run s p) (buf ++ p) text := by
  induction p with
  | nil =>
      intro s buf _ text
      rw [List.append_nil]
      rfl
  | cons c p ih =>
      intro s buf hp text
      rw [List.cons_append, pieces_of_not_cuts hp.1, ih _ hp.2, List.append_assoc]
      rfl

theorem Separated.ne_nil {ps : List (List α)} (hps : Separated M start sep ps) : ps ≠ [] := by
  cases hps with
  | last _ => exact List.cons_ne_nil _ _
  | cons _ _ _ => exact List.cons_ne_nil _ _

/-- **Pieces that are joined are cut again where they were.** -/
theorem pieces_intercalate (h : Splits M blank start sep) {ps : List (List α)}
    (hps : Separated M start sep ps) : M.pieces start [] ([sep].intercalate ps) = ps := by
  induction hps with
  | last hp =>
      have hpieces := pieces_append_of_uncut [] hp []
      rw [List.append_nil] at hpieces
      rw [List.intercalate_singleton, hpieces]
      rfl
  | cons hp hcut hps ih =>
      rw [intercalate_cons hps.ne_nil, pieces_append_of_uncut _ hp, pieces_of_cuts hcut,
        (h.cut _ _ hcut).2, ih]
      rfl

/-! ## Trimming the pieces -/

theorem run_of_blank (h : Splits M blank start sep) {l : List α} (hl : ∀ c ∈ l, blank c = true)
    (s : σ) : M.run s l = s := by
  induction l with
  | nil => rfl
  | cons c l ih =>
      rw [run_cons, (h.blank s c (hl c List.mem_cons_self)).2]
      exact ih fun d hd => hl d (List.mem_cons_of_mem _ hd)

/-- Blanks at the ends of a piece make no difference to the scanner. -/
theorem uncut_trim (h : Splits M blank start sep) {p : List α} (hp : M.Uncut start p) :
    M.Uncut start (trim blank p) ∧ M.run start (trim blank p) = M.run start p := by
  obtain ⟨a, b, heq, ha, hb⟩ := exists_trim_eq blank p
  have hrun : M.run start p = M.run start (trim blank p) := by
    conv_lhs => rw [heq]
    rw [run_append, run_append, run_of_blank h ha, run_of_blank h hb]
  rw [heq, uncut_append, uncut_append, run_of_blank h ha] at hp
  exact ⟨hp.2.1, hrun.symm⟩

theorem Separated.filterMap_entry (h : Splits M blank start sep) {ps : List (List α)}
    (hps : Separated M start sep ps) :
    ps.filterMap (entry blank) = [] ∨ Separated M start sep (ps.filterMap (entry blank)) := by
  induction hps with
  | @last p hp =>
      by_cases hnil : trim blank p = []
      · have hentry : entry blank p = none := if_pos hnil
        exact Or.inl (List.filterMap_cons_none hentry)
      · have hentry : entry blank p = some (trim blank p) := if_neg hnil
        rw [List.filterMap_cons_some hentry]
        exact Or.inr (.last (uncut_trim h hp).1)
  | @cons p ps hp hcut _ ih =>
      by_cases hnil : trim blank p = []
      · have hentry : entry blank p = none := if_pos hnil
        rwa [List.filterMap_cons_none hentry]
      · have hentry : entry blank p = some (trim blank p) := if_neg hnil
        obtain ⟨huncut, hrun⟩ := uncut_trim h hp
        rw [List.filterMap_cons_some hentry]
        rcases ih with hempty | hrest
        · rw [hempty]
          exact Or.inr (.last huncut)
        · exact Or.inr (.cons huncut (hrun ▸ hcut) hrest)

/-- The entries, if there are any, are pieces of a text of their own. -/
theorem separated_entries (h : Splits M blank start sep) (text : List α) :
    M.entries blank start [] text = [] ∨
      Separated M start sep (M.entries blank start [] text) :=
  (separated_pieces h text [] trivial).filterMap_entry h

theorem entry_of_mem_entries {s : σ} {buf text e : List α} (he : e ∈ M.entries blank s buf text) :
    e ≠ [] ∧ Bare blank e := by
  obtain ⟨p, -, hp⟩ := List.mem_filterMap.1 he
  unfold entry at hp
  split at hp
  case isTrue => simp at hp
  case isFalse hne =>
    obtain rfl := Option.some.inj hp
    exact ⟨hne, bare_trim p⟩

/-- No entry has a cut in it. -/
theorem uncut_of_mem_entries (h : Splits M blank start sep) {text e : List α}
    (he : e ∈ M.entries blank start [] text) : M.Uncut start e := by
  have hall : ∀ {ps : List (List α)}, Separated M start sep ps → ∀ p ∈ ps, M.Uncut start p := by
    intro ps hps
    induction hps with
    | last hp => simpa using hp
    | cons hp _ _ ih => simpa using ⟨hp, ih⟩
  rcases separated_entries h text with hnil | hsep
  · rw [hnil] at he
    simp at he
  · exact hall hsep e he

/-- **Entries that are joined are the entries of the joined text.** -/
theorem entries_intercalate_entries (h : Splits M blank start sep) (text : List α) :
    M.entries blank start [] ([sep].intercalate (M.entries blank start [] text))
      = M.entries blank start [] text := by
  have hsame : (M.entries blank start [] text).filterMap (entry blank)
      = M.entries blank start [] text := by
    have hentry : ∀ e ∈ M.entries blank start [] text, entry blank e = some e := by
      intro e he
      obtain ⟨hne, hbare⟩ := entry_of_mem_entries he
      rw [entry, trim_of_bare hbare, if_neg hne]
    rw [List.filterMap_congr hentry, List.filterMap_some]
  rcases separated_entries h text with hnil | hsep
  · rw [hnil]
    simp [entry, trim]
  · have hpieces := pieces_intercalate h hsep
    conv_lhs => rw [entries, hpieces]
    exact hsame

end Splits

end Scanner
