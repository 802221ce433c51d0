import Mathlib.Data.List.Sort
import Mathlib.Data.List.Infix

set_option autoImplicit false

/-! # JSON texts as Python writes them

`json.dumps(doc, sort_keys=True)` for documents of objects, strings, integers, booleans and null,
with everything but printable ASCII escaped. A text says which document it was made from, up to the
order of the keys: `sortKeys_eq_of_dumps_eq`, and `entry_eq` for one entry of an object.

The parts of a text are read one after the other. A code is `Readable` if a word of it is known from
any text that begins with it; this is proved of the characters in a string first, and of the values
by recursion. -/

/-! ## Readable codes -/

/-- The words of a code `f`, for the values with `P`, can be told apart at the front of a text. -/
def Readable {α β : Type*} (P : α → Prop) (f : α → List β) : Prop :=
  ∀ a b, P a → P b → ∀ s t, f a ++ s = f b ++ t → a = b ∧ s = t

namespace Readable

variable {α β γ : Type*} {P : α → Prop} {Q : β → Prop}

/-- Of two sequences of words at the front of a text, one goes on with the other. -/
theorem flatMap_comparable {g : β → List γ} (hg : Readable Q g) (l : List β) :
    ∀ (m : List β) (s t : List γ), (∀ b ∈ l, Q b) → (∀ b ∈ m, Q b) →
    l.flatMap g ++ s = m.flatMap g ++ t →
      (∃ r, m = l ++ r ∧ s = r.flatMap g ++ t) ∨ ∃ r, l = m ++ r ∧ t = r.flatMap g ++ s := by
  induction l with
  | nil => exact fun m s t _ _ h => Or.inl ⟨m, rfl, h⟩
  | cons a l ih =>
      intro m s t hl hm h
      cases m with
      | nil => exact Or.inr ⟨a :: l, rfl, h.symm⟩
      | cons b m =>
          obtain ⟨ha, hl'⟩ := List.forall_mem_cons.1 hl
          obtain ⟨hb, hm'⟩ := List.forall_mem_cons.1 hm
          rw [List.flatMap_cons, List.flatMap_cons, List.append_assoc, List.append_assoc] at h
          obtain ⟨rfl, hrest⟩ := hg a b ha hb _ _ h
          rcases ih m s t hl' hm' hrest with ⟨r, rfl, hs⟩ | ⟨r, rfl, ht⟩
          · exact Or.inl ⟨r, rfl, hs⟩
          · exact Or.inr ⟨r, rfl, ht⟩

/-- Codes can be composed. -/
theorem comp {f : α → List β} {g : β → List γ} (hf : Readable P f) (hg : Readable Q g)
    (hQ : ∀ a, P a → ∀ b ∈ f a, Q b) : Readable P fun a => (f a).flatMap g := by
  intro a b ha hb s t h
  rcases hg.flatMap_comparable (f a) (f b) s t (hQ a ha) (hQ b hb) h with ⟨r, hr, hs⟩ | ⟨r, hr, ht⟩
  · obtain ⟨rfl, rfl⟩ := hf a b ha hb r [] (by rw [List.append_nil, hr])
    exact ⟨rfl, hs⟩
  · obtain ⟨rfl, rfl⟩ := hf a b ha hb [] r (by rw [List.append_nil, hr])
    exact ⟨rfl, ht.symm⟩

/-- Sequences of words are known up to something that no word begins with. -/
theorem flatMap_inj {g : β → List γ} (hg : Readable Q g) {stop : γ}
    (hstop : ∀ b, Q b → ∃ c w, g b = c :: w ∧ c ≠ stop) {l m : List β} (hl : ∀ b ∈ l, Q b)
    (hm : ∀ b ∈ m, Q b) {s t : List γ} (h : l.flatMap g ++ stop :: s = m.flatMap g ++ stop :: t) :
    l = m ∧ s = t := by
  have hno : ∀ r, (∀ b ∈ r, Q b) → ∀ u v : List γ, stop :: u = r.flatMap g ++ stop :: v →
      r = [] ∧ u = v := by
    intro r hr u v heq
    cases r with
    | nil => exact ⟨rfl, (List.cons.inj heq).2⟩
    | cons b r =>
        obtain ⟨c, w, hb, hc⟩ := hstop b (hr b (List.mem_cons_self ..))
        rw [List.flatMap_cons, hb] at heq
        exact absurd (List.cons.inj heq).1.symm hc
  rcases hg.flatMap_comparable l m _ _ hl hm h with ⟨r, rfl, hs⟩ | ⟨r, rfl, ht⟩
  · obtain ⟨rfl, rfl⟩ := hno r (fun b hb => hm b (List.mem_append_right l hb)) s t hs
    exact ⟨(List.append_nil l).symm, rfl⟩
  · obtain ⟨rfl, rfl⟩ := hno r (fun b hb => hl b (List.mem_append_right m hb)) t s ht
    exact ⟨List.append_nil m, rfl⟩

end Readable

/-! ## Strings -/

namespace PyJson

/-- The UTF-16 code units of a character. -/
def utf16 (c : Char) : List Nat :=
  if c.toNat < 0x10000 then [c.toNat]
  else [0xd800 + (c.toNat - 0x10000) / 0x400, 0xdc00 + (c.toNat - 0x10000) % 0x400]

/-- `ESCAPE_DCT`: the characters that have an escape of their own, with its letter. -/
def shortEscapes : List (Nat × Char) :=
  [(0x22, '"'), (0x5c, '\\'), (0x0a, 'n'), (0x0d, 'r'), (0x09, 't'), (0x08, 'b'), (0x0c, 'f')]

/-- Four hexadecimal digits. -/
def hex4 (n : Nat) : List Char :=
  [(n / 0x1000).digitChar, (n / 0x100 % 0x10).digitChar, (n / 0x10 % 0x10).digitChar,
    (n % 0x10).digitChar]

/-- What stands for a code unit in a string. -/
def escapeUnit (n : Nat) : List Char :=
  match shortEscapes.lookup n with
  | some letter => ['\\', letter]
  | none => if 0x20 ≤ n ∧ n ≤ 0x7e then [Char.ofNat n] else '\\' :: 'u' :: hex4 n

/-- What stands for a character in a string. -/
def escape (c : Char) : List Char := (utf16 c).flatMap escapeUnit

/-- A string in quotes. -/
def quote (s : String) : List Char := '"' :: s.toList.flatMap escape ++ ['"']

theorem readable_hex4 : Readable (· < 0x10000) hex4 := by
  have hdigit : ∀ a < 16, ∀ b < 16, a.digitChar = b.digitChar → a = b := by decide
  intro a b ha hb s t h
  obtain ⟨h3, h2, h1, h0, rfl⟩ : (a / 0x1000).digitChar = (b / 0x1000).digitChar ∧
      (a / 0x100 % 0x10).digitChar = (b / 0x100 % 0x10).digitChar ∧
      (a / 0x10 % 0x10).digitChar = (b / 0x10 % 0x10).digitChar ∧
      (a % 0x10).digitChar = (b % 0x10).digitChar ∧ s = t := by simpa [hex4] using h
  have heq3 := hdigit _ (by omega) _ (by omega) h3
  have heq2 := hdigit _ (by omega) _ (by omega) h2
  have heq1 := hdigit _ (by omega) _ (by omega) h1
  have heq0 := hdigit _ (by omega) _ (by omega) h0
  exact ⟨by omega, rfl⟩

theorem mem_of_lookup {n : Nat} {c : Char} (h : shortEscapes.lookup n = some c) :
    (n, c) ∈ shortEscapes := by
  obtain ⟨l₁, l₂, heq, -⟩ := List.lookup_eq_some_iff.1 h
  simp [heq]

/-- The three ways to write a code unit. -/
theorem escapeUnit_cases (n : Nat) :
    (∃ c, (n, c) ∈ shortEscapes ∧ escapeUnit n = ['\\', c]) ∨
      (n ≠ 0x5c ∧ n ≠ 0x22 ∧ 0x20 ≤ n ∧ n ≤ 0x7e ∧ escapeUnit n = [Char.ofNat n]) ∨
      escapeUnit n = '\\' :: 'u' :: hex4 n := by
  unfold escapeUnit
  cases h : shortEscapes.lookup n with
  | some c => exact Or.inl ⟨c, mem_of_lookup h, rfl⟩
  | none =>
      dsimp only
      split
      case isTrue hprint =>
        refine Or.inr (Or.inl ⟨?_, ?_, hprint.1, hprint.2, rfl⟩)
        · rintro rfl
          simp [shortEscapes] at h
        · rintro rfl
          simp [shortEscapes] at h
      case isFalse => exact Or.inr (Or.inr rfl)

theorem ofNat_ne {n : Nat} {c : Char} (hn : n ≤ 0x7e) (hne : n ≠ c.toNat) : Char.ofNat n ≠ c := by
  have hcode : ∀ n < 0x7f, (Char.ofNat n).toNat = n := by decide
  rintro rfl
  exact hne (hcode n (by omega)).symm

theorem readable_escapeUnit : Readable (· < 0x10000) escapeUnit := by
  have hinj : ∀ p ∈ shortEscapes, ∀ q ∈ shortEscapes, p.2 = q.2 → p.1 = q.1 := by decide
  have hletter : ∀ p ∈ shortEscapes, p.2 ≠ 'u' := by decide
  have hcode : ∀ n < 0x7f, (Char.ofNat n).toNat = n := by decide
  have hplain : ∀ n ≤ 0x7e, n ≠ 0x5c → Char.ofNat n ≠ '\\' := fun n hn hne => ofNat_ne hn hne
  intro a b ha hb s t h
  rcases escapeUnit_cases a with ⟨c, hc, ha'⟩ | ⟨hane, -, -, hale, ha'⟩ | ha'
  · rcases escapeUnit_cases b with ⟨d, hd, hb'⟩ | ⟨hbne, -, -, hble, hb'⟩ | hb'
    · obtain ⟨rfl, rfl⟩ : c = d ∧ s = t := by simpa [ha', hb'] using h
      exact ⟨hinj _ hc _ hd rfl, rfl⟩
    · obtain ⟨heq, -⟩ : '\\' = Char.ofNat b ∧ c :: s = t := by simpa [ha', hb'] using h
      exact absurd heq.symm (hplain b hble hbne)
    · obtain ⟨heq, -⟩ : c = 'u' ∧ s = hex4 b ++ t := by simpa [ha', hb'] using h
      exact absurd heq (hletter _ hc)
  · rcases escapeUnit_cases b with ⟨d, hd, hb'⟩ | ⟨hbne, -, -, hble, hb'⟩ | hb'
    · obtain ⟨heq, -⟩ : Char.ofNat a = '\\' ∧ s = d :: t := by simpa [ha', hb'] using h
      exact absurd heq (hplain a hale hane)
    · obtain ⟨heq, rfl⟩ : Char.ofNat a = Char.ofNat b ∧ s = t := by simpa [ha', hb'] using h
      rw [← hcode a (by omega), heq, hcode b (by omega)]
      exact ⟨rfl, rfl⟩
    · obtain ⟨heq, -⟩ : Char.ofNat a = '\\' ∧ s = 'u' :: (hex4 b ++ t) := by
        simpa [ha', hb'] using h
      exact absurd heq (hplain a hale hane)
  · rcases escapeUnit_cases b with ⟨d, hd, hb'⟩ | ⟨hbne, -, -, hble, hb'⟩ | hb'
    · obtain ⟨heq, -⟩ : 'u' = d ∧ hex4 a ++ s = t := by simpa [ha', hb'] using h
      exact absurd heq.symm (hletter _ hd)
    · obtain ⟨heq, -⟩ : '\\' = Char.ofNat b ∧ 'u' :: (hex4 a ++ s) = t := by
        simpa [ha', hb'] using h
      exact absurd heq.symm (hplain b hble hbne)
    · have hhex : hex4 a ++ s = hex4 b ++ t := by simpa [ha', hb'] using h
      exact readable_hex4 a b ha hb s t hhex

/-- A character is no surrogate. -/
theorem toNat_range (c : Char) : c.toNat < 0xd800 ∨ (0xdfff < c.toNat ∧ c.toNat < 0x110000) := by
  exact c.valid

theorem utf16_lt (c : Char) : ∀ n ∈ utf16 c, n < 0x10000 := by
  have hrange := toNat_range c
  unfold utf16
  split
  · simpa using ‹_›
  · simp only [List.mem_cons, List.not_mem_nil, or_false, forall_eq_or_imp, forall_eq]
    omega

theorem readable_utf16 : Readable (fun _ : Char => True) utf16 := by
  intro c d _ _ s t h
  have hc := toNat_range c
  have hd := toNat_range d
  have hchar : c.toNat = d.toNat → c = d := fun heq => Char.ext (UInt32.toNat_inj.1 heq)
  unfold utf16 at h
  split at h <;> split at h
  · obtain ⟨heq, rfl⟩ : c.toNat = d.toNat ∧ s = t := by simpa using h
    exact ⟨hchar heq, rfl⟩
  · obtain ⟨heq, -⟩ := List.cons.inj h
    omega
  · obtain ⟨heq, -⟩ := List.cons.inj h
    omega
  · obtain ⟨hhigh, hlow, rfl⟩ : (c.toNat - 0x10000) / 0x400 = (d.toNat - 0x10000) / 0x400 ∧
        (c.toNat - 0x10000) % 0x400 = (d.toNat - 0x10000) % 0x400 ∧ s = t := by simpa using h
    exact ⟨hchar (by omega), rfl⟩

theorem readable_escape : Readable (fun _ : Char => True) escape :=
  readable_utf16.comp readable_escapeUnit fun c _ => utf16_lt c

/-- No character is written as a quotation mark. -/
theorem escape_cons (c : Char) : ∃ d w, escape c = d :: w ∧ d ≠ '"' := by
  have hunit : ∀ n, ∃ d w, escapeUnit n = d :: w ∧ d ≠ '"' := by
    intro n
    rcases escapeUnit_cases n with ⟨letter, -, heq⟩ | ⟨-, hne, -, hle, heq⟩ | heq
    · exact ⟨_, _, heq, by decide⟩
    · exact ⟨_, _, heq, ofNat_ne hle hne⟩
    · exact ⟨_, _, heq, by decide⟩
  have hcons : ∃ n rest, utf16 c = n :: rest := by
    unfold utf16
    split
    · exact ⟨_, _, rfl⟩
    · exact ⟨_, _, rfl⟩
  obtain ⟨n, rest, hn⟩ := hcons
  obtain ⟨d, w, hd, hne⟩ := hunit n
  exact ⟨d, w ++ rest.flatMap escapeUnit, by rw [escape, hn, List.flatMap_cons, hd]; rfl, hne⟩

theorem readable_quote : Readable (fun _ : String => True) quote := by
  intro a b _ _ s t h
  have hbody : a.toList.flatMap escape ++ '"' :: s = b.toList.flatMap escape ++ '"' :: t := by
    simpa [quote] using h
  obtain ⟨heq, rfl⟩ := readable_escape.flatMap_inj (fun c _ => escape_cons c)
    (fun _ _ => trivial) (fun _ _ => trivial) hbody
  exact ⟨String.toList_injective heq, rfl⟩

/-! ## Numbers -/

/-- A text that does not go on with a digit. -/
def Delimited (s : List Char) : Prop := s.head?.all (!·.isDigit) = true

/-- An integer. -/
def decimal (n : Int) : List Char :=
  if n < 0 then '-' :: Nat.toDigits 10 n.natAbs else Nat.toDigits 10 n.natAbs

theorem isDigit_of_mem {n : Nat} {c : Char} (h : c ∈ Nat.toDigits 10 n) : c.isDigit = true :=
  Nat.isDigit_of_mem_toDigits (by decide) (by decide) h

theorem toDigits_cons (n : Nat) : ∃ c w, Nat.toDigits 10 n = c :: w ∧ c.isDigit = true := by
  cases h : Nat.toDigits 10 n with
  | nil => exact absurd h Nat.toDigits_ne_nil
  | cons c w => exact ⟨c, w, rfl, isDigit_of_mem (h ▸ List.mem_cons_self ..)⟩

theorem toDigits_append_inj {m n : Nat} {s t : List Char} (hs : Delimited s) (ht : Delimited t)
    (h : Nat.toDigits 10 m ++ s = Nat.toDigits 10 n ++ t) : m = n ∧ s = t := by
  have hspan : ∀ k u, Delimited u →
      (Nat.toDigits 10 k ++ u).takeWhile Char.isDigit = Nat.toDigits 10 k := by
    intro k u hu
    have hrest : u.takeWhile Char.isDigit = [] := by
      cases u with
      | nil => rfl
      | cons c u => exact List.takeWhile_cons_of_neg (by simpa [Delimited] using hu)
    rw [List.takeWhile_append_of_pos fun c hc => isDigit_of_mem hc, hrest, List.append_nil]
  have hdigits := congrArg (List.takeWhile Char.isDigit) h
  rw [hspan m s hs, hspan n t ht] at hdigits
  refine ⟨?_, List.append_cancel_left (hdigits ▸ h)⟩
  rw [← Nat.ofDigitChars_ten_toDigits (n := m), hdigits, Nat.ofDigitChars_ten_toDigits]

theorem decimal_append_inj {m n : Int} {s t : List Char} (hs : Delimited s) (ht : Delimited t)
    (h : decimal m ++ s = decimal n ++ t) : m = n ∧ s = t := by
  have hminus : ∀ k u v, Nat.toDigits 10 k ++ u ≠ '-' :: v := by
    intro k u v heq
    obtain ⟨c, w, hc, hdigit⟩ := toDigits_cons k
    rw [hc] at heq
    obtain ⟨rfl, -⟩ := List.cons.inj heq
    exact absurd hdigit (by decide)
  unfold decimal at h
  split at h <;> split at h
  · obtain ⟨heq, rfl⟩ := toDigits_append_inj hs ht (List.cons.inj h).2
    exact ⟨by omega, rfl⟩
  · exact absurd h.symm (hminus _ _ _)
  · exact absurd h (hminus _ _ _)
  · obtain ⟨heq, rfl⟩ := toDigits_append_inj hs ht h
    exact ⟨by omega, rfl⟩

end PyJson

/-! ## Documents -/

/-- A JSON document; the keys of an object are in the order of insertion. -/
inductive PyJson
  | null
  | bool (b : Bool)
  | int (n : Int)
  | str (s : String)
  | obj (items : List (String × PyJson))

namespace PyJson

mutual

/-- The text of a document. -/
def render : PyJson → List Char
  | null => ['n', 'u', 'l', 'l']
  | bool true => ['t', 'r', 'u', 'e']
  | bool false => ['f', 'a', 'l', 's', 'e']
  | int n => decimal n
  | str s => quote s
  | obj items => '{' :: renderItems [] items

/-- The entries of an object, with a separator before the first one. -/
def renderItems (separator : List Char) : List (String × PyJson) → List Char
  | [] => ['}']
  | (key, value) :: rest =>
      separator ++ quote key ++ [':', ' '] ++ render value ++ renderItems [',', ' '] rest

end

mutual

/-- The document with the keys of all objects in order. -/
def sortKeys : PyJson → PyJson
  | obj items => obj ((sortValues items).insertionSort fun a b => a.1 ≤ b.1)
  | null => null
  | bool b => bool b
  | int n => int n
  | str s => str s

/-- The same in the values of an object. -/
def sortValues : List (String × PyJson) → List (String × PyJson)
  | [] => []
  | (key, value) :: rest => (key, sortKeys value) :: sortValues rest

end

/-- `json.dumps(doc, sort_keys=True)`. -/
def dumps (doc : PyJson) : String := String.ofList (render (sortKeys doc))

theorem render_int (n : Int) : render (int n) = decimal n := rfl

theorem renderItems_cons (separator : List Char) (key : String) (value : PyJson)
    (rest : List (String × PyJson)) : renderItems separator ((key, value) :: rest) =
      separator ++ quote key ++ [':', ' '] ++ render value ++ renderItems [',', ' '] rest := rfl

theorem sortKeys_obj (items : List (String × PyJson)) : sortKeys (obj items) =
    obj ((sortValues items).insertionSort fun a b => a.1 ≤ b.1) := rfl

theorem sortValues_cons (key : String) (value : PyJson) (rest : List (String × PyJson)) :
    sortValues ((key, value) :: rest) = (key, sortKeys value) :: sortValues rest := rfl

/-- The kinds of documents, which their texts begin with. -/
def kind : PyJson → Nat
  | null => 0
  | bool _ => 1
  | int _ => 2
  | str _ => 3
  | obj _ => 4

/-- The kind that a first character stands for. -/
def kindOf (c : Char) : Nat :=
  if c = 'n' then 0 else if c = 't' ∨ c = 'f' then 1 else if c = '"' then 3
  else if c = '{' then 4 else 2

theorem kindOf_digit {c : Char} (h : c.isDigit = true) : kindOf c = 2 := by
  have hne : ∀ d : Char, d.isDigit = false → c ≠ d := by
    intro d hd heq
    rw [heq, hd] at h
    cases h
  simp [kindOf, hne 'n' (by decide), hne 't' (by decide), hne 'f' (by decide),
    hne '"' (by decide), hne '{' (by decide)]

theorem render_cons (doc : PyJson) : ∃ c w, render doc = c :: w ∧ kindOf c = kind doc := by
  cases doc with
  | null => exact ⟨_, _, rfl, rfl⟩
  | bool b =>
      cases b with
      | true => exact ⟨_, _, rfl, rfl⟩
      | false => exact ⟨_, _, rfl, rfl⟩
  | int n =>
      obtain ⟨c, w, hc, hdigit⟩ := toDigits_cons n.natAbs
      rw [render_int, decimal]
      split
      · exact ⟨_, _, rfl, rfl⟩
      · exact ⟨c, w, hc, kindOf_digit hdigit⟩
  | str s => exact ⟨_, _, rfl, rfl⟩
  | obj items => exact ⟨_, _, rfl, rfl⟩

/-- Texts that begin alike are of documents of one kind. -/
theorem kind_eq {a b : PyJson} {s t : List Char} (h : render a ++ s = render b ++ t) :
    kind a = kind b := by
  obtain ⟨c, v, hc, hkind⟩ := render_cons a
  obtain ⟨d, w, hd, hkind'⟩ := render_cons b
  rw [hc, hd] at h
  rw [← hkind, ← hkind', (List.cons.inj h).1]

theorem delimited_renderItems (items : List (String × PyJson)) (s : List Char) :
    Delimited (renderItems [',', ' '] items ++ s) := by
  cases items with
  | nil => rfl
  | cons item rest => rfl

/-- An entry does not begin like the end of an object. -/
theorem renderItems_cons_ne {separator : List Char}
    (hsep : separator = [] ∨ separator = [',', ' ']) (item : String × PyJson)
    (rest : List (String × PyJson)) (s t : List Char) :
    renderItems separator (item :: rest) ++ s ≠ '}' :: t := by
  obtain ⟨key, value⟩ := item
  rcases hsep with rfl | rfl
  · simp [renderItems_cons, quote]
  · simp [renderItems_cons]

mutual

/-- **Documents are known from their texts.** -/
theorem render_append_inj : ∀ (a b : PyJson) (s t : List Char), Delimited s → Delimited t →
    render a ++ s = render b ++ t → a = b ∧ s = t
  | null, b, s, t, hs, ht, h => by
      have hkind := kind_eq h
      cases b with
      | null => exact ⟨rfl, List.append_cancel_left h⟩
      | _ => simp [kind] at hkind
  | bool a, b, s, t, hs, ht, h => by
      have hkind := kind_eq h
      cases b with
      | bool b =>
          have hab : a = b := by
            cases a <;> cases b <;> simp [render] at h ⊢
          subst hab
          exact ⟨rfl, List.append_cancel_left h⟩
      | _ => simp [kind] at hkind
  | int m, b, s, t, hs, ht, h => by
      have hkind := kind_eq h
      cases b with
      | int n =>
          obtain ⟨rfl, rfl⟩ := decimal_append_inj hs ht h
          exact ⟨rfl, rfl⟩
      | _ => simp [kind] at hkind
  | str a, b, s, t, hs, ht, h => by
      have hkind := kind_eq h
      cases b with
      | str b =>
          obtain ⟨rfl, rfl⟩ := readable_quote a b trivial trivial s t h
          exact ⟨rfl, rfl⟩
      | _ => simp [kind] at hkind
  | obj l, b, s, t, hs, ht, h => by
      have hkind := kind_eq h
      cases b with
      | obj m =>
          obtain ⟨rfl, rfl⟩ := renderItems_append_inj l m [] s t (Or.inl rfl) (List.cons.inj h).2
          exact ⟨rfl, rfl⟩
      | _ => simp [kind] at hkind

theorem renderItems_append_inj : ∀ (l m : List (String × PyJson)) (separator s t : List Char),
    separator = [] ∨ separator = [',', ' '] →
    renderItems separator l ++ s = renderItems separator m ++ t → l = m ∧ s = t
  | [], m, separator, s, t, hsep, h => by
      cases m with
      | nil => exact ⟨rfl, (List.cons.inj h).2⟩
      | cons item rest => exact absurd h.symm (renderItems_cons_ne hsep item rest t s)
  | (key, value) :: l, m, separator, s, t, hsep, h => by
      cases m with
      | nil => exact absurd h (renderItems_cons_ne hsep (key, value) l s t)
      | cons item m =>
          obtain ⟨key', value'⟩ := item
          rw [renderItems_cons, renderItems_cons] at h
          simp only [List.append_assoc, List.append_cancel_left_eq] at h
          obtain ⟨rfl, hvalue⟩ := readable_quote key key' trivial trivial _ _ h
          obtain ⟨rfl, hrest⟩ := render_append_inj value value' _ _ (delimited_renderItems l s)
            (delimited_renderItems m t) (List.append_cancel_left hvalue)
          obtain ⟨rfl, rfl⟩ := renderItems_append_inj l m [',', ' '] s t (Or.inr rfl) hrest
          exact ⟨rfl, rfl⟩

end

theorem render_injective {a b : PyJson} (h : render a = render b) : a = b :=
  (render_append_inj a b [] [] rfl rfl (by rw [h])).1

/-! ## Entries -/

theorem mem_sortValues {items : List (String × PyJson)} {key : String} {value : PyJson} :
    (key, value) ∈ sortValues items ↔ ∃ v, (key, v) ∈ items ∧ sortKeys v = value := by
  induction items with
  | nil => simp [sortValues]
  | cons item rest ih =>
      obtain ⟨k, v⟩ := item
      rw [sortValues_cons, List.mem_cons, ih]
      constructor
      · rintro (heq | ⟨v', hmem, rfl⟩)
        · obtain ⟨rfl, rfl⟩ := Prod.mk.inj heq
          exact ⟨v, List.mem_cons_self .., rfl⟩
        · exact ⟨v', List.mem_cons_of_mem _ hmem, rfl⟩
      · rintro ⟨v', hmem, rfl⟩
        rcases List.mem_cons.1 hmem with heq | hmem
        · obtain ⟨rfl, rfl⟩ := Prod.mk.inj heq
          exact Or.inl rfl
        · exact Or.inr ⟨v', hmem, rfl⟩

/-- Objects that are the same in order have the same value under a key. -/
theorem entry_eq (key : String) {l m : List (String × PyJson)}
    (h : sortKeys (obj l) = sortKeys (obj m)) {value value' : PyJson} (hmem : (key, value) ∈ l)
    (honly : ∀ v, (key, v) ∈ m → v = value') : sortKeys value = sortKeys value' := by
  rw [sortKeys_obj, sortKeys_obj] at h
  have hsorted : (key, sortKeys value) ∈
      (sortValues l).insertionSort fun a b => a.1 ≤ b.1 :=
    (List.mem_insertionSort _).2 (mem_sortValues.2 ⟨value, hmem, rfl⟩)
  rw [PyJson.obj.inj h] at hsorted
  obtain ⟨v, hv, hvalue⟩ := mem_sortValues.1 ((List.mem_insertionSort _).1 hsorted)
  rw [← hvalue, honly v hv]

/-- **Texts with their keys in order are of the same documents.** -/
theorem sortKeys_eq_of_dumps_eq {a b : PyJson} (h : dumps a = dumps b) :
    sortKeys a = sortKeys b := render_injective (String.ofList_injective h)

end PyJson
