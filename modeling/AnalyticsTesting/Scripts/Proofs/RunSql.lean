import AnalyticsTesting.Scripts.RunSql
import AnalyticsTesting.Scripts.Proofs.Resplit
import Mathlib.Data.List.DropRight

set_option autoImplicit false

/-! # Secrets are not printed

Two texts are `Alike` if they differ in secrets only, each of them behind `password=`. `redact`
makes the same text of them (`redact_eq_of_alike`), and the scripts are split into statements that
are alike (`splitStatements_alike`). So two runs of alike scripts cannot be told apart by what they
print and return (`runSql_hides`), as long as the databases return the same rows for the statements
that are run, and the exception, if one fails, quotes secrets only behind `password=`. -/

namespace AnalyticsTesting.Scripts

open PyNumber (isSpace)
open Regex

/-! ## Texts that differ in secrets -/

/-- A password that can be written into a connection string without escapes. -/
structure Secret (p : List Char) : Prop where
  ne_nil : p ≠ []
  visible : ∀ c ∈ p, isSpace c = false
  unquoted : ∀ c ∈ p, c ≠ '\'' ∧ c ≠ ';'

theorem secret_of_all {p : List Char} (hne : p ≠ [])
    (hall : p.all (fun c => !isSpace c && c != '\'' && c != ';') = true) : Secret p := by
  have hmem := List.all_eq_true.1 hall
  refine ⟨hne, fun c hc => ?_, fun c hc => ?_⟩
  · have hc := hmem c hc
    simp only [Bool.and_eq_true, Bool.not_eq_true'] at hc
    exact hc.1.1
  · have hc := hmem c hc
    simp only [Bool.and_eq_true, bne_iff_ne] at hc
    exact ⟨hc.1.2, hc.2⟩

/-- The texts are the same but for secrets. -/
inductive Alike : List Char → List Char → Prop
  | nil : Alike [] []
  | char (c : Char) {u v : List Char} (h : Alike u v) : Alike (c :: u) (c :: v)
  | secret {p q u v : List Char} (hp : Secret p) (hq : Secret q) (h : Alike u v) :
      Alike (passwordKey ++ (p ++ u)) (passwordKey ++ (q ++ v))

theorem Alike.refl (u : List Char) : Alike u u := by
  induction u with
  | nil => exact .nil
  | cons c u ih => exact .char c ih

theorem Alike.symm {u v : List Char} (h : Alike u v) : Alike v u := by
  induction h with
  | nil => exact .nil
  | char c _ ih => exact .char c ih
  | secret hp hq _ ih => exact .secret hq hp ih

theorem Alike.append {u v u' v' : List Char} (h : Alike u v) (h' : Alike u' v') :
    Alike (u ++ u') (v ++ v') := by
  induction h with
  | nil => exact h'
  | char c _ ih => exact .char c ih
  | secret hp hq _ ih =>
      simp only [List.append_assoc]
      exact .secret hp hq ih

theorem Alike.eq_nil {v : List Char} (h : Alike [] v) : v = [] := by
  generalize hu : ([] : List Char) = u at h
  cases h with
  | nil => rfl
  | char c h => simp at hu
  | secret hp hq h => simp [passwordKey] at hu

/-- No secret begins in a text without a `p`. -/
theorem Alike.exists_append {x w v : List Char} (h : Alike (x ++ w) v) (hx : 'p' ∉ x) :
    ∃ w', v = x ++ w' ∧ Alike w w' := by
  induction x generalizing v with
  | nil => exact ⟨v, rfl, h⟩
  | cons c x ih =>
      generalize hu : c :: x ++ w = u at h
      cases h with
      | nil => simp at hu
      | @char d u v h =>
          obtain ⟨rfl, rfl⟩ := List.cons.inj hu
          obtain ⟨w', rfl, hw⟩ := ih h fun hmem => hx (List.mem_cons_of_mem c hmem)
          exact ⟨w', rfl, hw⟩
      | secret hp hq h =>
          obtain ⟨rfl, -⟩ := List.cons.inj hu
          exact absurd List.mem_cons_self hx

/-! ## `redact` -/

theorem visible_passwordKey : ∀ c ∈ passwordKey, isSpace c = false := by
  have hall : passwordKey.all (fun c => !isSpace c) = true := by decide
  simpa using hall

theorem visible_secret {p : List Char} (hp : Secret p) :
    ∀ c ∈ passwordKey ++ p, isSpace c = false := by
  intro c hc
  rcases List.mem_append.1 hc with hc | hc
  · exact visible_passwordKey c hc
  · exact hp.visible c hc

theorem lang_secretRe {u t : List Char} : secretRe.Lang u t ↔
    ∃ p, u = passwordKey ++ p ∧ p ≠ [] ∧ ∀ c ∈ p, isSpace c = false := by
  constructor
  · rintro ⟨v, w, rfl, rfl, hw⟩
    obtain ⟨hne, hall⟩ := lang_plus.1 hw
    exact ⟨w, rfl, hne, by simpa using hall⟩
  · rintro ⟨p, rfl, hne, hall⟩
    exact ⟨passwordKey, p, rfl, rfl, lang_plus.2 ⟨hne, by simpa using hall⟩⟩

theorem consuming_secretRe : Consuming secretRe :=
  consuming_of_lang fun u v h => by
    obtain ⟨p, rfl, -, -⟩ := lang_secretRe.1 h
    simp [passwordKey]

/-- The rest of a text, behind the characters that are no blanks. -/
def afterWord (t : List Char) : List Char := t.dropWhile fun c => !isSpace c

theorem afterWord_cons (c : Char) (t : List Char) :
    afterWord (c :: t) = if isSpace c then c :: t else afterWord t := by
  cases hc : isSpace c with
  | true => simp [afterWord, hc]
  | false => simp [afterWord, hc]

/-- A word is passed over. -/
theorem afterWord_append {p : List Char} (hp : ∀ c ∈ p, isSpace c = false) (t : List Char) :
    afterWord (p ++ t) = afterWord t :=
  List.dropWhile_append_of_pos fun c hc => by simpa using hp c hc

theorem redact_cons_of_none {c : Char} {t : List Char} (h : secretRe.results (c :: t) = []) :
    redact (c :: t) = c :: redact t := by
  rw [redact, sub, pieces_of_none consuming_secretRe h]
  rfl

/-- Behind the key everything up to the next blank is hidden. -/
theorem redact_password {c : Char} (hc : isSpace c = false) (t : List Char) :
    redact (passwordKey ++ c :: t) = passwordKey ++ ['*', '*', '*'] ++ redact (afterWord t) := by
  have hstops : Stops (fun c => !isSpace c) (afterWord t) := by
    intro d hd
    exact Scanner.head?_dropWhile t d hd
  have hword : ∀ d ∈ c :: t.takeWhile (fun c => !isSpace c), (!isSpace d) = true := by
    intro d hd
    rcases List.mem_cons.1 hd with rfl | hd
    · simpa using hc
    · exact List.mem_takeWhile_imp (p := fun c => !isSpace c) hd
  have hrest := takes_last (takes_plus (ν := Unit) (List.cons_ne_nil c _) hword hstops)
  have hkey := takes_group (takes_lit (ν := Unit) passwordKey
    (c :: t.takeWhile (fun c => !isSpace c) ++ afterWord t)) ()
  have htakes := takes_seqs hkey hrest
  have hwhole : t.takeWhile (fun c => !isSpace c) ++ afterWord t = t :=
    List.takeWhile_append_dropWhile
  rw [List.cons_append, hwhole] at htakes
  rw [redact, sub, pieces_of_takes consuming_secretRe htakes, List.flatMap_cons]
  rfl

theorem results_secretRe_eq_nil_iff {t : List Char} : secretRe.results t = [] ↔
    ∀ c w, isSpace c = false → t ≠ passwordKey ++ c :: w := by
  constructor
  · rintro h c w hc rfl
    have hlang : secretRe.Lang (passwordKey ++ [c]) w :=
      lang_secretRe.2 ⟨[c], rfl, List.cons_ne_nil _ _, by simpa using hc⟩
    refine first_ne_none hlang ?_
    rw [List.append_assoc, List.singleton_append]
    exact first_eq_none_iff.2 h
  · intro h
    refine results_eq_nil fun u v hlang heq => ?_
    obtain ⟨p, rfl, hne, hall⟩ := lang_secretRe.1 hlang
    obtain ⟨c, p, rfl⟩ := List.exists_cons_of_ne_nil hne
    refine h c (p ++ v) (hall c List.mem_cons_self) ?_
    rw [heq, List.append_assoc, List.cons_append]

/-- What is behind a word is alike. -/
theorem Alike.rest {u v : List Char} (h : Alike u v) : Alike (afterWord u) (afterWord v) := by
  induction h with
  | nil => exact .nil
  | @char c u v h ih =>
      rw [afterWord_cons, afterWord_cons]
      split
      · exact .char c h
      · exact ih
  | @secret p q u v hp hq h ih =>
      rw [← List.append_assoc, ← List.append_assoc, afterWord_append (visible_secret hp),
        afterWord_append (visible_secret hq)]
      exact ih

/-- A secret ends no word and a word begins with the same character. -/
theorem Alike.exists_cons {c : Char} {w v : List Char} (h : Alike (c :: w) v) :
    ∃ w', v = c :: w' ∧ Alike (afterWord w) (afterWord w') := by
  generalize hu : c :: w = u at h
  cases h with
  | nil => simp at hu
  | @char d u v h =>
      obtain ⟨rfl, rfl⟩ := List.cons.inj hu
      exact ⟨v, rfl, h.rest⟩
  | @secret p q u v hp hq h =>
      obtain ⟨rfl, rfl⟩ := List.cons.inj hu
      refine ⟨_, rfl, ?_⟩
      have hrest := (Alike.secret hp hq h).rest
      simpa [passwordKey, afterWord_cons, show isSpace 'p' = false by decide] using hrest

/-- A key with something behind it is met by one in an alike text. -/
theorem Alike.exists_password {c : Char} {w v : List Char} (h : Alike (passwordKey ++ c :: w) v)
    (hc : isSpace c = false) : ∃ d w', isSpace d = false ∧ v = passwordKey ++ d :: w' ∧
      Alike (afterWord w) (afterWord w') := by
  generalize hu : passwordKey ++ c :: w = u at h
  cases h with
  | nil => simp [passwordKey] at hu
  | @char d u v h =>
      obtain ⟨rfl, rfl⟩ := List.cons.inj hu
      obtain ⟨w', rfl, hw⟩ := Alike.exists_append (x := passwordKey.tail) h (by decide)
      obtain ⟨w'', rfl, hskip⟩ := hw.exists_cons
      exact ⟨c, w'', hc, rfl, hskip⟩
  | @secret p q u v hp hq h =>
      obtain ⟨d, q', rfl⟩ := List.exists_cons_of_ne_nil hq.ne_nil
      obtain ⟨c', p', rfl⟩ := List.exists_cons_of_ne_nil hp.ne_nil
      obtain ⟨rfl, rfl⟩ := List.cons.inj (List.append_cancel_left hu)
      refine ⟨d, q' ++ v, hq.visible d List.mem_cons_self, rfl, ?_⟩
      have hp' := afterWord_append (fun c hc => hp.visible c (List.mem_cons_of_mem _ hc)) u
      have hq' := afterWord_append (fun c hc => hq.visible c (List.mem_cons_of_mem _ hc)) v
      exact hp' ▸ hq' ▸ h.rest

/-- **Redacted texts that are alike are the same.** -/
theorem redact_eq_of_alike : ∀ {u v : List Char}, Alike u v → redact u = redact v := by
  suffices hlen : ∀ (n : Nat) (u v : List Char), u.length ≤ n → Alike u v → redact u = redact v from
    fun {u v} h => hlen u.length u v le_rfl h
  intro n
  induction n with
  | zero =>
      intro u v hn h
      obtain rfl := List.length_eq_zero_iff.1 (Nat.le_zero.1 hn)
      rw [h.eq_nil]
  | succ n ih =>
      intro u v hn h
      -- either there is a secret at the front of both, or there is none
      by_cases hnone : secretRe.results u = []
      · have hnone' : secretRe.results v = [] := by
          rw [results_secretRe_eq_nil_iff] at hnone ⊢
          rintro c w hc rfl
          obtain ⟨d, w', hd, heq, -⟩ := h.symm.exists_password hc
          exact hnone d w' hd heq
        cases h with
        | nil => rfl
        | @char c u v h =>
            rw [redact_cons_of_none hnone, redact_cons_of_none hnone',
              ih u v (Nat.le_of_succ_le_succ hn) h]
        | @secret p q u v hp hq h =>
            obtain ⟨c, p, rfl⟩ := List.exists_cons_of_ne_nil hp.ne_nil
            exact absurd rfl
              (results_secretRe_eq_nil_iff.1 hnone c (p ++ u) (hp.visible c List.mem_cons_self))
      · rw [results_secretRe_eq_nil_iff] at hnone
        push Not at hnone
        obtain ⟨c, w, hc, rfl⟩ := hnone
        obtain ⟨d, w', hd, rfl, hrest⟩ := h.exists_password hc
        rw [redact_password hc, redact_password hd, ih _ _ ?_ hrest]
        have hle := (List.dropWhile_sublist (l := w) fun c => !isSpace c).length_le
        simp only [List.length_append, List.length_cons] at hn
        change (afterWord w).length ≤ w.length at hle
        omega

/-! ## Statements -/

theorem Alike.blank_iff {u v : List Char} (h : Alike u v) :
    (∀ c ∈ u, isSpace c = true) ↔ ∀ c ∈ v, isSpace c = true := by
  induction h with
  | nil => exact Iff.rfl
  | char c _ ih => rw [List.forall_mem_cons, List.forall_mem_cons, ih]
  | @secret p q u v hp hq _ _ =>
      have hkey : isSpace 'p' = false := by decide
      simp [passwordKey, hkey]

theorem Alike.dropWhile {u v : List Char} (h : Alike u v) :
    Alike (u.dropWhile isSpace) (v.dropWhile isSpace) := by
  induction h with
  | nil => exact .nil
  | @char c u v h ih =>
      rw [List.dropWhile_cons, List.dropWhile_cons]
      split
      · exact ih
      · exact .char c h
  | @secret p q u v hp hq h _ =>
      have hkey : isSpace 'p' = false := by decide
      have hsame : ∀ t : List Char, (passwordKey ++ t).dropWhile isSpace = passwordKey ++ t := by
        intro t
        exact List.dropWhile_cons_of_neg (by simp [hkey])
      rw [hsame, hsame]
      exact .secret hp hq h

/-- Blanks at the end are removed from the last part that is not blank. -/
theorem rdropWhile_append (u v : List Char) : (u ++ v).rdropWhile isSpace =
    if v.rdropWhile isSpace = [] then u.rdropWhile isSpace else u ++ v.rdropWhile isSpace := by
  unfold List.rdropWhile
  rw [List.reverse_append, List.dropWhile_append]
  by_cases hnil : v.reverse.dropWhile isSpace = []
  · simp [hnil]
  · simp [hnil]

theorem Alike.rdropWhile {u v : List Char} (h : Alike u v) :
    Alike (u.rdropWhile isSpace) (v.rdropWhile isSpace) := by
  have hword : ∀ {p : List Char}, Secret p →
      (passwordKey ++ p).rdropWhile isSpace = passwordKey ++ p := by
    intro p hp
    rw [List.rdropWhile_eq_self_iff]
    intro hne hlast
    have hvisible := visible_secret hp _ (List.getLast_mem hne)
    rw [hlast] at hvisible
    exact Bool.noConfusion hvisible
  induction h with
  | nil => exact .nil
  | @char c u v h ih =>
      have hnil : u.rdropWhile isSpace = [] ↔ v.rdropWhile isSpace = [] := by
        rw [List.rdropWhile_eq_nil_iff, List.rdropWhile_eq_nil_iff]
        exact h.blank_iff
      have hu := rdropWhile_append [c] u
      have hv := rdropWhile_append [c] v
      rw [List.singleton_append] at hu hv
      rw [hu, hv]
      by_cases hblank : u.rdropWhile isSpace = []
      · rw [if_pos hblank, if_pos (hnil.1 hblank)]
        exact .refl _
      · rw [if_neg hblank, if_neg (mt hnil.2 hblank)]
        exact .char c ih
  | @secret p q u v hp hq h ih =>
      have hnil : u.rdropWhile isSpace = [] ↔ v.rdropWhile isSpace = [] := by
        rw [List.rdropWhile_eq_nil_iff, List.rdropWhile_eq_nil_iff]
        exact h.blank_iff
      rw [← List.append_assoc, ← List.append_assoc, rdropWhile_append (passwordKey ++ p) u,
        rdropWhile_append (passwordKey ++ q) v, hword hp, hword hq]
      by_cases hblank : u.rdropWhile isSpace = []
      · rw [if_pos hblank, if_pos (hnil.1 hblank)]
        simpa using Alike.secret hp hq .nil
      · rw [if_neg hblank, if_neg (mt hnil.2 hblank), List.append_assoc, List.append_assoc]
        exact .secret hp hq ih

theorem Alike.trim {u v : List Char} (h : Alike u v) :
    Alike (Scanner.trim isSpace u) (Scanner.trim isSpace v) := h.dropWhile.rdropWhile

/-- What is left of pieces that are alike is alike. -/
theorem Alike.filterMap_entry {ps qs : List (List Char)} (h : List.Forall₂ Alike ps qs) :
    List.Forall₂ Alike (ps.filterMap (Scanner.entry isSpace))
      (qs.filterMap (Scanner.entry isSpace)) := by
  induction h with
  | nil => exact .nil
  | @cons p q ps qs hpq _ ih =>
      have htrim := hpq.trim
      by_cases hp : Scanner.trim isSpace p = []
      · have hq : Scanner.trim isSpace q = [] := by
          rw [hp] at htrim
          exact htrim.eq_nil
        have hp' : Scanner.entry isSpace p = none := if_pos hp
        have hq' : Scanner.entry isSpace q = none := if_pos hq
        rwa [List.filterMap_cons_none hp', List.filterMap_cons_none hq']
      · have hq : Scanner.trim isSpace q ≠ [] := by
          intro hnil
          rw [hnil] at htrim
          exact hp htrim.symm.eq_nil
        have hp' : Scanner.entry isSpace p = some (Scanner.trim isSpace p) := if_neg hp
        have hq' : Scanner.entry isSpace q = some (Scanner.trim isSpace q) := if_neg hq
        rw [List.filterMap_cons_some hp', List.filterMap_cons_some hq']
        exact .cons htrim ih

/-- A secret and its key are passed over by the scanner. -/
theorem pieces_secret {p : List Char} (hp : Secret p) (inQuote : Bool) (buf t : List Char) :
    quoteBit.pieces inQuote buf (passwordKey ++ (p ++ t))
      = quoteBit.pieces inQuote (buf ++ (passwordKey ++ p)) t := by
  have hplain : ∀ c ∈ passwordKey ++ p, c ≠ '\'' ∧ c ≠ ';' := by
    intro c hc
    rcases List.mem_append.1 hc with hc | hc
    · have hall : passwordKey.all (fun c => c != '\'' && c != ';') = true := by decide
      simpa using List.all_eq_true.1 hall c hc
    · exact hp.unquoted c hc
  rw [← List.append_assoc]
  generalize passwordKey ++ p = word at hplain
  induction word generalizing buf with
  | nil => simp
  | cons c word ih =>
      obtain ⟨hquote, hsemi⟩ := hplain c List.mem_cons_self
      have hcut : quoteBit.cuts inQuote c = false :=
        Bool.eq_false_of_not_eq_true fun h => hsemi (quoteBit_cuts_iff.1 h).1
      rw [List.cons_append, Scanner.pieces_of_not_cuts hcut, quoteBit_next, if_neg hquote,
        ih _ fun d hd => hplain d (List.mem_cons_of_mem c hd)]
      simp

theorem Alike.pieces {u v : List Char} (h : Alike u v) : ∀ (inQuote : Bool) {a b : List Char},
    Alike a b → List.Forall₂ Alike (quoteBit.pieces inQuote a u) (quoteBit.pieces inQuote b v) := by
  induction h with
  | nil => exact fun _ _ _ hab => .cons hab .nil
  | @char c u v _ ih =>
      intro inQuote a b hab
      cases hcut : quoteBit.cuts inQuote c with
      | true =>
          rw [Scanner.pieces_of_cuts hcut, Scanner.pieces_of_cuts hcut]
          exact .cons hab (ih _ .nil)
      | false =>
          rw [Scanner.pieces_of_not_cuts hcut, Scanner.pieces_of_not_cuts hcut]
          exact ih _ (hab.append (.refl [c]))
  | @secret p q u v hp hq _ ih =>
      intro inQuote a b hab
      rw [pieces_secret hp, pieces_secret hq]
      refine ih _ (hab.append ?_)
      simpa using Alike.secret hp hq .nil

/-- Strings that are alike. -/
def AlikeText (x y : String) : Prop := Alike x.toList y.toList

/-- **Scripts that are alike have statements that are alike.** -/
theorem splitStatements_alike {sql sql' : String} (h : AlikeText sql sql') :
    List.Forall₂ AlikeText (splitStatements sql) (splitStatements sql') := by
  have hentries := Alike.filterMap_entry (Alike.pieces h false .nil)
  rw [splitStatements_eq, splitStatements_eq, List.forall₂_map_left_iff,
    List.forall₂_map_right_iff]
  refine hentries.imp fun a b hab => ?_
  simpa [AlikeText] using hab

/-! ## Runs -/

section Runs

variable {σ τ ρ : Type}

/-- The two databases answer the statements that are run alike, one after another: with the same
    rows, or, at the end, with exceptions that differ in secrets only. -/
inductive RunsAlike (db : Database σ ρ) (db' : Database τ ρ) :
    σ → τ → List String → List String → Prop
  | nil (s : σ) (t : τ) : RunsAlike db db' s t [] []
  | failed {s s' : σ} {t t' : τ} {stmt stmt' exc exc' : String} (rest rest' : List String)
      (hs : db.execute s stmt = (s', .failed exc)) (ht : db'.execute t stmt' = (t', .failed exc'))
      (hexc : AlikeText exc exc') : RunsAlike db db' s t (stmt :: rest) (stmt' :: rest')
  | cursor {s s' : σ} {t t' : τ} {stmt stmt' : String} {columns : List String}
      {rows : List (List ρ)} {rest rest' : List String}
      (hs : db.execute s stmt = (s', .cursor columns rows))
      (ht : db'.execute t stmt' = (t', .cursor columns rows))
      (hrest : RunsAlike db db' s' t' rest rest') :
      RunsAlike db db' s t (stmt :: rest) (stmt' :: rest')

variable {db : Database σ ρ} {db' : Database τ ρ}

theorem failureReport_eq {idx : Nat} {exc exc' stmt stmt' : String} (hexc : AlikeText exc exc')
    (hstmt : AlikeText stmt stmt') : failureReport idx exc stmt = failureReport idx exc' stmt' := by
  have hexc' := redact_eq_of_alike hexc
  have hstmt' := redact_eq_of_alike hstmt
  unfold failureReport
  rw [hexc', hstmt']

theorem runStatements_eq (writers : Writers ρ) (fmt : Format) (lastOnly : Bool)
    {stmts stmts' : List String} (h : List.Forall₂ AlikeText stmts stmts') :
    ∀ (idx : Nat) {s : σ} {t : τ}, RunsAlike db db' s t stmts stmts' →
      runStatements db writers fmt lastOnly idx s stmts
        = runStatements db' writers fmt lastOnly idx t stmts' := by
  induction h with
  | nil => exact fun _ _ _ _ => rfl
  | @cons stmt stmt' rest rest' hstmt hrest ih =>
      intro idx s t hruns
      have hempty : rest.isEmpty = rest'.isEmpty := by
        cases hrest <;> rfl
      rw [runStatements, runStatements]
      cases hruns with
      | failed _ _ hs ht hexc =>
          rw [hs, ht]
          exact congrArg (RunOutput.mk "" · 1) (failureReport_eq hexc hstmt)
      | cursor hs ht hruns => simp only [hs, ht, hempty, ih (idx + 1) hruns]

end Runs

/-- A database that quotes the statement it cannot execute, and returns the texts of the others. -/
def quoting : Database Unit String where
  execute _ stmt :=
    if stmt.toList.head? = some 'A' then ((), .failed ("IO Error: cannot attach: " ++ stmt))
    else ((), .cursor ["statement"] [[stmt]])

theorem toList_passwordKey : "password=".toList = passwordKey := by decide +kernel

theorem alikeText_password (before after : String) {p q : String} (hp : Secret p.toList)
    (hq : Secret q.toList) :
    AlikeText (before ++ "password=" ++ p ++ after) (before ++ "password=" ++ q ++ after) := by
  unfold AlikeText
  simp only [String.toList_append, List.append_assoc, toList_passwordKey]
  exact .append (.refl _) (.secret hp hq (.refl _))

theorem AlikeText.append_left {x y : String} (h : AlikeText x y) (before : String) :
    AlikeText (before ++ x) (before ++ y) := by
  unfold AlikeText
  rw [String.toList_append, String.toList_append]
  exact .append (.refl _) h

/-- A script that selects something, and attaches a catalog with a password. -/
def attachScript (password : String) : String :=
  "SELECT 'a;b';\n ATTACH 'ducklake:postgres:user=u " ++ "password=" ++ password ++ "' AS lake;"

end AnalyticsTesting.Scripts
