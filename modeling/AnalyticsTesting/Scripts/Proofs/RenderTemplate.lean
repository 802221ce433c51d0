import AnalyticsTesting.Scripts.RenderTemplate
import Mathlib.Data.List.Sort

set_option autoImplicit false

/-! # What a template file means

Every file is the print of exactly one template that can be read back, and rendering the file gives
what the template says: its characters, with the values of the keys in the holes (`render_spec`).
The values are not read again, whatever is in them, and if a key has no value nothing is written. -/

namespace AnalyticsTesting.Scripts

open Regex Template

/-- A template of a configuration file. -/
abbrev Tokens := List (Token placeholderForm)

/-- The keys in the holes. -/
def templateKeys (ts : Tokens) : List String := (names ts).map String.ofList

/-- What a template says in an environment that has all of its keys. -/
def templateValue (environ : String → Option String) (ts : Tokens) : List Char :=
  fill (fun key => ((environ (String.ofList key.text)).getD "").toList) ts

/-- What comes out of a template. -/
structure TemplateRendered (environ : String → Option String) (src : String) (ts : Tokens)
    (result : Except String (List Char)) : Prop where
  /-- The text, if every key has a value. -/
  ok : (∀ key ∈ templateKeys ts, environ key ≠ none) → result = .ok (templateValue environ ts)
  /-- Otherwise the keys that have none, in order and each once. -/
  error : (∃ key ∈ templateKeys ts, environ key = none) →
    ∃ keys : List String, keys.Pairwise (· < ·) ∧
      (∀ key, key ∈ keys ↔ key ∈ templateKeys ts ∧ environ key = none) ∧
      result = .error ("unresolved placeholders in " ++ src ++ ": " ++ ", ".intercalate keys)

variable {ts : Tokens}

theorem mem_templateKeys {name : Name placeholderForm} (h : name.text ∈ names ts) :
    String.ofList name.text ∈ templateKeys ts := List.mem_map.2 ⟨_, h, rfl⟩

theorem missingKeys_print (environ : String → Option String) (h : Readable ts) :
    missingKeys environ (print ts) = (templateKeys ts).filter fun key => environ key = none := by
  rw [missingKeys, placeholder, pieces_print h]
  clear h
  induction ts with
  | nil => rfl
  | cons token ts ih =>
      cases token with
      | char c => simpa [Token.piece, templateKeys, names_cons_char] using ih
      | hole key =>
          have hkey : groupOne [((), key.text)] = String.ofList key.text := rfl
          by_cases hnone : environ (String.ofList key.text) = none
          · simpa [Token.piece, templateKeys, names_cons_hole, hkey, hnone] using ih
          · simpa [Token.piece, templateKeys, names_cons_hole, hkey, hnone] using ih

theorem sub_substitute {environ : String → Option String} (h : Readable ts)
    (hall : ∀ key ∈ templateKeys ts, environ key ≠ none) :
    placeholder.sub (substitute environ) (print ts) = templateValue environ ts := by
  rw [placeholder, sub_print (substitute environ) h]
  refine fill_congr fun key hkey => ?_
  obtain ⟨val, hval⟩ := Option.ne_none_iff_exists'.1 (hall _ (mem_templateKeys hkey))
  have hone : groupOne [((), key.text)] = String.ofList key.text := rfl
  simp [substitute, hone, hval]

theorem renderTemplate_of_missing {environ : String → Option String} {src : String}
    {text : List Char} (h : missingKeys environ text ≠ []) :
    renderTemplate environ src text = .error (unresolved src (missingKeys environ text)) := if_pos h

/-- The message names each key once, in order. -/
theorem sortedSet_spec (keys : List String) :
    (sortedSet keys).Pairwise (· < ·) ∧ ∀ key, key ∈ sortedSet keys ↔ key ∈ keys := by
  have hperm : (sortedSet keys).Perm keys.dedup := List.mergeSort_perm _ _
  have hsorted : (sortedSet keys).Pairwise (· ≤ ·) := by
    have htrans : ∀ a b c : String, decide (a ≤ b) = true → decide (b ≤ c) = true →
        decide (a ≤ c) = true := by
      intro a b c hab hbc
      simp only [decide_eq_true_eq] at hab hbc ⊢
      exact le_trans hab hbc
    have htotal : ∀ a b : String, (decide (a ≤ b) || decide (b ≤ a)) = true := by
      intro a b
      simpa using le_total a b
    have h := List.pairwise_mergeSort htrans htotal keys.dedup
    simpa [sortedSet] using h
  refine ⟨?_, fun key => by rw [hperm.mem_iff, List.mem_dedup]⟩
  have hnodup : (sortedSet keys).Nodup := hperm.nodup_iff.2 (List.nodup_dedup keys)
  exact hsorted.imp₂ (fun a b hle hne => lt_of_le_of_ne hle hne) hnodup

/-- **Rendering gives what the template says.** -/
theorem rendered_print (environ : String → Option String) (src : String) (h : Readable ts) :
    TemplateRendered environ src ts (renderTemplate environ src (print ts)) := by
  have hmissing := missingKeys_print environ h
  constructor
  · intro hall
    have hnone : missingKeys environ (print ts) = [] := by
      rw [hmissing, List.filter_eq_nil_iff]
      intro key hkey
      simpa using hall key hkey
    simp only [renderTemplate, hnone, ne_eq, not_true_eq_false, if_false, sub_substitute h hall]
  · rintro ⟨key, hkey, hnone⟩
    have hsome : missingKeys environ (print ts) ≠ [] := by
      rw [hmissing]
      exact List.ne_nil_of_mem (List.mem_filter.2 ⟨hkey, by simpa using hnone⟩)
    obtain ⟨hsorted, hmem⟩ := sortedSet_spec (missingKeys environ (print ts))
    refine ⟨sortedSet (missingKeys environ (print ts)), hsorted, fun key' => ?_, ?_⟩
    · rw [hmem, hmissing, List.mem_filter, decide_eq_true_iff]
    · rw [renderTemplate_of_missing hsome]
      unfold unresolved
      rfl

/-- What holds of every template file. -/
structure RenderSpec (environ : String → Option String) (src : String) (text : List Char) : Prop
    where
  /-- The file is one template, and rendering it gives what that says. -/
  meaning : ∃! ts : Tokens, Readable ts ∧ print ts = text
  rendered : ∀ ts : Tokens, Readable ts → print ts = text →
    TemplateRendered environ src ts (renderTemplate environ src text)
  /-- Only the keys in its holes matter. -/
  frame : ∀ ts : Tokens, Readable ts → print ts = text → ∀ environ' : String → Option String,
    (∀ key ∈ templateKeys ts, environ' key = environ key) →
    renderTemplate environ' src text = renderTemplate environ src text

/-- **The meaning of a template file**, for every text and every environment. -/
theorem render_spec (environ : String → Option String) (src : String) (text : List Char) :
    RenderSpec environ src text := by
  refine ⟨existsUnique_readable placeholderForm text, ?_, ?_⟩
  · rintro ts h rfl
    exact rendered_print environ src h
  · rintro ts h rfl environ' hagree
    have hmissing : missingKeys environ' (print ts) = missingKeys environ (print ts) := by
      rw [missingKeys_print environ' h, missingKeys_print environ h]
      refine List.filter_congr fun key hkey => ?_
      rw [hagree key hkey]
    by_cases hall : ∀ key ∈ templateKeys ts, environ key ≠ none
    · have hall' : ∀ key ∈ templateKeys ts, environ' key ≠ none := by
        intro key hkey
        rw [hagree key hkey]
        exact hall key hkey
      rw [(rendered_print environ src h).ok hall, (rendered_print environ' src h).ok hall']
      refine congrArg Except.ok (fill_congr fun key hkey => ?_)
      rw [hagree _ (mem_templateKeys hkey)]
    · have hsome : missingKeys environ (print ts) ≠ [] := by
        rw [missingKeys_print environ h]
        intro hnil
        refine hall fun key hkey hnone => ?_
        exact List.filter_eq_nil_iff.1 hnil key hkey (by simpa using hnone)
      simp only [renderTemplate, hmissing, hsome, ne_eq, not_false_eq_true, if_true]

end AnalyticsTesting.Scripts
