import AnalyticsTesting.Lib.Template
import AnalyticsTesting.Scripts.Cfg
import Mathlib.Data.List.TakeWhile

set_option autoImplicit false

/-! # Reading one setting of an expanded file

`_ENV_RE.sub` as `Config.Load` models it is `re.sub` with the pattern of a variable in braces
(`expandChars_eq_sub`), so a text of the configuration is a template, and expanding it fills the
holes once. Expanding does not change the shape of a document: the value at a path of the expanded
file is the expanded value at that path of the file (`dig_expand`). So `cfg.py` answers with a value
whose own variables are all that it depends on, and whatever else is in the file or in the
environment plays no part (`cfg_spec`). -/

namespace AnalyticsTesting.Scripts

open Config Regex Template

/-! ## A text -/

/-- A name between `${` and `}`. -/
def varForm : Form Char where
  opener := ['$', '\x7b']
  closer := ['\x7d']
  first := isNameStart
  more := isNameChar
  opener_ne_nil := List.cons_ne_nil _ _
  stops t c hc := by
    obtain rfl : '\x7d' = c := by simpa using hc
    decide

theorem bracedName_print (name : Name varForm) (rest : List Char) :
    bracedName ('\x7b' :: (name.text ++ '\x7d' :: rest)) = some (name.text, rest) := by
  obtain ⟨c, t, hc, ht⟩ := name
  have ht : ∀ d ∈ t, isNameChar d = true := ht
  have hstop : isNameChar '\x7d' = false := by decide
  have hdrop : (t ++ '\x7d' :: rest).dropWhile isNameChar = '\x7d' :: rest := by
    rw [List.dropWhile_append_of_pos ht, List.dropWhile_cons_of_neg (by simp [hstop])]
  have htake : (t ++ '\x7d' :: rest).takeWhile isNameChar = t := by
    rw [List.takeWhile_append_of_pos ht, List.takeWhile_cons_of_neg (by simp [hstop]),
      List.append_nil]
  have hc : isNameStart c = true := hc
  simp only [Name.text, List.cons_append, bracedName, hc, if_true, hdrop, htake]

theorem exists_of_bracedName {t name rest : List Char} (h : bracedName t = some (name, rest)) :
    ∃ n : Name varForm, t = '\x7b' :: (n.text ++ '\x7d' :: rest) := by
  unfold bracedName at h
  split at h
  case h_2 => simp at h
  case h_1 c t =>
    split at h
    case isFalse => simp at h
    case isTrue hc =>
      split at h
      case h_2 => simp at h
      case h_1 rest' hdrop =>
        obtain ⟨rfl, rfl⟩ := Prod.mk.inj (Option.some.inj h)
        refine ⟨⟨c, t.takeWhile isNameChar, hc, fun d hd => List.mem_takeWhile_imp hd⟩, ?_⟩
        have ht := List.takeWhile_append_dropWhile (p := isNameChar) (l := t)
        rw [hdrop] at ht
        conv_lhs => rw [← ht]
        rfl

/-- What a variable becomes. -/
def expandVar (environ : String → Option String) (groups : List (Unit × List Char))
    (text : List Char) : List Char :=
  match environ (String.ofList (groupText groups ())) with
  | some value => value.toList
  | none => text

/-- A template of a configuration text. -/
abbrev VarTokens := List (Token varForm)

/-- What a template says: its characters, and the values of the variables that are set. -/
def expandedText (environ : String → Option String) (ts : VarTokens) : List Char :=
  fill (fun name => expandVar environ [((), name.text)] name.print) ts

/-- The loop fills the holes. -/
theorem expandChars_print (environ : String → Option String) {ts : VarTokens} (h : Readable ts) :
    ∀ fuel, (print ts).length ≤ fuel →
      expandChars environ fuel (print ts) = expandedText environ ts := by
  induction ts with
  | nil => intro fuel _; cases fuel <;> rfl
  | cons token ts ih =>
      intro fuel hfuel
      cases token with
      | char c =>
          have hlength : (print (.char c :: ts)).length = (print ts).length + 1 := rfl
          obtain ⟨fuel, rfl⟩ : ∃ n, fuel = n + 1 := ⟨fuel - 1, by omega⟩
          have hbraced : (if c = '$' then bracedName (print ts) else none) = none := by
            by_cases hc : c = '$'
            · subst hc
              rw [if_pos rfl, Option.eq_none_iff_forall_ne_some]
              rintro ⟨name, rest⟩ hsome
              obtain ⟨n, hn⟩ := exists_of_bracedName hsome
              refine h.1 n ⟨rest, ?_⟩
              rw [hn]
              simp [Name.print, varForm]
            · rw [if_neg hc]
          change expandChars environ (fuel + 1) (c :: print ts) = c :: expandedText environ ts
          rw [expandChars, hbraced, ih h.2 fuel (by omega)]
      | hole name =>
          have hprint : print (.hole name :: ts)
              = '$' :: '\x7b' :: (name.text ++ '\x7d' :: print ts) := by
            change name.print ++ print ts = _
            simp [Name.print, varForm]
          have hle : (print ts).length + 1 ≤ fuel := by
            rw [hprint] at hfuel
            simp only [List.length_cons, List.length_append] at hfuel
            omega
          obtain ⟨fuel, rfl⟩ : ∃ n, fuel = n + 1 := ⟨fuel - 1, by omega⟩
          rw [hprint, expandChars, if_pos rfl, bracedName_print]
          simp only [ih h fuel (by omega)]
          rfl

/-- **The loop is `_ENV_RE.sub`.** -/
theorem expandChars_eq_sub (environ : String → Option String) (text : List Char) :
    expandChars environ text.length text = varForm.pattern.sub (expandVar environ) text := by
  obtain ⟨ts, ⟨h, rfl⟩, -⟩ := existsUnique_readable varForm text
  rw [expandChars_print environ h _ le_rfl, sub_print (expandVar environ) h]
  rfl

/-! ## A document -/

/-- The variables of a text. -/
def textVars (text : String) : List String :=
  (varForm.pattern.pieces text.toList).filterMap fun
    | .char _ => none
    | .found groups _ => some (String.ofList (groupText groups ()))

mutual

/-- The variables in a document; the keys of a dict are not expanded. -/
def vars : Value → List String
  | .str s => textVars s
  | .list xs => varsList xs
  | .dict items => varsItems items
  | _ => []

def varsList : List Value → List String
  | [] => []
  | v :: vs => vars v ++ varsList vs

def varsItems : Items → List String
  | [] => []
  | (_, v) :: rest => vars v ++ varsItems rest

end

theorem textVars_print {ts : VarTokens} (h : Readable ts) :
    textVars (String.ofList (print ts)) = (names ts).map String.ofList := by
  rw [textVars, String.toList_ofList, pieces_print h]
  clear h
  induction ts with
  | nil => rfl
  | cons token ts ih =>
      cases token with
      | char c => simpa [Token.piece, names_cons_char] using ih
      | hole name => simpa [Token.piece, names_cons_hole, groupText] using ih

section Agree

variable {environ environ' : String → Option String}

theorem expandChars_congr {s : String} (h : ∀ x ∈ textVars s, environ' x = environ x) :
    expandChars environ' s.length s.toList = expandChars environ s.length s.toList := by
  obtain ⟨ts, ⟨hts, hs⟩, -⟩ := existsUnique_readable varForm s.toList
  have hs' : s = String.ofList (print ts) := by rw [hs, String.ofList_toList]
  rw [hs', textVars_print hts] at h
  have hlength : s.length = (print ts).length := by rw [hs, String.length_toList]
  rw [← hs, hlength, expandChars_print environ' hts _ le_rfl,
    expandChars_print environ hts _ le_rfl]
  refine fill_congr fun name hname => ?_
  have hvar := h (String.ofList name.text) (List.mem_map.2 ⟨_, hname, rfl⟩)
  change expandVar environ' [((), name.text)] name.print = expandVar environ _ name.print
  unfold expandVar
  change (match environ' (String.ofList name.text) with
    | some value => value.toList
    | none => name.print) = match environ (String.ofList name.text) with
    | some value => value.toList
    | none => name.print
  rw [hvar]

mutual

/-- Only the variables in a document matter. -/
theorem expand_congr : ∀ {v : Value}, (∀ x ∈ vars v, environ' x = environ x) →
    expand environ' v = expand environ v
  | .str s, h => by rw [expand, expand, expandChars_congr h]
  | .list xs, h => by rw [expand, expand, expandList_congr h]
  | .dict items, h => by rw [expand, expand, expandItems_congr h]
  | .none, _ | .bool _, _ | .int _, _ | .float _, _ | .negZero, _ | .bytes _, _ | .pair _ _, _
  | .set _, _ | .other _ _, _ | .endless _, _ => rfl

theorem expandList_congr : ∀ {xs : List Value}, (∀ x ∈ varsList xs, environ' x = environ x) →
    expandList environ' xs = expandList environ xs
  | [], _ => rfl
  | v :: vs, h => by
      rw [expandList, expandList, expand_congr fun x hx => h x (List.mem_append_left _ hx),
        expandList_congr fun x hx => h x (List.mem_append_right _ hx)]

theorem expandItems_congr : ∀ {items : Items}, (∀ x ∈ varsItems items, environ' x = environ x) →
    expandItems environ' items = expandItems environ items
  | [], _ => rfl
  | (k, v) :: rest, h => by
      rw [expandItems, expandItems, expand_congr fun x hx => h x (List.mem_append_left _ hx),
        expandItems_congr fun x hx => h x (List.mem_append_right _ hx)]

end

end Agree

variable (environ : String → Option String)

theorem lookup_expandItems (k : KeyId) (items : Items) :
    Entries.lookup (expandItems environ items) k
      = (Entries.lookup items k).map (expand environ) := by
  induction items with
  | nil => rfl
  | cons entry rest ih =>
      obtain ⟨k', v⟩ := entry
      rw [expandItems, Entries.lookup_cons, Entries.lookup_cons, ih]
      split <;> rfl

theorem getElem?_expandList (xs : List Value) (i : Nat) :
    (expandList environ xs)[i]? = xs[i]?.map (expand environ) := by
  induction xs generalizing i with
  | nil => rfl
  | cons v vs ih =>
      cases i with
      | zero => rfl
      | succ i => simpa [expandList] using ih i

theorem digParts_expand (parts : List String) : ∀ v : Value,
    digParts (expand environ v) parts
      = (digParts v parts).map (Option.map (expand environ)) := by
  induction parts with
  | nil => intro v; cases v <;> rfl
  | cons part parts ih =>
      intro v
      cases v with
      | dict items =>
          rw [expand, digParts, digParts, lookup_expandItems]
          cases Entries.lookup items (.str part) with
          | none => rfl
          | some w => exact ih w
      | list xs =>
          rw [expand, digParts, digParts]
          by_cases hindex : isIndex part = true
          · rw [if_pos hindex, if_pos hindex]
            cases PyNumber.intOfStr part with
            | none => rfl
            | some i =>
                simp only [orRaise, bind, Except.bind, getElem?_expandList]
                cases xs[i.toNat]? with
                | none => rfl
                | some w => exact ih w
          · rw [if_neg hindex, if_neg hindex]
            rfl
      | _ => rfl

/-- **Expanding and reading a path commute.** -/
theorem dig_expand (v : Value) (path : String) :
    dig (expand environ v) path = (dig v path).map (Option.map (expand environ)) := by
  unfold dig
  by_cases hpath : path = ""
  · rw [if_pos hpath, if_pos hpath]
    rfl
  · rw [if_neg hpath, if_neg hpath]
    exact digParts_expand environ _ v

/-! ## The answer -/

/-- What a text of a configuration means. -/
structure TextExpanded (environ : String → Option String) (text : List Char) : Prop where
  sub : expandChars environ text.length text = varForm.pattern.sub (expandVar environ) text
  meaning : ∃! ts : VarTokens, Readable ts ∧ print ts = text
  expanded : ∀ ts : VarTokens, Readable ts → print ts = text →
    expandChars environ text.length text = expandedText environ ts

/-- What `cfg.py` answers. -/
structure CfgSpec (fl : FloatFormat) (dumps : JsonDumps) (environ : String → Option String)
    (file : String) (doc : Value) (cmd : CfgCommand) (path : String) : Prop where
  /-- Texts are expanded as templates. -/
  texts : ∀ text, TextExpanded environ text
  /-- The value at the path of the file is expanded and printed, unless the file does not end. -/
  value : cfgMain fl dumps environ file doc cmd path
    = if (doc.orElse (.dict [])).ends then
        dig (doc.orElse (.dict [])) path >>= fun v =>
          cfgAnswer fl dumps file path cmd (v.map (expand environ))
      else raise .recursionError
  /-- Only its variables matter. -/
  frame : ∀ environ' : String → Option String,
    (∀ v, dig (doc.orElse (.dict [])) path = .ok (some v) → ∀ x ∈ vars v, environ' x = environ x) →
    cfgMain fl dumps environ' file doc cmd path = cfgMain fl dumps environ file doc cmd path

theorem cfgMain_eq (fl : FloatFormat) (dumps : JsonDumps) (file : String) (doc : Value)
    (cmd : CfgCommand) (path : String) : cfgMain fl dumps environ file doc cmd path
      = if (doc.orElse (.dict [])).ends then
          dig (doc.orElse (.dict [])) path >>= fun v =>
            cfgAnswer fl dumps file path cmd (v.map (expand environ))
        else raise .recursionError := by
  rw [cfgMain, document, expandAll]
  split
  case isFalse => rfl
  case isTrue =>
    show dig (expand environ (doc.orElse (.dict []))) path >>= _ = _
    rw [dig_expand]
    cases dig (doc.orElse (.dict [])) path with
    | ok v => rfl
    | error e => rfl

/-- **`cfg.py` answers with the expanded value at the path**, whatever the file and the environment
hold besides. -/
theorem cfg_spec (fl : FloatFormat) (dumps : JsonDumps) (environ : String → Option String)
    (file : String) (doc : Value) (cmd : CfgCommand) (path : String) :
    CfgSpec fl dumps environ file doc cmd path where
  texts text := by
    refine ⟨expandChars_eq_sub environ text, existsUnique_readable varForm text, ?_⟩
    rintro ts h rfl
    exact expandChars_print environ h _ le_rfl
  value := cfgMain_eq environ fl dumps file doc cmd path
  frame environ' hagree := by
    rw [cfgMain_eq, cfgMain_eq]
    cases hdig : dig (doc.orElse (.dict [])) path with
    | error e => rfl
    | ok v =>
        have hanswer : cfgAnswer fl dumps file path cmd (v.map (expand environ'))
            = cfgAnswer fl dumps file path cmd (v.map (expand environ)) := by
          cases v with
          | none => rfl
          | some v => rw [Option.map_some, Option.map_some, expand_congr (hagree v hdig)]
        rw [ok_bind, ok_bind, hanswer]

end AnalyticsTesting.Scripts
