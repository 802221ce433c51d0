import Mathlib.Data.Bool.AllAny
import AnalyticsTesting.Bench.Proofs.LogPatterns

set_option autoImplicit false

/-! # What is read back from the compactor's log

A printed line comes back as the record that was printed (`parseLine_meterLine`,
`parseLine_eventLine`), where the timestamp is what was printed of one, tags have no blanks around
them, readings have keys of their own in the record, and no other announcement stands in front. -/

namespace AnalyticsTesting.Bench.CompactorLog

open Regex

/-! ## Readings -/

section Readings

variable {fl : FloatFormat} {w : WordChars}

/-- No reading begins with a blank. -/
theorem results_field_blank (w : WordChars) (t : List Char) :
    (field w).results (' ' :: t) = [] := by
  refine results_eq_nil ?_
  rintro _ v ⟨_, u, rfl, hkey, -⟩ heq
  obtain ⟨hne, hchars⟩ := lang_plus.1 hkey
  obtain ⟨c, key, rfl⟩ := List.exists_cons_of_ne_nil hne
  obtain rfl : ' ' = c := (List.cons.inj heq).1
  exact absurd (hchars _ List.mem_cons_self) (by rw [w.blank ' ' (by decide)]; decide)

/-- **Every reading is found.** -/
theorem groups_findAll : ∀ (rs : List (Reading fl w)) (fuel : Nat),
    ([' '].intercalate (rs.map Reading.text)).length ≤ fuel →
    ((field w).findAll fuel ([' '].intercalate (rs.map Reading.text))).map Match.groups
      = rs.map Reading.groups
  | [], fuel, _ => by simp
  | r :: rs, fuel, h => by
      have hne : r.text ≠ [] := by simp [Reading.text]
      have hlen := List.length_pos_of_ne_nil hne
      cases rs with
      | nil =>
          simp only [List.map_cons, List.map_nil, List.intercalate_singleton] at h ⊢
          obtain ⟨fuel, rfl⟩ : ∃ n, fuel = n + 1 := ⟨fuel - 1, by omega⟩
          have htakes := takes_field r (t := []) (by simp [Separated])
          rw [List.append_nil] at htakes
          simp [findAll_of_takes htakes hne]
      | cons r' rs =>
          obtain ⟨fuel, rfl⟩ : ∃ n, fuel = n + 2 := by
            refine ⟨fuel - 2, ?_⟩
            simp only [List.map_cons, List.intercalate_cons_cons, List.length_append,
              List.length_cons] at h
            omega
          have hrest := groups_findAll (r' :: rs) fuel
          simp only [List.map_cons, List.intercalate_cons_cons, List.append_assoc,
            List.singleton_append, List.length_append, List.length_cons] at h hrest ⊢
          have htakes := takes_field r
            (t := ' ' :: [' '].intercalate (r'.text :: rs.map Reading.text))
            (by rintro c ⟨⟩; rfl)
          rw [findAll_of_takes htakes (by simp), findAll_of_none (results_field_blank w _),
            List.map_cons, hrest (by omega)]

/-- What `parse_fields` makes of the groups of one match. -/
def readGroups (fl : FloatFormat) (groups : List (String × List Char)) : Option (String × Datum) :=
  (PyNumber.floatOfStr fl (String.ofList ((groups.lookup "num").getD []))).map fun value =>
    fieldEntry fl ((groups.lookup "key").getD []) value (groups.lookup "unit")

theorem parseFields_eq (fl : FloatFormat) (w : WordChars) (raw : List Char) :
    parseFields fl w raw = PyDict.update []
      ((((field w).findAll raw.length raw).map Match.groups).filterMap (readGroups fl)) := by
  rw [List.filterMap_map]
  rfl

theorem readGroups_groups (r : Reading fl w) : readGroups fl r.groups = some r.entry := by
  have hnum : r.groups.lookup "num" = some r.num.toList := by
    simp [Reading.groups, List.lookup_cons]
  have hkey : r.groups.lookup "key" = some r.key.toList := by simp [Reading.groups]
  rw [readGroups, hnum, hkey, Option.getD_some, Option.getD_some, String.ofList_toList, r.num_eq,
    Option.map_some]
  congr 1
  unfold Reading.entry
  cases hscale : r.scale <;>
    simp [Reading.groups, hscale, List.lookup_cons, fieldEntry, Scale.text]

/-- **The readings come back**, with units normalised. -/
theorem parseFields_text {rs : List (Reading fl w)} (h : (rs.map fun r => r.entry.1).Nodup) :
    parseFields fl w ([' '].intercalate (rs.map Reading.text)) = rs.map Reading.entry := by
  have hentries : (rs.map Reading.groups).filterMap (readGroups fl) = rs.map Reading.entry := by
    have hcomp : readGroups fl ∘ (Reading.groups : Reading fl w → _) = some ∘ Reading.entry := by
      funext r
      rw [Function.comp_apply, readGroups_groups, Function.comp_apply]
    rw [List.filterMap_map, hcomp, List.filterMap_eq_map]
  rw [parseFields_eq, groups_findAll rs _ le_rfl, hentries, PyDict.update_of_fresh, List.nil_append]
  simpa [Function.comp_def] using h

end Readings

/-! ## Tags -/

theorem strip_split (tag : Tag) :
    '=' ∈ tag.text ∧ tag.text.takeWhile (· ≠ '=') = tag.key.toList ∧
      (tag.text.dropWhile (· ≠ '=')).tail = tag.value.toList := by
  have hkey : ∀ c ∈ tag.key.toList, decide (c ≠ '=') = true := by
    intro c hc
    refine decide_eq_true ?_
    rintro rfl
    exact tag.key_chars.1 hc
  refine ⟨by simp [Tag.text], ?_, ?_⟩
  · rw [Tag.text, List.takeWhile_append_of_pos hkey]
    simp
  · rw [Tag.text, List.dropWhile_append_of_pos hkey]
    simp

/-- **The tags come back.** -/
theorem parseTags_text {tags : List Tag} (hnodup : (tags.map Tag.key).Nodup)
    (htrim : ∀ tag ∈ tags, PyNumber.strip tag.key.toList = tag.key.toList ∧
      PyNumber.strip tag.value.toList = tag.value.toList) :
    parseTags ([','].intercalate (tags.map Tag.text))
      = tags.map fun tag => (tag.key, tag.value) := by
  have hcomma : ∀ part ∈ tags.map Tag.text, ',' ∉ part := by
    intro part hpart
    obtain ⟨tag, -, rfl⟩ := List.mem_map.1 hpart
    simp [Tag.text, tag.key_chars.2.1, tag.value_chars.1]
  cases tags with
  | nil => rfl
  | cons first rest =>
      have hne : (first :: rest).map Tag.text ≠ [] := by simp
      have hparts : ((first :: rest).map Tag.text).filterMap (fun part =>
          if '=' ∈ part then
            some (String.ofList (PyNumber.strip (part.takeWhile (· ≠ '='))),
              String.ofList (PyNumber.strip (part.dropWhile (· ≠ '=')).tail))
          else none) = (first :: rest).map fun tag => (tag.key, tag.value) := by
        rw [List.filterMap_map, ← List.filterMap_eq_map]
        refine List.filterMap_congr fun tag htag => ?_
        obtain ⟨hmem, hkey, hvalue⟩ := strip_split tag
        obtain ⟨hkeyTrim, hvalueTrim⟩ := htrim tag htag
        simp only [Function.comp_apply, if_pos hmem, hkey, hvalue, hkeyTrim, hvalueTrim,
          String.ofList_toList]
      rw [parseTags, List.splitOn_intercalate _ hcomma hne, hparts, PyDict.update_of_fresh,
        List.nil_append]
      simpa [Function.comp_def] using hnodup

/-! ## Timestamps -/

/-- The last characters without a property are the same ones. -/
theorem last_eq {p : Char → Bool} {a b u v : List Char} {x y : Char} (hx : p x = false)
    (hy : p y = false) (hu : ∀ c ∈ u, p c = true) (hv : ∀ c ∈ v, p c = true)
    (h : a ++ x :: u = b ++ y :: v) : x = y := by
  have hcut : ∀ {x y : Char} {u v l : List Char}, p y = false → (∀ c ∈ u, p c = true) →
      x :: u = l ++ y :: v → x = y := by
    intro x y u v l hy hu heq
    cases l with
    | nil => exact (List.cons.inj heq).1
    | cons z l =>
        have hmem : y ∈ u := by
          rw [(List.cons.inj heq).2]
          simp
        rw [hu y hmem] at hy
        simp at hy
  rcases List.append_eq_append_iff.1 h with ⟨l, -, heq⟩ | ⟨l, -, heq⟩
  · exact hcut hy hu heq
  · exact (hcut hx hv heq).symm

/-- Digits behind something else than a sign are no offset. -/
theorem bareOffset_anywhere_eq_false {a u : List Char} {x : Char} (hx : isDigit x = false)
    (hsign : isSign x = false) (hline : x ≠ '\n') (hu : ∀ c ∈ u, isDigit c = true) :
    bareOffset.anywhere (a ++ x :: u) = false := by
  rw [anywhere, List.any_eq_false]
  intro t ht hsome
  obtain ⟨m, hm⟩ := Option.isSome_iff_exists.1 hsome
  obtain ⟨heq, hlang⟩ := sound _ (List.mem_of_mem_head? hm)
  obtain ⟨b, hb⟩ := (List.mem_tails _ _).1 ht
  obtain ⟨_, _, htext, ⟨sign, rfl, hs⟩, digits, _, rfl, hdigits, rfl, hend⟩ := hlang
  have hdigits := (lang_times.1 hdigits).2
  have hnotDigit : isDigit sign = false := by
    have hcases : sign = '+' ∨ sign = '-' := by simpa [isSign] using hs
    rcases hcases with rfl | rfl <;> decide
  rw [heq, htext] at hb
  have hrest : m.rest = [] ∨ m.rest = ['\n'] := by simpa [atEnd] using hend
  rcases hrest with hrest | hrest
  · rw [hrest] at hb
    have hxs : x = sign := last_eq hx hnotDigit hu hdigits (b := b) (by rw [← hb]; simp)
    rw [hxs, hs] at hsign
    simp at hsign
  · rw [hrest] at hb
    exact hline (last_eq hx (by decide) hu (v := []) (by simp) (b := b ++ sign :: digits)
      (by rw [← hb]; simp))

theorem bareOffset_anywhere {sign : Char} (hsign : isSign sign = true) (hours minutes : Digits 2)
    (a : List Char) : bareOffset.anywhere (a ++ sign :: (hours.chars ++ minutes.chars)) = true := by
  rw [anywhere, List.any_eq_true]
  refine ⟨sign :: (hours.chars ++ minutes.chars), (List.mem_tails _ _).2 ⟨a, rfl⟩, ?_⟩
  have hdigits : ∀ c ∈ hours.chars ++ minutes.chars, isDigit c = true := by
    intro c hc
    rcases List.mem_append.1 hc with h | h
    · exact hours.digits c h
    · exact minutes.digits c h
  have hlen : (hours.chars ++ minutes.chars).length = 4 := by
    simp [hours.length_eq, minutes.length_eq]
  have htimes := takes_times (ν := String) hdigits []
  rw [hlen] at htimes
  have hseqs := takes_seqs (takes_one hsign _)
    (takes_seqs htimes (takes_last (takes_ahead (p := atEnd) (t := []) rfl)))
  rw [List.append_nil] at hseqs
  exact Option.isSome_iff_exists.2 ⟨_, hseqs⟩

/-- `text.replace(",", ".")`, for one character. -/
def point (c : Char) : Char := if c = ',' then '.' else c

theorem map_point {l : List Char} (h : ',' ∉ l) : l.map point = l := by
  refine (List.map_congr_left (g := id) fun c hc => if_neg ?_).trans (List.map_id l)
  rintro rfl
  exact h hc

theorem comma_notMem {l : List Char} (h : ∀ c ∈ l, isDigit c = true) : ',' ∉ l :=
  fun hmem => absurd (h _ hmem) (by decide)

theorem comma_notMem_zone (z : Zone) : ',' ∉ z.text := by
  cases z with
  | utc => simp [Zone.text]
  | offset sign hsign hours colon minutes =>
      have hne : ',' ≠ sign := by
        rintro rfl
        exact absurd hsign (by decide)
      cases colon <;>
        simp [Zone.text, hne, comma_notMem hours.digits, comma_notMem minutes.digits]

theorem Stamp.front_eq (s : Stamp) (tail : List Char) : s.front tail = s.front [] ++ tail := by
  simp [Stamp.front]

theorem Stamp.map_point_text (s : Stamp) :
    s.text.map point = s.front [] ++ '.' :: (s.fraction ++ s.zone.elim [] Zone.text) := by
  have hzone : (s.zone.elim [] Zone.text).map point = s.zone.elim [] Zone.text := by
    cases s.zone with
    | none => rfl
    | some z => exact map_point (comma_notMem_zone z)
  have hcomma : point (if s.comma then ',' else '.') = '.' := by cases s.comma <;> rfl
  have hmap : ∀ {n : Nat} (d : Digits n), d.chars.map point = d.chars :=
    fun d => map_point (comma_notMem d.digits)
  have hdash : point '-' = '-' := rfl
  have hcolon : point ':' = ':' := rfl
  have hT : point 'T' = 'T' := rfl
  simp [Stamp.text, Stamp.front, hmap, hzone, hcomma, hdash, hcolon, hT,
    map_point (comma_notMem s.fraction_digits)]

/-- A text that ends in a digit does not end in `Z`. -/
theorem getLast?_append_ne {u : List Char} (hne : u ≠ []) (hu : ∀ c ∈ u, isDigit c = true)
    (a : List Char) : (a ++ u).getLast? ≠ some 'Z' := by
  rw [List.getLast?_append_of_ne_nil _ hne]
  intro h
  exact absurd (hu _ (List.mem_of_getLast? h)) (by decide)

/-- The stages of `parse_ts` on a text, from what is there after the first two of them. -/
theorem normalise_of_eq {raw text : List Char}
    (h : (if (raw.map point).getLast? = some 'Z' then
      (raw.map point).dropLast ++ "+00:00".toList else raw.map point) = text) :
    normalise raw = if bareOffset.anywhere text then
      text.take (text.length - 2) ++ ':' :: text.drop (text.length - 2) else text := by
  subst h
  rfl

/-- Digits at the end, with something else before them than a sign, are no offset. -/
theorem normalise_of_separated {raw a u : List Char} {x : Char} (h : raw.map point = a ++ x :: u)
    (hx : isDigit x = false) (hsign : isSign x = false) (hline : x ≠ '\n') (hne : u ≠ [])
    (hu : ∀ c ∈ u, isDigit c = true) : normalise raw = a ++ x :: u := by
  have hlast : (raw.map point).getLast? ≠ some 'Z' := by
    have hlast := getLast?_append_ne hne hu (a ++ [x])
    rwa [List.append_assoc, List.singleton_append, ← h] at hlast
  rw [normalise_of_eq (if_neg hlast), h, bareOffset_anywhere_eq_false hx hsign hline hu]
  rfl

/-- A `Z` at the end is an offset of zero. -/
theorem normalise_of_utc {raw a : List Char} (h : raw.map point = a ++ ['Z']) :
    normalise raw = a ++ "+00:00".toList := by
  have hlast : (raw.map point).getLast? = some 'Z' := by rw [h, List.getLast?_concat]
  have hdrop : (raw.map point).dropLast = a := by rw [h, List.dropLast_concat]
  have hzero : "+00:00".toList = "+00".toList ++ ':' :: "00".toList := by decide
  have hoffset : bareOffset.anywhere (a ++ "+00:00".toList) = false := by
    rw [hzero, ← List.append_assoc]
    exact bareOffset_anywhere_eq_false (by decide) (by decide) (by decide)
      (List.all_eq_true.1 (by decide))
  rw [normalise_of_eq (by rw [if_pos hlast, hdrop]), hoffset]
  rfl

/-- An offset without a colon gets one. -/
theorem normalise_of_bareOffset {raw a : List Char} {sign : Char} {hours minutes : Digits 2}
    (h : raw.map point = a ++ sign :: (hours.chars ++ minutes.chars))
    (hsign : isSign sign = true) (hminutes : minutes.chars ≠ []) :
    normalise raw = a ++ sign :: (hours.chars ++ ':' :: minutes.chars) := by
  have hsplit : raw.map point = (a ++ sign :: hours.chars) ++ minutes.chars := by
    rw [h, List.append_assoc, List.cons_append]
  have hlast : (raw.map point).getLast? ≠ some 'Z' := by
    rw [hsplit]
    exact getLast?_append_ne hminutes minutes.digits _
  have hlen : (raw.map point).length - 2 = (a ++ sign :: hours.chars).length := by
    rw [hsplit, List.length_append, minutes.length_eq, Nat.add_sub_cancel]
  have hoffset : bareOffset.anywhere (raw.map point) = true := by
    rw [h]
    exact bareOffset_anywhere hsign hours minutes a
  rw [normalise_of_eq (if_neg hlast), if_pos hoffset, hlen, hsplit, List.take_left, List.drop_left,
    List.append_assoc, List.cons_append]

/-- **A printed timestamp is normalised.** -/
theorem normalise_text (s : Stamp) : normalise s.text = s.normal := by
  have htext := s.map_point_text
  have hnormal : s.normal = s.front [] ++ '.' :: (s.fraction ++ s.zone.elim [] Zone.normal) :=
    s.front_eq _
  rw [hnormal]
  cases hzone : s.zone with
  | none =>
      rw [hzone, Option.elim_none, List.append_nil] at htext
      rw [Option.elim_none, List.append_nil]
      exact normalise_of_separated htext (by decide) (by decide) (by decide) s.fraction_ne
        s.fraction_digits
  | some z =>
      rw [hzone, Option.elim_some, ← List.cons_append, ← List.append_assoc] at htext
      rw [Option.elim_some, ← List.cons_append, ← List.append_assoc]
      cases z with
      | utc => exact normalise_of_utc htext
      | offset sign hsign hours colon minutes =>
          have hminutes : minutes.chars ≠ [] := by
            intro hnil
            have hlen := minutes.length_eq
            rw [hnil] at hlen
            simp at hlen
          cases colon with
          | true =>
              rw [Zone.text, if_pos rfl, List.singleton_append, ← List.cons_append,
                ← List.append_assoc] at htext
              rw [Zone.normal_offset, ← List.cons_append, ← List.append_assoc]
              exact normalise_of_separated htext (by decide) (by decide) (by decide) hminutes
                minutes.digits
          | false =>
              rw [Zone.text, if_neg Bool.false_ne_true, List.nil_append] at htext
              exact normalise_of_bareOffset htext hsign hminutes

/-- The time of a printed timestamp. -/
theorem parseTs_text (fl : FloatFormat) (fromisoformat : String → Option Moment) (s : Stamp) :
    parseTs fl fromisoformat (some s.text) = s.time fl fromisoformat := by
  rw [Stamp.time, ← normalise_text]
  cases htext : s.text with
  | nil => simp [Stamp.text, Stamp.front] at htext
  | cons c t => rfl

/-! ## Records -/

/-- The group of a heading's timestamp. -/
def Heading.groups (h : Heading) : List (String × List Char) :=
  h.stamp.elim [] fun s => [("ts", s.text)]

theorem parseTs_lookup {fl : FloatFormat} {fromisoformat : String → Option Moment} (h : Heading)
    {gs : List (String × List Char)} (hgs : gs.lookup "ts" = none) :
    parseTs fl fromisoformat ((h.groups ++ gs).lookup "ts") = h.time fl fromisoformat := by
  unfold Heading.groups Heading.time
  cases h.stamp with
  | none =>
      rw [Option.elim_none, List.nil_append, hgs]
      rfl
  | some s => exact parseTs_text fl fromisoformat s

theorem lookup_groups (h : Heading) {name : String} (hne : name ≠ "ts")
    (gs : List (String × List Char)) : (h.groups ++ gs).lookup name = gs.lookup name := by
  unfold Heading.groups
  cases h.stamp with
  | none => rfl
  | some s => rw [Option.elim_some, List.singleton_append, List.lookup_cons, beq_false_of_ne hne]

/-- The flag is set exactly where there is no time. -/
theorem flagUntimed_eq {fl : FloatFormat} {fromisoformat : String → Option Moment} (h : Heading)
    {record : Rec} (hts : record.lookup "ts" = some (.ofFloat (h.time fl fromisoformat)))
    (hkeys : "no_timestamp" ∉ record.map Prod.fst) :
    flagUntimed record = record ++ h.untimed fl fromisoformat := by
  unfold flagUntimed Heading.untimed
  rw [hts]
  cases h.time fl fromisoformat with
  | none => exact PyDict.set_of_not_mem hkeys _
  | some x => simp [Datum.ofFloat]

variable {fl : FloatFormat} {w : WordChars} {fromisoformat : String → Option Moment}

theorem meterRecord_eq (l : MeterLine fl w) (htrim : l.Trimmed) (hseparate : l.Separate)
    {m : Match String Char} (hm : m.groups = l.toHeading.groups ++
      [("name", "ducklake.".toList ++ l.name.toList), ("tags", l.tagsText),
        ("fields", l.readingsText)]) :
    meterRecord fl w fromisoformat m = l.record fromisoformat := by
  let gs := [("name", "ducklake.".toList ++ l.name.toList), ("tags", l.tagsText),
    ("fields", l.readingsText)]
  have hts : parseTs fl fromisoformat (m.groups.lookup "ts") = l.time fl fromisoformat := by
    rw [hm]
    exact parseTs_lookup l.toHeading (by simp [List.lookup_cons])
  have hlookup : ∀ name, name ≠ "ts" → m.groups.lookup name = gs.lookup name := by
    intro name hne
    rw [hm]
    exact lookup_groups l.toHeading hne gs
  have hname : m.groups.lookup "name" = some ("ducklake.".toList ++ l.name.toList) :=
    (hlookup "name" (by decide)).trans rfl
  have htags : m.groups.lookup "tags" = some l.tagsText := (hlookup "tags" (by decide)).trans rfl
  have hfields : m.groups.lookup "fields" = some l.readingsText :=
    (hlookup "fields" (by decide)).trans rfl
  have hnodup : (ownKeys ++ l.readings.map fun r => r.entry.1).Nodup := hseparate
  have hreadings : (l.readings.map fun r => r.entry.1).Nodup := hnodup.of_append_right
  have hmetric : String.ofList ("ducklake.".toList ++ l.name.toList) = "ducklake." ++ l.name := by
    rw [← String.toList_append, String.ofList_toList]
  let record : Rec :=
    [("kind", .str "meter"),
     ("ts", .ofFloat (l.time fl fromisoformat)),
     ("metric", .str ("ducklake." ++ l.name)),
     ("database", l.tag "database"),
     ("type", l.tag "type"),
     ("step", l.tag "step")]
  have hentries : ((record ++ l.readings.map Reading.entry).map Prod.fst).Nodup ∧
      "no_timestamp" ∉ (record ++ l.readings.map Reading.entry).map Prod.fst := by
    have hkeys : (record ++ l.readings.map Reading.entry).map Prod.fst
        = ["kind", "ts", "metric", "database", "type", "step"] ++
          l.readings.map fun r => r.entry.1 := by
      simp [record, Function.comp_def]
    have hperm : (["kind", "ts", "metric", "database", "type", "step"] ++
        "no_timestamp" :: l.readings.map fun r => r.entry.1).Nodup := hnodup
    rw [hkeys]
    exact (List.nodup_cons.1 (List.perm_middle.nodup hperm)).symm
  have hupdate : PyDict.update record (l.readings.map Reading.entry)
      = record ++ l.readings.map Reading.entry := PyDict.update_of_fresh hentries.1
  have hrecord : meterRecord fl w fromisoformat m
      = flagUntimed (PyDict.update record (parseFields fl w l.readingsText)) := by
    unfold meterRecord
    rw [hts, hname, htags, hfields, Option.getD_some, Option.getD_some, Option.getD_some, hmetric]
    simp only [MeterLine.tagsText, parseTags_text l.tags_nodup htrim]
    rfl
  rw [hrecord, MeterLine.readingsText, parseFields_text hreadings, hupdate,
    flagUntimed_eq l.toHeading rfl hentries.2]
  rfl

theorem eventRecord_eq (l : EventLine) {m : Match String Char}
    (hm : m.groups = l.toHeading.groups ++
      [("msg", l.msg.toList), (l.completion.databaseGroup, l.database.toList)]) :
    eventRecord fl fromisoformat m = l.record fl fromisoformat := by
  let gs := [("msg", l.msg.toList), (l.completion.databaseGroup, l.database.toList)]
  have hts : parseTs fl fromisoformat (m.groups.lookup "ts") = l.time fl fromisoformat := by
    rw [hm]
    refine parseTs_lookup l.toHeading ?_
    cases l.completion <;> simp [Completion.databaseGroup, List.lookup_cons]
  have hlookup : ∀ name, name ≠ "ts" → m.groups.lookup name = gs.lookup name := by
    intro name hne
    rw [hm]
    exact lookup_groups l.toHeading hne gs
  have hmsg : m.groups.lookup "msg" = some l.msg.toList := (hlookup "msg" (by decide)).trans rfl
  have hne : l.database.toList ≠ [] := fun hnil => l.database_ne (String.toList_eq_nil_iff.1 hnil)
  have hdatabase : ((m.groups.lookup "db1").filter (· ≠ [])).or (m.groups.lookup "db2")
      = some l.database.toList := by
    rw [hlookup "db1" (by decide), hlookup "db2" (by decide)]
    simp only [gs]
    cases l.completion <;> simp [Completion.databaseGroup, List.lookup_cons, hne]
  have htype : (if "Minor".toList.isPrefixOf l.msg.toList then "minor"
      else if "Major".toList.isPrefixOf l.msg.toList then "major"
      else "housekeeping") = l.completion.type := by
    unfold EventLine.msg
    cases l.completion <;> simp [Completion.announcement, Completion.type]
  have hrecord : eventRecord fl fromisoformat m = flagUntimed
      [("kind", .str "event"),
       ("ts", .ofFloat (l.time fl fromisoformat)),
       ("event", .str l.msg),
       ("database", .str l.database),
       ("type", .str l.completion.type)] := by
    unfold eventRecord
    rw [hts, hmsg, hdatabase, Option.getD_some]
    simp only [htype, Option.map_some, String.ofList_toList, Datum.ofText]
  rw [hrecord, flagUntimed_eq l.toHeading rfl (by simp)]
  rfl

/-! ## Lines -/

theorem parseLine_of_meter {line : String} {m : Match String Char}
    (h : Takes meter line.toList m) :
    parseLine fl w fromisoformat line = some (meterRecord fl w fromisoformat m) := by
  rw [parseLine, show meter.first line.toList = some m from h]

theorem parseLine_of_event {line : String} (h : meter.first line.toList = none) :
    parseLine fl w fromisoformat line
      = (event.first line.toList).map (eventRecord fl fromisoformat) := by
  rw [parseLine, h]

/-- What all characters of some texts have, and the separator, all characters of the texts with
    separators between them have. -/
theorem forall_mem_intercalate {p : Char → Prop} {x : Char} (hx : p x) :
    ∀ ls : List (List Char), (∀ l ∈ ls, ∀ c ∈ l, p c) → ∀ c ∈ [x].intercalate ls, p c
  | [], _ => by simp
  | [l], h => by simpa using h
  | l :: l' :: ls, h => by
      have hrest := forall_mem_intercalate hx (l' :: ls)
        fun k hk => h k (List.mem_cons_of_mem _ hk)
      intro c hc
      rw [List.intercalate_cons_cons] at hc
      rcases List.mem_append.1 hc with hc | hc
      · rcases List.mem_append.1 hc with hc | hc
        · exact h l List.mem_cons_self c hc
        · obtain rfl := List.mem_singleton.1 hc
          exact hx
      · exact hrest c hc

theorem MeterLine.tagsText_brace (l : MeterLine fl w) : '\x7d' ∉ l.tagsText := by
  have hchars : ∀ c ∈ l.tagsText, c ≠ '\x7d' := by
    refine forall_mem_intercalate (by decide) _ ?_
    intro part hpart c hc
    obtain ⟨tag, -, rfl⟩ := List.mem_map.1 hpart
    rintro rfl
    rcases List.mem_append.1 hc with hc | hc
    · exact tag.key_chars.2.2 hc
    · exact tag.value_chars.2 (by simpa using hc)
  exact fun hmem => hchars _ hmem rfl

theorem MeterLine.readingsText_line (l : MeterLine fl w) :
    ∀ c ∈ l.readingsText, isAny c = true := by
  refine forall_mem_intercalate (by decide) _ ?_
  intro part hpart c hc
  obtain ⟨r, -, rfl⟩ := List.mem_map.1 hpart
  refine decide_eq_true ?_
  rintro rfl
  rcases List.mem_append.1 hc with hc | hc
  · have hword := r.key_chars _ hc
    rw [w.blank _ (by decide)] at hword
    simp at hword
  · rcases List.mem_append.1 ((List.mem_cons.1 hc).resolve_left (by decide)) with hc | hc
    · exact absurd (r.num_chars _ hc) (by decide)
    · cases hscale : r.scale <;> rw [hscale] at hc <;> simp [Scale.text] at hc

theorem MeterLine.readingsText_stops (l : MeterLine fl w) :
    Stops PyNumber.isSpace l.readingsText := by
  unfold MeterLine.readingsText
  cases l.readings with
  | nil => simp [Stops]
  | cons r rs =>
      obtain ⟨c, key, hkey⟩ := List.exists_cons_of_ne_nil
        fun hnil => r.key_ne (String.toList_eq_nil_iff.1 hnil)
      have hhead : ([' '].intercalate ((r :: rs).map Reading.text)).head? = some c := by
        cases rs <;> simp [List.intercalate_cons_cons, Reading.text, hkey]
      intro d hd
      rw [hhead] at hd
      obtain rfl := Option.some.inj hd
      rw [Bool.eq_false_iff]
      intro hspace
      have hword := r.key_chars c (by simp [hkey])
      rw [w.blank c hspace] at hword
      simp at hword

/-- What is searched for is the body of the line. -/
theorem MeterLine.takes_body (l : MeterLine fl w) : ∃ u, Takes reading l.body
    ⟨[("name", "ducklake.".toList ++ l.name.toList), ("tags", l.tagsText),
      ("fields", l.readingsText)], u, []⟩ :=
  takes_reading (fun hnil => l.name_ne (String.toList_eq_nil_iff.1 hnil)) l.name_chars
    l.tagsText_brace l.readingsText_line l.readingsText_stops

/-- **A meter comes back as it was printed.** -/
theorem parseLine_meterLine (l : MeterLine fl w) (hquiet : l.Quiet) (hends : l.StampEnds l.body)
    (htrim : l.Trimmed) (hseparate : l.Separate) :
    parseLine fl w fromisoformat l.text = some (l.record fromisoformat) := by
  obtain ⟨u, hreading⟩ := l.takes_body
  have hnone : ∀ v r, l.pre = v ++ r → r ≠ [] → reading.results (r ++ l.body) = [] := by
    intro v r heq hr
    refine results_eq_nil fun u t hlang htext => hquiet ⟨v, r, heq, hr, ?_⟩
    rw [htext]
    exact metricLike_of_lang hlang
  obtain ⟨u, hmeter⟩ := takes_ts hends (by rintro c ⟨⟩; decide) hnone hreading
  rw [← String.toList_ofList (l := l.toHeading.text ++ l.body)] at hmeter
  rw [MeterLine.text, parseLine_of_meter hmeter]
  exact congrArg some (meterRecord_eq l htrim hseparate rfl)

/-- The characters of a timestamp. -/
theorem Stamp.forall_mem_text (s : Stamp) {p : Char → Prop} (hdigit : ∀ c, isDigit c = true → p c)
    (hother : ∀ c ∈ "-T:,.Z+".toList, p c) : ∀ c ∈ s.text, p c := by
  have hdigits : ∀ {n : Nat} (d : Digits n), ∀ c ∈ d.chars, p c :=
    fun d c hc => hdigit c (d.digits c hc)
  have hzone : ∀ c ∈ s.zone.elim [] Zone.text, p c := by
    cases s.zone with
    | none => simp
    | some z =>
        cases z with
        | utc => exact fun c hc => hother c (by simp_all [Zone.text])
        | offset sign hsign hours colon minutes =>
            have hs : p sign := by
              have hcases : sign = '+' ∨ sign = '-' := by simpa [isSign] using hsign
              rcases hcases with rfl | rfl
              · exact hother _ (by decide)
              · exact hother _ (by decide)
            have hcolon : ∀ c ∈ if colon then [':'] else [], p c := by
              cases colon with
              | true => exact fun c hc => hother c (by simp_all)
              | false => simp
            simp only [Option.elim_some, Zone.text, List.forall_mem_cons, List.forall_mem_append]
            exact ⟨hs, hdigits hours, hcolon, hdigits minutes⟩
  have hpoint : p (if s.comma then ',' else '.') := by
    cases s.comma
    · exact hother _ (by decide)
    · exact hother _ (by decide)
  have hdash := hother '-' (by decide)
  have hcolon := hother ':' (by decide)
  simp only [Stamp.text, Stamp.front, List.forall_mem_cons, List.forall_mem_append]
  exact ⟨hdigits _, hdash, hdigits _, hdash, hdigits _, hother 'T' (by decide), hdigits _, hcolon,
    hdigits _, hcolon, hdigits _, hpoint, fun c hc => hdigit c (s.fraction_digits c hc), hzone⟩

/-- The characters of a timestamp, where there is one. -/
theorem Heading.forall_mem_stamp (h : Heading) {p : Char → Prop}
    (hdigit : ∀ c, isDigit c = true → p c) (hother : ∀ c ∈ "-T:,.Z+".toList, p c) :
    ∀ c ∈ h.stamp.elim [] Stamp.text, p c := by
  cases h.stamp with
  | none => simp
  | some s => exact s.forall_mem_text hdigit hother

/-- No meter is found in a text whose blanks have no brace before them: what follows the tags of a
    meter is a blank. -/
theorem ne_of_reading_lang {front marks u v t : List Char} (hfront : '\x7d' ∉ front)
    (hmarks : ∀ c ∈ marks, isMark c = true) (h : reading.Lang u t) :
    front ++ marks ≠ v ++ (u ++ t) := by
  obtain ⟨name, _, rfl, -, _, _, rfl, rfl, tags, _, rfl, -, _, _, rfl, rfl, blanks, rest, rfl,
    hblanks, -⟩ := h
  obtain ⟨hne, hspace⟩ := lang_plus.1 hblanks
  obtain ⟨b, blanks, rfl⟩ := List.exists_cons_of_ne_nil hne
  intro htext
  have heq : front ++ marks
      = (v ++ (name ++ (['\x7b'] ++ (tags ++ ['\x7d'])))) ++ b :: (blanks ++ (rest ++ t)) := by
    rw [htext]
    simp only [List.append_assoc, List.cons_append]
  rcases List.append_eq_append_iff.1 heq with ⟨x, -, hx⟩ | ⟨x, hx, -⟩
  · have hmark := hmarks b (by rw [hx]; simp)
    rw [isMark, hspace b List.mem_cons_self] at hmark
    simp at hmark
  · exact hfront (by rw [hx]; simp)

theorem EventLine.body_eq (l : EventLine) : l.body =
    ("CompactionService - ".toList ++ l.completion.announcement.toList) ++ l.database.toList := by
  have hmsg : l.msg.toList = l.completion.announcement.toList ++ l.database.toList :=
    String.toList_append
  exact (congrArg ("CompactionService - ".toList ++ ·) hmsg).trans (List.append_assoc ..).symm

/-- What is searched for comes last. -/
theorem lang_ts {r : Regex String Char} {u t : List Char} (h : (ts r).Lang u t) :
    ∃ v w, u = v ++ w ∧ r.Lang w t := by
  obtain ⟨stamp, _, rfl, -, blanks, _, rfl, -, skipped, w, rfl, -, hlang⟩ := h
  exact ⟨stamp ++ (blanks ++ skipped), w, by simp only [List.append_assoc], hlang⟩

/-- **No meter is found in an announcement.** -/
theorem meter_first_eventLine (l : EventLine) (hquiet : l.Quiet) :
    meter.first l.text.toList = none := by
  refine List.head?_eq_none_iff.2 (results_eq_nil ?_)
  intro text t hmeter hline
  obtain ⟨before, u, rfl, hlang⟩ := lang_ts hmeter
  have hmetric := metricLike_of_lang hlang
  have hfront : '\x7d' ∉ "CompactionService - ".toList ++ l.completion.announcement.toList := by
    cases l.completion <;> decide
  have hbody : ∀ v : List Char, l.body ≠ v ++ (u ++ t) := by
    intro v
    rw [l.body_eq]
    exact ne_of_reading_lang hfront l.database_chars hlang
  have hprefix : ∀ v : List Char, l.pre ++ l.body ≠ v ++ (u ++ t) := by
    intro v heq
    rcases List.append_eq_append_iff.1 heq with ⟨x, -, hx⟩ | ⟨x, hx, htext⟩
    · exact hbody x hx
    · cases x with
      | nil => exact hbody [] htext.symm
      | cons c x => exact hquiet ⟨v, c :: x, hx, by simp, htext ▸ hmetric⟩
  have hsplit : l.stamp.elim [] Stamp.text ++ (l.pre ++ l.body)
      = before ++ (u ++ t) := by
    rw [EventLine.text, Heading.text, String.toList_ofList] at hline
    simpa only [List.append_assoc] using hline
  rcases List.append_eq_append_iff.1 hsplit with ⟨x, -, hx⟩ | ⟨x, hx, htext⟩
  · exact hprefix x hx
  · cases x with
    | nil => exact hprefix [] htext.symm
    | cons c x =>
        -- a metric begins with a letter that no timestamp has
        obtain ⟨_, rest, -, hduck⟩ := hmetric
        rw [htext] at hduck
        obtain rfl : c = 'd' := (List.cons.inj hduck).1
        have hne : ∀ c ∈ l.stamp.elim [] Stamp.text, c ≠ 'd' := l.forall_mem_stamp
          (by rintro c hc rfl; exact absurd hc (by decide))
          (List.all_iff_forall_prop.1 (by decide))
        exact hne 'd' (by rw [hx]; simp) rfl

/-- **An announcement comes back as it was printed.** -/
theorem parseLine_eventLine (l : EventLine) (hquiet : l.Quiet) (hends : l.StampEnds l.body)
    (honly : l.Only) :
    parseLine fl w fromisoformat l.text = some (l.record fl fromisoformat) := by
  have hne : l.database.toList ≠ [] := fun hnil => l.database_ne (String.toList_eq_nil_iff.1 hnil)
  obtain ⟨u, hcompletion⟩ := takes_completion l.completion hne l.database_chars
  have hnone : ∀ v r, l.pre = v ++ r → r ≠ [] → completion.results (r ++ l.body) = [] := by
    intro v r heq hr
    refine results_eq_nil fun u t hlang htext => honly ⟨v, r, heq, hr, ?_⟩
    rw [htext]
    exact eventLike_of_lang hlang
  rw [← String.toList_append] at hcompletion
  obtain ⟨u, hevent⟩ := takes_ts hends (by rintro c ⟨⟩; decide) hnone hcompletion
  have hfirst : event.first (l.toHeading.text ++ l.body) = some _ := hevent
  rw [parseLine_of_event (meter_first_eventLine l hquiet), EventLine.text, String.toList_ofList,
    hfirst]
  exact congrArg some (eventRecord_eq l rfl)

/-! ## Kinds -/

theorem mem_of_lookup {record : Rec} {key : String} {d : Datum}
    (h : record.lookup key = some d) : (key, d) ∈ record := by
  obtain ⟨l₁, l₂, heq, -⟩ := List.lookup_eq_some_iff.1 h
  simp [heq]

theorem mem_flagUntimed {record : Rec} {entry : String × Datum} (h : entry ∈ flagUntimed record) :
    entry = ("no_timestamp", .bool true) ∨ entry ∈ record := by
  unfold flagUntimed at h
  split at h
  · exact PyDict.mem_set h
  · exact Or.inr h

theorem lookup_flagUntimed_cons {key : String} (h : key ≠ "no_timestamp") (d : Datum)
    (rest : Rec) : (flagUntimed ((key, d) :: rest)).lookup key = some d := by
  unfold flagUntimed
  split
  · rw [PyDict.set, if_neg h, List.lookup_cons_self]
  · exact List.lookup_cons_self

/-- What is read from the fields of a meter are numbers. -/
theorem mem_parseFields {raw : List Char} {entry : String × Datum}
    (h : entry ∈ parseFields fl w raw) : ∃ x, entry.2 = .float x := by
  rw [parseFields_eq] at h
  have hmem := (PyDict.mem_update h).resolve_left (by simp)
  obtain ⟨groups, -, hread⟩ := List.mem_filterMap.1 hmem
  obtain ⟨x, -, rfl⟩ := Option.map_eq_some_iff.1 hread
  unfold fieldEntry
  split
  all_goals exact ⟨_, rfl⟩

theorem kind_meterRecord (m : Match String Char) :
    (meterRecord fl w fromisoformat m).lookup "kind" ≠ some (.str "event") := by
  intro hkind
  rcases mem_flagUntimed (mem_of_lookup hkind) with heq | hmem
  · simp at heq
  · rcases PyDict.mem_update hmem with hmem | hmem
    · simp at hmem
    · obtain ⟨x, hx⟩ := mem_parseFields hmem
      simp at hx

theorem kind_eventRecord (m : Match String Char) :
    (eventRecord fl fromisoformat m).lookup "kind" ≠ some (.str "meter") := by
  have hkind : (eventRecord fl fromisoformat m).lookup "kind" = some (.str "event") :=
    lookup_flagUntimed_cons (by decide) _ _
  rw [hkind]
  simp

theorem meter_first_meterLine (l : MeterLine fl w) : meter.first l.text.toList ≠ none := by
  obtain ⟨u, hreading⟩ := l.takes_body
  obtain ⟨hbody, hlang⟩ := sound _ (List.mem_of_mem_head? hreading)
  have hstamp : ∀ c ∈ l.stamp.elim [] Stamp.text, isAny c = true := by
    refine l.forall_mem_stamp (fun c hc => decide_eq_true ?_) (List.all_eq_true.1 (by decide))
    rintro rfl
    exact absurd hc (by decide)
  have hheading : ∀ c ∈ l.toHeading.text, isAny c = true := by
    intro c hc
    rcases List.mem_append.1 hc with hc | hc
    · exact hstamp c hc
    · exact l.oneLine c hc
  -- the heading as a whole can be skipped
  have hmeter : meter.Lang (l.toHeading.text ++ u) [] :=
    ⟨[], _, rfl, Or.inr rfl, [], _, rfl, by simp [Lang], l.toHeading.text, u, rfl, hheading, hlang⟩
  rw [MeterLine.text, String.toList_ofList, hbody, ← List.append_assoc]
  exact first_ne_none hmeter

/-- **What comes back of a printed line**: the record that was printed, where the timestamp is over
before the prefix, tags have no blanks around them, readings have keys of their own and no other
announcement stands in the prefix; and in no case a record of the other kind. -/
theorem parseLine_printed (fl : FloatFormat) (w : WordChars)
    (fromisoformat : String → Option Moment) :
    (∀ l : MeterLine fl w, l.Quiet → l.StampEnds l.body → l.Trimmed → l.Separate →
      parseLine fl w fromisoformat l.text = some (l.record fromisoformat)) ∧
    (∀ l : EventLine, l.Quiet → l.StampEnds l.body → l.Only →
      parseLine fl w fromisoformat l.text = some (l.record fl fromisoformat)) ∧
    (∀ (l : MeterLine fl w) (record : Rec), parseLine fl w fromisoformat l.text = some record →
      record.lookup "kind" ≠ some (.str "event")) ∧
    (∀ (l : EventLine) (record : Rec), l.Quiet →
      parseLine fl w fromisoformat l.text = some record →
      record.lookup "kind" ≠ some (.str "meter")) := by
  refine ⟨parseLine_meterLine, parseLine_eventLine, ?_, ?_⟩
  · intro l record h
    obtain ⟨m, hm⟩ := Option.ne_none_iff_exists'.1 (meter_first_meterLine l)
    rw [parseLine_of_meter hm] at h
    obtain rfl := Option.some.inj h
    exact kind_meterRecord m
  · intro l record hquiet h
    rw [parseLine_of_event (meter_first_eventLine l hquiet)] at h
    obtain ⟨m, -, rfl⟩ := Option.map_eq_some_iff.1 h
    exact kind_eventRecord m

/-! ## Some lines -/

/-- `\w` without characters beyond ASCII. -/
def asciiWords : WordChars where
  has c := decide (c.toNat < 128) && (c.isAlphanum || c == '_')
  ascii c h := by simp [h]
  blank c h := by
    have hcodes : ∀ n < 128, PyNumber.isSpace (Char.ofNat n) = true →
        ((Char.ofNat n).isAlphanum || Char.ofNat n == '_') = false := by decide
    by_cases hc : c.toNat < 128
    · have hblank := hcodes c.toNat hc
      rw [Char.ofNat_toNat] at hblank
      rw [hblank h, Bool.and_false]
    · rw [decide_eq_false hc, Bool.false_and]

/-- `datetime.fromisoformat` on a few timestamps. -/
def readIso (text : String) : Option Moment :=
  if text = "2026-09-15T12:00:00.5+00:00" then some ⟨1789473600500000, some 0⟩
  else if text = "2026-09-15T12:00:00.5" then some ⟨1789473600500000, none⟩
  else if text = "2026-09-15T12:00:00.51" then some ⟨1789473600510000, none⟩
  else none

/-- Half a second past noon. -/
def noon (zone : Option Zone) : Stamp where
  year := ⟨"2026".toList, by decide, List.all_eq_true.1 (by decide)⟩
  month := ⟨"09".toList, by decide, List.all_eq_true.1 (by decide)⟩
  day := ⟨"15".toList, by decide, List.all_eq_true.1 (by decide)⟩
  hour := ⟨"12".toList, by decide, List.all_eq_true.1 (by decide)⟩
  minute := ⟨"00".toList, by decide, List.all_eq_true.1 (by decide)⟩
  second := ⟨"00".toList, by decide, List.all_eq_true.1 (by decide)⟩
  comma := false
  fraction := ['5']
  fraction_ne := by decide
  fraction_digits := List.all_eq_true.1 (by decide)
  zone

theorem not_announces_metricLike {h : Heading} (hpre : 'd' ∉ h.pre) (t : List Char) :
    ¬ h.Announces MetricLike t := by
  rintro ⟨v, w, heq, hne, c, rest, -, hw⟩
  obtain ⟨d, w, rfl⟩ := List.exists_cons_of_ne_nil hne
  obtain rfl : d = 'd' := (List.cons.inj hw).1
  exact hpre (by rw [heq]; simp)

theorem not_announces_eventLike {h : Heading} (hpre : 'C' ∉ h.pre) (t : List Char) :
    ¬ h.Announces EventLike t := by
  rintro ⟨v, w, heq, hne, b₁, b₂, rest, completion, c, -, -, -, -, -, hw⟩
  obtain ⟨d, w, rfl⟩ := List.exists_cons_of_ne_nil hne
  obtain rfl : d = 'C' := (List.cons.inj hw).1
  exact hpre (by rw [heq]; simp)

theorem not_stamp_prefix {c : Char} (h : isDigit c = false) (t : List Char) (s : Stamp) :
    ¬ s.text <+: c :: t := by
  rintro ⟨rest, heq⟩
  obtain ⟨d, year, hyear⟩ : ∃ d year, s.year.chars = d :: year := by
    refine List.exists_cons_of_ne_nil fun hnil => ?_
    have hlen := s.year.length_eq
    simp [hnil] at hlen
  rw [Stamp.text, Stamp.front, hyear] at heq
  have hdigit := s.year.digits d (by simp [hyear])
  rw [(List.cons.inj heq).1, h] at hdigit
  simp at hdigit

/-- A line with a timestamp, a prefix, tags and readings of every scale. -/
def mergeLine : MeterLine .exact asciiWords where
  stamp := some (noon (some .utc))
  pre := " [main] ".toList
  oneLine := List.all_eq_true.1 (by decide)
  name := "compaction.duration"
  tags := [⟨"database", "bench", by decide, by decide⟩, ⟨"type", "minor", by decide, by decide⟩]
  readings :=
    [⟨"throughput", "0.5", .fin (1 / 2), .perSecond, by decide, List.all_eq_true.1 (by decide),
      List.all_eq_true.1 (by decide),
      by decide +kernel⟩,
     ⟨"mean", "0.25", .fin (1 / 4), .seconds, by decide, List.all_eq_true.1 (by decide),
      List.all_eq_true.1 (by decide), by decide +kernel⟩,
     ⟨"max", "4", .fin 4, .millis, by decide, List.all_eq_true.1 (by decide),
      List.all_eq_true.1 (by decide), by decide +kernel⟩,
     ⟨"value", "7", .fin 7, .plain, by decide, List.all_eq_true.1 (by decide),
      List.all_eq_true.1 (by decide), by decide +kernel⟩]
  name_ne := by decide
  name_chars := List.all_eq_true.1 (by decide)
  tags_nodup := by decide
  readings_nodup := by decide

/-- A line without a timestamp. -/
def minorLine : EventLine where
  stamp := none
  pre := "[main] INFO ".toList
  oneLine := List.all_eq_true.1 (by decide)
  completion := .minor
  database := "bench"
  database_ne := by decide
  database_chars := List.all_eq_true.1 (by decide)

example : mergeLine.text = "2026-09-15T12:00:00.5Z [main] ducklake.compaction.duration" ++
    "\x7bdatabase=bench,type=minor\x7d throughput=0.5/s mean=0.25s max=4ms value=7" := by
  decide +kernel

theorem parseLine_printed_lines :
    parseLine .exact asciiWords readIso mergeLine.text = some (mergeLine.record readIso) ∧
    parseLine .exact asciiWords readIso minorLine.text
      = some (minorLine.record .exact readIso) := by
  have hmerge : mergeLine.StampEnds mergeLine.body := by rintro ⟨⟩
  have hminor : minorLine.StampEnds minorLine.body := not_stamp_prefix (c := '[') (by decide) _
  exact ⟨(parseLine_printed .exact asciiWords readIso).1 mergeLine
      (not_announces_metricLike (by decide) _) hmerge (by decide) (by decide),
    (parseLine_printed .exact asciiWords readIso).2.1 minorLine
      (not_announces_metricLike (by decide) _) hminor (not_announces_eventLike (by decide) _)⟩

/-- A line with one tag and neither timestamp nor prefix. -/
def shortLine (tag : Tag) (readings : List (Reading .exact asciiWords))
    (h : (readings.map Reading.key).Nodup) : MeterLine .exact asciiWords where
  stamp := none
  pre := []
  oneLine := by simp
  name := "files.small"
  tags := [tag]
  readings
  name_ne := by decide
  name_chars := List.all_eq_true.1 (by decide)
  tags_nodup := by simp
  readings_nodup := h

/-- A reading with the name of a tag. -/
def clashingLine : MeterLine .exact asciiWords :=
  shortLine ⟨"type", "minor", by decide, by decide⟩
    [⟨"type", "3", .fin 3, .plain, by decide, List.all_eq_true.1 (by decide),
      List.all_eq_true.1 (by decide), by decide +kernel⟩] (by decide)

/-- Two readings with one name in the record. -/
def mergingLine : MeterLine .exact asciiWords :=
  shortLine ⟨"type", "minor", by decide, by decide⟩
    [⟨"mean", "1", .fin 1, .seconds, by decide, List.all_eq_true.1 (by decide),
      List.all_eq_true.1 (by decide), by decide +kernel⟩,
     ⟨"mean_ms", "2", .fin 2, .plain, by decide, List.all_eq_true.1 (by decide),
      List.all_eq_true.1 (by decide), by decide +kernel⟩]
    (by decide)

/-- A blank before the value of a tag. -/
def paddedLine : MeterLine .exact asciiWords :=
  shortLine ⟨"type", " minor", by decide, by decide⟩ [] (by decide)

/-- A prefix that the name goes on with. -/
def gluedLine : MeterLine .exact asciiWords :=
  { shortLine ⟨"type", "minor", by decide, by decide⟩ [] (by decide) with
    pre := "ducklake.".toList
    oneLine := List.all_eq_true.1 (by decide) }

/-- A prefix that goes on with the timestamp. -/
def joinedLine : EventLine :=
  { minorLine with
    stamp := some (noon none)
    pre := "1 [main] ".toList
    oneLine := List.all_eq_true.1 (by decide) }

/-- Two announcements. -/
def repeatedLine : EventLine :=
  { minorLine with
    pre := "CompactionService - Major compaction completed for a; ".toList
    oneLine := List.all_eq_true.1 (by decide) }

/-- What comes back of these is something else than what was printed: a number for the tag's text,
one of two readings, the value of a tag without its blank, a longer name, a later time, and the
database of the first announcement. -/
theorem not_parseLine_printed :
    (clashingLine.Quiet ∧ clashingLine.text = "ducklake.files.small\x7btype=minor\x7d type=3" ∧
      clashingLine.tag "type" = .str "minor" ∧
      (parseLine .exact asciiWords readIso clashingLine.text).bind (·.lookup "type")
        = some (.float (.fin 3))) ∧
    (mergingLine.Quiet ∧
      mergingLine.text = "ducklake.files.small\x7btype=minor\x7d mean=1s mean_ms=2" ∧
      (parseLine .exact asciiWords readIso mergingLine.text).bind (·.lookup "mean_ms")
        = some (.float (.fin 2))) ∧
    (paddedLine.Quiet ∧ paddedLine.text = "ducklake.files.small\x7btype= minor\x7d " ∧
      (parseLine .exact asciiWords readIso paddedLine.text).bind (·.lookup "type")
        = some (.str "minor")) ∧
    ((∀ w, w <:+ gluedLine.pre → ¬ MetricLike w) ∧
      gluedLine.text = "ducklake.ducklake.files.small\x7btype=minor\x7d " ∧
      gluedLine.name = "files.small" ∧
      (parseLine .exact asciiWords readIso gluedLine.text).bind (·.lookup "metric")
        = some (.str "ducklake.ducklake.files.small")) ∧
    (joinedLine.Quiet ∧ joinedLine.text = "2026-09-15T12:00:00.51 [main] " ++
        "CompactionService - Minor compaction completed for bench" ∧
      joinedLine.time .exact readIso = some (.fin 1789473600.5) ∧
      (parseLine .exact asciiWords readIso joinedLine.text).bind (·.lookup "ts")
        = some (.float (.fin 1789473600.51))) ∧
    (repeatedLine.Quiet ∧
      repeatedLine.text = "CompactionService - Major compaction completed for a; " ++
        "CompactionService - Minor compaction completed for bench" ∧
      (parseLine .exact asciiWords readIso repeatedLine.text).bind (·.lookup "database")
        = some (.str "a;")) := by
  have hquiet : ∀ {h : Heading} (t : List Char), 'd' ∉ h.pre → ¬ h.Announces MetricLike t :=
    fun t hpre => not_announces_metricLike hpre t
  have hglued : ∀ w, w <:+ gluedLine.pre → ¬ MetricLike w := by
    rintro w hsuffix ⟨c, rest, -, rfl⟩
    have hlen := hsuffix.length_le
    have hname : "ducklake.".toList.length = 9 := by decide
    have hpre : gluedLine.pre.length = 9 := by decide
    rw [List.length_append, List.length_cons, hname, hpre] at hlen
    omega
  have hrepeated : repeatedLine.Quiet := by
    rintro ⟨v, w, heq, hne, c, rest, -, hw⟩
    have hnone : ∀ w ∈ repeatedLine.pre.tails, w ≠ [] →
        ¬ "ducklake.".toList <+: w ++ repeatedLine.body := by decide +kernel
    exact hnone w ((List.mem_tails _ _).2 ⟨v, heq.symm⟩) hne ⟨c :: rest, hw.symm⟩
  exact ⟨⟨hquiet _ (by decide), by decide +kernel⟩, ⟨hquiet _ (by decide), by decide +kernel⟩,
    ⟨hquiet _ (by decide), by decide +kernel⟩, ⟨hglued, by decide +kernel⟩,
    ⟨hquiet _ (by decide), by decide +kernel⟩, hrepeated, by decide +kernel⟩

end AnalyticsTesting.Bench.CompactorLog
