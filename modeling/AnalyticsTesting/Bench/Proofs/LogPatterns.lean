import Mathlib.Data.List.TakeWhile
import AnalyticsTesting.Bench.LogFormat

set_option autoImplicit false

/-! # What the log patterns match

Each pattern on what is printed for it: a timestamp (`takes_stamp`), a heading (`takes_ts`), a meter
(`takes_reading`), an announcement (`takes_completion`) and a reading (`takes_field`). -/

namespace AnalyticsTesting.Bench.CompactorLog

open Regex

/-! ## Timestamps -/

theorem takes_digits {n : Nat} (d : Digits n) (t : List Char) :
    Takes (times isDigit n : Regex String Char) (d.chars ++ t) ⟨[], d.chars, t⟩ := by
  obtain ⟨chars, rfl, hdigits⟩ := d
  exact takes_times hdigits t

theorem takes_word (text : String) (t : List Char) :
    Takes (word text) (text.toList ++ t) ⟨[], text.toList, t⟩ := takes_lit _ t

theorem lang_zone {u t : List Char} (h : zone.Lang u t) : ∃ z : Zone, u = z.text := by
  rcases h with rfl | ⟨s, u, rfl, ⟨sign, rfl, hsign⟩, hours, u, rfl, hhours, colon, minutes, rfl,
    hcolon, hminutes⟩
  · exact ⟨.utc, rfl⟩
  · obtain ⟨hhours, hhoursDigits⟩ := lang_times.1 hhours
    obtain ⟨hminutes, hminutesDigits⟩ := lang_times.1 hminutes
    refine ⟨.offset sign hsign ⟨hours, hhours, hhoursDigits⟩ (!colon.isEmpty)
      ⟨minutes, hminutes, hminutesDigits⟩, ?_⟩
    rcases hcolon with rfl | rfl
    · rfl
    · rfl

theorem takes_zone (z : Zone) (t : List Char) : Takes zone (z.text ++ t) ⟨[], z.text, t⟩ := by
  cases z with
  | utc => exact takes_alt_left (takes_word "Z" t) _
  | offset sign hsign hours colon minutes =>
      have hcolon : Takes (opt (word ":")) ((if colon then [':'] else []) ++ (minutes.chars ++ t))
          ⟨[], if colon then [':'] else [], minutes.chars ++ t⟩ := by
        cases colon with
        | true => exact takes_alt_left (takes_word ":" _) _
        | false =>
            -- the minutes begin with a digit
            obtain ⟨chars, hlength, hdigits⟩ := minutes
            cases chars with
            | nil => simp at hlength
            | cons c chars =>
                have hne : ':' ≠ c := by
                  rintro rfl
                  exact absurd (hdigits _ List.mem_cons_self) (by decide)
                exact takes_opt_none (results_lit_of_ne hne _ _)
      have hseqs := takes_seqs (takes_one hsign _)
        (takes_seqs (takes_digits hours _)
          (takes_seqs hcolon (takes_last (takes_digits minutes t))))
      have hutc : (word "Z").results ((Zone.offset sign hsign hours colon minutes).text ++ t)
          = [] := by
        refine results_lit_of_ne ?_ _ _
        rintro rfl
        exact absurd hsign (by decide)
      refine takes_alt_right hutc ?_
      simpa [Zone.text] using hseqs

theorem lang_stamp {u t : List Char} (h : stamp.Lang u t) : ∃ s : Stamp, u = s.text := by
  obtain ⟨year, u, rfl, hyear, _, u, rfl, rfl, month, u, rfl, hmonth, _, u, rfl, rfl, day, u, rfl,
    hday, _, u, rfl, rfl, hour, u, rfl, hhour, _, u, rfl, rfl, minute, u, rfl, hminute, _, u, rfl,
    rfl, second, u, rfl, hsecond, _, u, rfl, ⟨point, rfl, hpoint⟩, fraction, u, rfl, hfraction,
    hzone⟩ := h
  obtain ⟨hne, hdigits⟩ := lang_plus.1 hfraction
  have hend : ∃ zone : Option Zone, u = zone.elim [] Zone.text := by
    rcases hzone with hzone | rfl
    · obtain ⟨z, rfl⟩ := lang_zone hzone
      exact ⟨some z, rfl⟩
    · exact ⟨none, rfl⟩
  obtain ⟨zone, rfl⟩ := hend
  have hdigitsOf : ∀ {n : Nat} {v w : List Char},
      (times isDigit n : Regex String Char).Lang v w → ∃ d : Digits n, d.chars = v :=
    fun h => ⟨⟨_, (lang_times.1 h).1, (lang_times.1 h).2⟩, rfl⟩
  obtain ⟨year, rfl⟩ := hdigitsOf hyear
  obtain ⟨month, rfl⟩ := hdigitsOf hmonth
  obtain ⟨day, rfl⟩ := hdigitsOf hday
  obtain ⟨hour, rfl⟩ := hdigitsOf hhour
  obtain ⟨minute, rfl⟩ := hdigitsOf hminute
  obtain ⟨second, rfl⟩ := hdigitsOf hsecond
  have hpoint : point = '.' ∨ point = ',' := by simpa using hpoint
  let s : Stamp :=
    ⟨year, month, day, hour, minute, second, point == ',', fraction, hne, hdigits, zone⟩
  refine ⟨s, ?_⟩
  rcases hpoint with rfl | rfl
  · rfl
  · rfl

/-- **A printed timestamp is matched as a whole** where the text after it does not go on with
it. -/
theorem takes_stamp (s : Stamp) {t : List Char} (h : s.Ends t) :
    Takes stamp (s.text ++ t) ⟨[], s.text, t⟩ := by
  have hstops : Stops isDigit (s.zone.elim [] Zone.text ++ t) := by
    cases hzone : s.zone with
    | none => exact (h hzone).1
    | some z =>
        intro c hc
        cases z with
        | utc =>
            obtain rfl : 'Z' = c := by simpa [Zone.text] using hc
            decide
        | offset sign hsign hours colon minutes =>
            obtain rfl : sign = c := by simpa [Zone.text] using hc
            have hsign : sign = '+' ∨ sign = '-' := by simpa [isSign] using hsign
            rcases hsign with rfl | rfl
            · decide
            · decide
  have hzone : Takes (opt zone) (s.zone.elim [] Zone.text ++ t)
      ⟨[], s.zone.elim [] Zone.text, t⟩ := by
    cases hzone : s.zone with
    | none =>
        refine takes_opt_none (results_eq_nil fun u v hu heq => ?_)
        obtain ⟨z, rfl⟩ := lang_zone hu
        exact (h hzone).2 z ⟨v, heq.symm⟩
    | some z => exact takes_alt_left (takes_zone z t) _
  have hpoint : Takes (one fun c => c == '.' || c == ',' : Regex String Char)
      ([if s.comma then ',' else '.'] ++ (s.fraction ++ (s.zone.elim [] Zone.text ++ t)))
      ⟨[], [if s.comma then ',' else '.'], s.fraction ++ (s.zone.elim [] Zone.text ++ t)⟩ :=
    takes_one (by cases s.comma <;> rfl) _
  have hseqs := takes_seqs (takes_digits s.year _) (takes_seqs (takes_word "-" _)
    (takes_seqs (takes_digits s.month _) (takes_seqs (takes_word "-" _)
    (takes_seqs (takes_digits s.day _) (takes_seqs (takes_word "T" _)
    (takes_seqs (takes_digits s.hour _) (takes_seqs (takes_word ":" _)
    (takes_seqs (takes_digits s.minute _) (takes_seqs (takes_word ":" _)
    (takes_seqs (takes_digits s.second _) (takes_seqs hpoint
    (takes_seqs (takes_plus s.fraction_ne s.fraction_digits hstops)
    (takes_last hzone)))))))))))))
  simpa [Stamp.text, Stamp.front, stamp] using hseqs

/-! ## Headings -/

/-- The part of a list from the first element without a property on. -/
theorem exists_split (p : Char → Bool) (l : List Char) :
    ∃ v w, l = v ++ w ∧ (∀ c ∈ v, p c = true) ∧ ∀ c ∈ w.head?, p c = false := by
  refine ⟨l.takeWhile p, l.dropWhile p, (List.takeWhile_append_dropWhile).symm,
    fun c hc => List.mem_takeWhile_imp hc, ?_⟩
  intro c hc
  have := List.head?_dropWhile_not p l
  rw [hc] at this
  simpa using this

/-- **A heading is matched as it was printed**: its timestamp is the group `ts`, and what the
pattern searches for is found behind the prefix. -/
theorem takes_ts {r : Regex String Char} {h : Heading} {t : List Char} {m : Match String Char}
    (hend : h.StampEnds t) (hstops : Stops PyNumber.isSpace t)
    (hnone : ∀ v w, h.pre = v ++ w → w ≠ [] → r.results (w ++ t) = []) (hm : Takes r t m) :
    ∃ u, Takes (ts r) (h.text ++ t)
      ⟨h.stamp.elim [] (fun s => [("ts", s.text)]) ++ m.groups, u, m.rest⟩ := by
  have hstamp : Takes (opt (group "ts" stamp)) (h.stamp.elim [] Stamp.text ++ (h.pre ++ t))
      ⟨h.stamp.elim [] (fun s => [("ts", s.text)]), h.stamp.elim [] Stamp.text, h.pre ++ t⟩ := by
    unfold Heading.StampEnds at hend
    cases hs : h.stamp with
    | some s =>
        rw [hs] at hend
        exact takes_alt_left (takes_group (takes_stamp s hend) "ts") _
    | none =>
        rw [hs] at hend
        refine takes_opt_none (results_eq_nil fun u v hu heq => ?_)
        obtain ⟨s, rfl⟩ := lang_stamp hu
        exact hend s ⟨v, heq.symm⟩
  obtain ⟨blanks, rest, hpre, hblanks, hrest⟩ := exists_split PyNumber.isSpace h.pre
  have hmarks : Stops PyNumber.isSpace (rest ++ t) := by
    cases rest with
    | nil => exact hstops
    | cons c rest => exact hrest
  have hline : ∀ c ∈ rest, isAny c = true := fun c hc => h.oneLine c (by simp [hpre, hc])
  have hlazy := takes_lazy_seq hline
    (fun v w heq hw => hnone (blanks ++ v) w (by rw [hpre, heq, List.append_assoc]) hw) hm
  rw [hpre, List.append_assoc] at hstamp
  have hseqs := takes_seqs hstamp (takes_seqs (takes_many hblanks hmarks) (takes_last hlazy))
  refine ⟨h.stamp.elim [] Stamp.text ++ (blanks ++ (rest ++ m.text)), ?_⟩
  simpa [ts, Heading.text, hpre] using hseqs

/-! ## Meters and events in a line -/

theorem metricLike_of_lang {u t : List Char} (h : reading.Lang u t) : MetricLike (u ++ t) := by
  obtain ⟨_, v, rfl, ⟨_, name, rfl, rfl, hname⟩, -⟩ := h
  obtain ⟨hne, hchars⟩ := lang_plus.1 hname
  cases name with
  | nil => exact absurd rfl hne
  | cons c name => exact ⟨c, name ++ v ++ t, hchars c List.mem_cons_self, by simp⟩

theorem takes_reading {name tags fields : List Char} (hne : name ≠ [])
    (hname : ∀ c ∈ name, isNameChar c = true) (htags : '\x7d' ∉ tags)
    (hline : ∀ c ∈ fields, isAny c = true) (hfields : Stops PyNumber.isSpace fields) :
    ∃ u, Takes reading
      ("ducklake.".toList ++ (name ++ '\x7b' :: (tags ++ '\x7d' :: ' ' :: fields)))
      ⟨[("name", "ducklake.".toList ++ name), ("tags", tags), ("fields", fields)], u, []⟩ := by
  have hbrace : ∀ c ∈ tags, (decide (c ≠ '\x7d')) = true := by
    intro c hc
    refine decide_eq_true ?_
    rintro rfl
    exact htags hc
  have hname' := takes_group (takes_seq (takes_word "ducklake."
      (name ++ ('\x7b' :: (tags ++ '\x7d' :: ' ' :: fields))))
    (takes_plus hne hname (t := '\x7b' :: (tags ++ '\x7d' :: ' ' :: fields))
      (by rintro c ⟨⟩; decide))) "name"
  have htags' := takes_group (takes_many hbrace (t := '\x7d' :: ' ' :: fields)
    (by rintro c ⟨⟩; decide)) "tags"
  have hblank : Takes (plus true PyNumber.isSpace : Regex String Char) ([' '] ++ fields)
      ⟨[], [' '], fields⟩ := takes_plus (by simp) (List.all_eq_true.1 (by decide)) hfields
  have hfields' : Takes (group "fields" (many true isAny)) fields
      ⟨[("fields", fields)], fields, []⟩ := by
    simpa using takes_group (takes_many hline (t := []) (by simp [Stops])) "fields"
  have hseqs := takes_seqs hname' (takes_seqs (takes_lit ['\x7b'] _) (takes_seqs htags'
    (takes_seqs (takes_lit ['\x7d'] _) (takes_seqs hblank (takes_seqs hfields'
    (takes_last (takes_ahead (p := atEnd) (t := []) rfl)))))))
  exact ⟨_, by simpa [reading] using hseqs⟩

theorem eventLike_of_lang {u t : List Char} (h : completion.Lang u t) : EventLike (u ++ t) := by
  obtain ⟨_, _, rfl, rfl, b₁, _, rfl, hb₁, _, _, rfl, rfl, b₂, _, rfl, hb₂, hmsg⟩ := h
  obtain ⟨hne₁, hblank₁⟩ := lang_plus.1 hb₁
  obtain ⟨hne₂, hblank₂⟩ := lang_plus.1 hb₂
  have hevent : ∀ (completion : Completion) (db : List Char),
      (plus true isMark : Regex String Char).Lang db t →
      EventLike ("CompactionService".toList ++ (b₁ ++ ("-".toList ++ (b₂ ++
        (completion.announcement.toList ++ db)))) ++ t) := by
    intro completion db hdb
    obtain ⟨hne, hmarks⟩ := lang_plus.1 hdb
    cases db with
    | nil => exact absurd rfl hne
    | cons c db =>
        exact ⟨b₁, b₂, db ++ t, completion, c, hne₁, hblank₁, hne₂, hblank₂,
          hmarks c List.mem_cons_self, by simp⟩
  rcases hmsg with ⟨_, _, rfl, hkind, _, db, rfl, rfl, hdb⟩ | ⟨_, db, rfl, rfl, hdb⟩
  · rcases hkind with rfl | rfl
    · exact hevent .minor db hdb
    · exact hevent .major db hdb
  · exact hevent .housekeeping db hdb

/-- The group with the database in it. -/
def Completion.databaseGroup : Completion → String
  | .minor | .major => "db1"
  | .housekeeping => "db2"

theorem takes_completion (completion : Completion) {db : List Char} (hne : db ≠ [])
    (hmarks : ∀ c ∈ db, isMark c = true) :
    ∃ u, Takes CompactorLog.completion
      ("CompactionService - ".toList ++ (completion.announcement.toList ++ db))
      ⟨[("msg", completion.announcement.toList ++ db), (completion.databaseGroup, db)], u, []⟩ := by
  have hdb : ∀ name : String, Takes (group name (plus true isMark)) db ⟨[(name, db)], db, []⟩ := by
    intro name
    simpa using takes_group (takes_plus hne hmarks (t := []) (by simp [Stops])) name
  have hmsg : Takes (alt
      (seqs [alt (word "Minor") (word "Major"), word " compaction completed for ",
        group "db1" (plus true isMark)])
      (seqs [word "Housekeeping completed for ", group "db2" (plus true isMark)]))
      (completion.announcement.toList ++ db)
      ⟨[(completion.databaseGroup, db)], completion.announcement.toList ++ db, []⟩ := by
    cases completion with
    | minor =>
        exact takes_alt_left (takes_seqs (takes_alt_left (takes_word "Minor" _) _)
          (takes_seqs (takes_word " compaction completed for " db) (takes_last (hdb "db1")))) _
    | major =>
        have hminor : (word "Minor").results
            ("Major".toList ++ (" compaction completed for ".toList ++ db)) = [] := by
          refine results_eq_nil ?_
          rintro _ v rfl heq
          simp at heq
        exact takes_alt_left (takes_seqs (takes_alt_right hminor (takes_word "Major" _))
          (takes_seqs (takes_word " compaction completed for " db) (takes_last (hdb "db1")))) _
    | housekeeping =>
        refine takes_alt_right (results_eq_nil ?_) (takes_seqs
          (takes_word "Housekeeping completed for " db) (takes_last (hdb "db2")))
        rintro _ v ⟨_, _, rfl, hkind, -⟩ heq
        rcases hkind with rfl | rfl
        · exact absurd (List.cons.inj heq).1 (by decide)
        · exact absurd (List.cons.inj heq).1 (by decide)
  have hstops : Stops PyNumber.isSpace (completion.announcement.toList ++ db) := by
    intro c hc
    cases completion with
    | minor | major =>
        obtain rfl : 'M' = c := by simpa [Completion.announcement] using hc
        decide
    | housekeeping =>
        obtain rfl : 'H' = c := by simpa [Completion.announcement] using hc
        decide
  have hblank : ∀ {t : List Char}, Stops PyNumber.isSpace t →
      Takes (plus true PyNumber.isSpace : Regex String Char) ([' '] ++ t) ⟨[], [' '], t⟩ :=
    takes_plus (by simp) (List.all_eq_true.1 (by decide))
  have hseqs := takes_seqs (takes_word "CompactionService" _) (takes_seqs
    (hblank (t := "-".toList ++ (' ' :: (completion.announcement.toList ++ db)))
      (by rintro c ⟨⟩; decide))
    (takes_seqs (takes_word "-" _) (takes_seqs (hblank hstops)
      (takes_last (takes_group hmsg "msg")))))
  exact ⟨_, by simpa [CompactorLog.completion] using hseqs⟩

/-! ## Readings -/

namespace Reading

variable {fl : FloatFormat} {w : WordChars}

/-- The groups of a reading. -/
def groups (r : Reading fl w) : List (String × List Char) :=
  [("key", r.key.toList), ("num", r.num.toList)] ++
    match r.scale with
    | .plain => []
    | _ => [("unit", r.scale.text.toList)]

theorem num_ne (r : Reading fl w) : r.num.toList ≠ [] := by
  intro hnil
  have hempty : r.num = "" := String.toList_eq_nil_iff.1 hnil
  have hnum := r.num_eq
  rw [hempty] at hnum
  simp [PyNumber.floatOfStr, PyNumber.stripBlanks, PyNumber.dropUnderscores, PyNumber.takeSign,
    PyNumber.decimal?, PyNumber.takeDigits] at hnum

end Reading

/-- The end of a line or a blank. -/
def Separated (t : List Char) : Prop := ∀ c ∈ t.head?, c = ' '

theorem takes_unit (scale : Scale) {t : List Char} (ht : Separated t) :
    Takes (opt (group "unit" (alt (word "/s") (alt (word "s") (word "ms")))))
      (scale.text.toList ++ t)
      ⟨match scale with
        | .plain => []
        | _ => [("unit", scale.text.toList)], scale.text.toList, t⟩ := by
  cases scale with
  | plain =>
      refine takes_opt_none (results_eq_nil ?_)
      rintro u v (rfl | rfl | rfl) rfl
      · exact absurd (ht '/' rfl) (by decide)
      · exact absurd (ht 's' rfl) (by decide)
      · exact absurd (ht 'm' rfl) (by decide)
  | seconds =>
      have hunit := takes_alt_right (s := alt (word "s") (word "ms"))
        (results_lit_of_ne (show '/' ≠ 's' by decide) ['s'] t)
        (takes_alt_left (takes_word "s" t) _)
      exact takes_alt_left (takes_group hunit "unit") _
  | millis =>
      have hunit := takes_alt_right (s := alt (word "s") (word "ms"))
        (results_lit_of_ne (show '/' ≠ 'm' by decide) ['s'] ('s' :: t))
        (takes_alt_right (results_lit_of_ne (show 's' ≠ 'm' by decide) [] ('s' :: t))
          (takes_word "ms" t))
      exact takes_alt_left (takes_group hunit "unit") _
  | perSecond =>
      exact takes_alt_left (takes_group (takes_alt_left (takes_word "/s" t) _) "unit") _

variable {fl : FloatFormat} {w : WordChars}

/-- **A printed reading is matched as a whole.** -/
theorem takes_field (r : Reading fl w) {t : List Char} (ht : Separated t) :
    Takes (field w) (r.text ++ t) ⟨r.groups, r.text, t⟩ := by
  have hkey : Stops w.has ('=' :: (r.num.toList ++ (r.scale.text.toList ++ t))) := by
    rintro c ⟨⟩
    rw [w.ascii '=' (by decide)]
    decide
  have hnum : Stops isNumChar (r.scale.text.toList ++ t) := by
    intro c hc
    cases hscale : r.scale with
    | plain =>
        rw [hscale] at hc
        obtain rfl := ht c hc
        decide
    | seconds | millis | perSecond =>
        rw [hscale] at hc
        obtain ⟨⟩ := hc
        decide
  have hkeyNe : r.key.toList ≠ [] := fun hnil => r.key_ne (String.toList_eq_nil_iff.1 hnil)
  have hseqs := takes_seqs (takes_group (takes_plus hkeyNe r.key_chars hkey) "key")
    (takes_seqs (takes_word "=" _)
    (takes_seqs (takes_group (takes_plus r.num_ne r.num_chars hnum) "num")
    (takes_last (takes_unit r.scale ht))))
  simpa [Reading.text, Reading.groups, field] using hseqs

end AnalyticsTesting.Bench.CompactorLog
