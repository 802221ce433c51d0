import AnalyticsTesting.Bench.CompactorLog

set_option autoImplicit false

/-! # The lines of the compactor's log

The format that `bench/parse_compactor_log.py` documents, from the side of the printer: a line has
a heading (perhaps a timestamp, and a prefix) and then a meter with its tags and readings, or the
announcement of something completed. `record` is what has been printed. -/

namespace AnalyticsTesting.Bench.CompactorLog

/-! ## Timestamps -/

/-- A number of digits. -/
structure Digits (n : Nat) where
  chars : List Char
  length_eq : chars.length = n
  digits : ∀ c ∈ chars, isDigit c = true

/-- `Z`, `+hh:mm` or `+hhmm`. -/
inductive Zone
  | utc
  | offset (sign : Char) (isSign : isSign sign = true) (hours : Digits 2) (colon : Bool)
      (minutes : Digits 2)

namespace Zone

def text : Zone → List Char
  | utc => ['Z']
  | offset sign _ hours colon minutes =>
      sign :: (hours.chars ++ ((if colon then [':'] else []) ++ minutes.chars))

/-- The zone as an offset with a colon. -/
def normal : Zone → List Char
  | utc => "+00:00".toList
  | offset sign _ hours _ minutes => sign :: (hours.chars ++ ':' :: minutes.chars)

theorem normal_offset (sign : Char) (h : isSign sign = true) (hours : Digits 2) (colon : Bool)
    (minutes : Digits 2) : (offset sign h hours colon minutes).normal =
      sign :: (hours.chars ++ ':' :: minutes.chars) := rfl

end Zone

/-- A timestamp with a fraction after a point or a comma. -/
structure Stamp where
  year : Digits 4
  month : Digits 2
  day : Digits 2
  hour : Digits 2
  minute : Digits 2
  second : Digits 2
  comma : Bool
  fraction : List Char
  fraction_ne : fraction ≠ []
  fraction_digits : ∀ c ∈ fraction, isDigit c = true
  zone : Option Zone

namespace Stamp

/-- Date and time up to the seconds, and what follows. -/
def front (s : Stamp) (tail : List Char) : List Char :=
  s.year.chars ++ ('-' :: (s.month.chars ++ ('-' :: (s.day.chars ++ ('T' :: (s.hour.chars ++
    (':' :: (s.minute.chars ++ (':' :: (s.second.chars ++ tail))))))))))

def text (s : Stamp) : List Char :=
  s.front ((if s.comma then ',' else '.') :: (s.fraction ++ s.zone.elim [] Zone.text))

/-- The timestamp with a point, and its zone as an offset with a colon. -/
def normal (s : Stamp) : List Char :=
  s.front ('.' :: (s.fraction ++ s.zone.elim [] Zone.normal))

/-- The timestamp is over before this text. -/
def Ends (s : Stamp) (t : List Char) : Prop :=
  s.zone = none → (∀ c ∈ t.head?, isDigit c = false) ∧ ∀ z : Zone, ¬ z.text <+: t

/-- The point in time, if the timestamp can be read. -/
def time (s : Stamp) (fl : FloatFormat) (fromisoformat : String → Option Moment) : Option Double :=
  (fromisoformat (String.ofList s.normal)).map (·.timestamp fl)

end Stamp

/-- What stands before the printed record. -/
structure Heading where
  stamp : Option Stamp
  pre : List Char
  oneLine : ∀ c ∈ pre, isAny c = true

namespace Heading

def text (h : Heading) : List Char := h.stamp.elim [] Stamp.text ++ h.pre

/-- A text with this property begins in the prefix, where this text follows it. -/
def Announces (h : Heading) (P : List Char → Prop) (t : List Char) : Prop :=
  ∃ v w, h.pre = v ++ w ∧ w ≠ [] ∧ P (w ++ t)

/-- The timestamp is what has been printed of one: it is over where the prefix begins, and the
    prefix does not begin with one. -/
def StampEnds (h : Heading) (t : List Char) : Prop :=
  match h.stamp with
  | some s => s.Ends (h.pre ++ t)
  | none => ∀ s : Stamp, ¬ s.text <+: h.pre ++ t

def time (h : Heading) (fl : FloatFormat) (fromisoformat : String → Option Moment) :
    Option Double :=
  h.stamp.bind (·.time fl fromisoformat)

/-- The flag of a line whose timestamp is missing or cannot be read. -/
def untimed (h : Heading) (fl : FloatFormat) (fromisoformat : String → Option Moment) : Rec :=
  if h.time fl fromisoformat = none then [("no_timestamp", .bool true)] else []

end Heading

/-! ## Meters -/

/-- A tag. -/
structure Tag where
  key : String
  value : String
  key_chars : '=' ∉ key.toList ∧ ',' ∉ key.toList ∧ '\x7d' ∉ key.toList
  value_chars : ',' ∉ value.toList ∧ '\x7d' ∉ value.toList

def Tag.text (tag : Tag) : List Char := tag.key.toList ++ '=' :: tag.value.toList

/-- What a number of a reading counts. -/
inductive Scale
  | plain
  | seconds
  | millis
  | perSecond
  deriving DecidableEq

def Scale.text : Scale → String
  | plain => ""
  | seconds => "s"
  | millis => "ms"
  | perSecond => "/s"

/-- A reading: a key, a number as it is printed, and what it counts. -/
structure Reading (fl : FloatFormat) (w : WordChars) where
  key : String
  num : String
  value : Double
  scale : Scale
  key_ne : key ≠ ""
  key_chars : ∀ c ∈ key.toList, w.has c = true
  num_chars : ∀ c ∈ num.toList, isNumChar c = true
  num_eq : PyNumber.floatOfStr fl num = some value

namespace Reading

variable {fl : FloatFormat} {w : WordChars}

def text (r : Reading fl w) : List Char :=
  r.key.toList ++ '=' :: (r.num.toList ++ r.scale.text.toList)

/-- The reading in a record: durations in milliseconds, rates by the second. -/
def entry (r : Reading fl w) : String × Datum :=
  match r.scale with
  | .plain => (r.key, .float r.value)
  | .seconds => (r.key ++ "_ms", .float (fl.mul r.value (.fin 1000)))
  | .millis => (r.key ++ "_ms", .float r.value)
  | .perSecond => (r.key ++ "_per_s", .float r.value)

end Reading

/-- A line with a meter. -/
structure MeterLine (fl : FloatFormat) (w : WordChars) extends Heading where
  /-- The name, without `ducklake.` in front. -/
  name : String
  tags : List Tag
  readings : List (Reading fl w)
  name_ne : name ≠ ""
  name_chars : ∀ c ∈ name.toList, isNameChar c = true
  tags_nodup : (tags.map Tag.key).Nodup
  readings_nodup : (readings.map Reading.key).Nodup

/-- A metric-like token begins. -/
def MetricLike (t : List Char) : Prop :=
  ∃ c rest, isNameChar c = true ∧ t = "ducklake.".toList ++ c :: rest

/-- The keys a meter's record has besides its readings. -/
def ownKeys : List String := ["kind", "ts", "metric", "database", "type", "step", "no_timestamp"]

namespace MeterLine

variable {fl : FloatFormat} {w : WordChars}

def tagsText (l : MeterLine fl w) : List Char := [','].intercalate (l.tags.map Tag.text)

def readingsText (l : MeterLine fl w) : List Char := [' '].intercalate (l.readings.map Reading.text)

/-- The line from the name on. -/
def body (l : MeterLine fl w) : List Char :=
  "ducklake.".toList ++ (l.name.toList ++
    '\x7b' :: (l.tagsText ++ '\x7d' :: ' ' :: l.readingsText))

def text (l : MeterLine fl w) : String := String.ofList (l.toHeading.text ++ l.body)

/-- The value of a tag. -/
def tag (l : MeterLine fl w) (key : String) : Datum :=
  .ofText ((l.tags.map fun tag => (tag.key, tag.value)).lookup key)

/-- The record that is printed. -/
def record (l : MeterLine fl w) (fromisoformat : String → Option Moment) : Rec :=
  [("kind", .str "meter"),
   ("ts", .ofFloat (l.time fl fromisoformat)),
   ("metric", .str ("ducklake." ++ l.name)),
   ("database", l.tag "database"),
   ("type", l.tag "type"),
   ("step", l.tag "step")]
    ++ l.readings.map Reading.entry ++ l.untimed fl fromisoformat

/-- No metric-like token begins in the prefix. -/
def Quiet (l : MeterLine fl w) : Prop := ¬ l.Announces MetricLike l.body

/-- No key and no value of a tag has blanks around it. -/
def Trimmed (l : MeterLine fl w) : Prop :=
  ∀ tag ∈ l.tags, PyNumber.strip tag.key.toList = tag.key.toList ∧
    PyNumber.strip tag.value.toList = tag.value.toList

/-- The readings have keys of their own in the record. -/
def Separate (l : MeterLine fl w) : Prop :=
  (ownKeys ++ l.readings.map fun r => r.entry.1).Nodup

instance (l : MeterLine fl w) : Decidable l.Trimmed :=
  inferInstanceAs (Decidable (∀ tag ∈ l.tags, PyNumber.strip tag.key.toList = tag.key.toList ∧
    PyNumber.strip tag.value.toList = tag.value.toList))

instance (l : MeterLine fl w) : Decidable l.Separate :=
  inferInstanceAs (Decidable (ownKeys ++ l.readings.map fun r => r.entry.1).Nodup)

end MeterLine

/-! ## Events -/

/-- What may be completed. -/
inductive Completion
  | minor
  | major
  | housekeeping
  deriving DecidableEq

namespace Completion

def announcement : Completion → String
  | minor => "Minor compaction completed for "
  | major => "Major compaction completed for "
  | housekeeping => "Housekeeping completed for "

def type : Completion → String
  | minor => "minor"
  | major => "major"
  | housekeeping => "housekeeping"

end Completion

/-- A line with the announcement of something completed. -/
structure EventLine extends Heading where
  completion : Completion
  database : String
  database_ne : database ≠ ""
  database_chars : ∀ c ∈ database.toList, isMark c = true

/-- An announcement begins. -/
def EventLike (t : List Char) : Prop :=
  ∃ b₁ b₂ rest, ∃ completion : Completion, ∃ c,
    b₁ ≠ [] ∧ (∀ c ∈ b₁, PyNumber.isSpace c = true) ∧
    b₂ ≠ [] ∧ (∀ c ∈ b₂, PyNumber.isSpace c = true) ∧ isMark c = true ∧
    t = "CompactionService".toList ++ (b₁ ++ '-' :: (b₂ ++
      (completion.announcement.toList ++ c :: rest)))

namespace EventLine

def msg (l : EventLine) : String := l.completion.announcement ++ l.database

/-- The line from the logger's name on. -/
def body (l : EventLine) : List Char := "CompactionService - ".toList ++ l.msg.toList

def text (l : EventLine) : String := String.ofList (l.toHeading.text ++ l.body)

/-- The record that is printed. -/
def record (l : EventLine) (fl : FloatFormat) (fromisoformat : String → Option Moment) : Rec :=
  [("kind", .str "event"),
   ("ts", .ofFloat (l.time fl fromisoformat)),
   ("event", .str l.msg),
   ("database", .str l.database),
   ("type", .str l.completion.type)]
    ++ l.untimed fl fromisoformat

/-- No metric-like token begins in the prefix. -/
def Quiet (l : EventLine) : Prop := ¬ l.Announces MetricLike l.body

/-- No other announcement begins in the prefix. -/
def Only (l : EventLine) : Prop := ¬ l.Announces EventLike l.body

end EventLine

end AnalyticsTesting.Bench.CompactorLog
