import AnalyticsTesting.Lib.Regex
import AnalyticsTesting.Lib.PyDict
import AnalyticsTesting.Lib.PyNumber

set_option autoImplicit false

/-! # The compactor's log

`bench/parse_compactor_log.py`: the patterns a line is matched with, and the record `parse_line`
makes of it. Which characters beyond ASCII count as letters (`WordChars`) and what
`datetime.fromisoformat` makes of a text are parameters. -/

namespace AnalyticsTesting.Bench.CompactorLog

open Regex

/-! ## The patterns -/

/-- `\d`. -/
def isDigit (c : Char) : Bool := (PyNumber.digit? c).isSome

/-- `\w`: letters, digits and the underscore. -/
structure WordChars where
  has : Char → Bool
  ascii : ∀ c : Char, c.toNat < 128 → has c = (c.isAlphanum || c == '_')
  blank : ∀ c : Char, PyNumber.isSpace c = true → has c = false

/-- `.`. -/
def isAny (c : Char) : Bool := c ≠ '\n'

/-- `[+-]`. -/
def isSign (c : Char) : Bool := c == '+' || c == '-'

/-- `[a-z_.]`. -/
def isNameChar (c : Char) : Bool := ('a' ≤ c && c ≤ 'z') || c == '_' || c == '.'

/-- `[0-9.eE+-]`. -/
def isNumChar (c : Char) : Bool :=
  ('0' ≤ c && c ≤ '9') || c == '.' || c == 'e' || c == 'E' || isSign c

/-- A character that is no blank: `\S`. -/
def isMark (c : Char) : Bool := !PyNumber.isSpace c

/-- `$`. -/
def atEnd (t : List Char) : Bool := t = [] || t = ['\n']

/-- A pattern of characters that stand for themselves. -/
def word (text : String) : Regex String Char := lit text.toList

/-- `Z|[+-]\d{2}:?\d{2}`. -/
def zone : Regex String Char :=
  alt (word "Z") (seqs [one isSign, times isDigit 2, opt (word ":"), times isDigit 2])

/-- `\d{4}-\d{2}-\d{2}T\d{2}:\d{2}:\d{2}[.,]\d+(?:Z|[+-]\d{2}:?\d{2})?`. -/
def stamp : Regex String Char :=
  seqs [times isDigit 4, word "-", times isDigit 2, word "-", times isDigit 2, word "T",
    times isDigit 2, word ":", times isDigit 2, word ":", times isDigit 2,
    one (fun c => c == '.' || c == ','), plus true isDigit, opt zone]

/-- `TS`, and what a pattern goes on with. -/
def ts (r : Regex String Char) : Regex String Char :=
  seqs [opt (group "ts" stamp), many true PyNumber.isSpace, seq (many false isAny) r]

/-- What `METER` searches for. -/
def reading : Regex String Char :=
  seqs [group "name" (seq (word "ducklake.") (plus true isNameChar)), lit ['\x7b'],
    group "tags" (many true fun c => c ≠ '\x7d'), lit ['\x7d'], plus true PyNumber.isSpace,
    group "fields" (many true isAny), ahead atEnd]

/-- `METER`. -/
def meter : Regex String Char := ts reading

/-- What `EVENT` searches for. -/
def completion : Regex String Char :=
  seqs [word "CompactionService", plus true PyNumber.isSpace, word "-", plus true PyNumber.isSpace,
    group "msg" (alt
      (seqs [alt (word "Minor") (word "Major"), word " compaction completed for ",
        group "db1" (plus true isMark)])
      (seqs [word "Housekeeping completed for ", group "db2" (plus true isMark)]))]

/-- `EVENT`. -/
def event : Regex String Char := ts completion

/-- `FIELD`. -/
def field (w : WordChars) : Regex String Char :=
  seqs [group "key" (plus true w.has), word "=", group "num" (plus true isNumChar),
    opt (group "unit" (alt (word "/s") (alt (word "s") (word "ms"))))]

/-! ## Timestamps -/

/-- A `datetime`, in microseconds. -/
structure Moment where
  /-- What its clock shows, from 1970 on. -/
  clock : Int
  /-- How far the clock is ahead of UTC, where that is known. -/
  utcoffset : Option Int
  deriving DecidableEq

/-- `timestamp()`, with UTC where there is no offset. -/
def Moment.timestamp (fl : FloatFormat) (d : Moment) : Double :=
  fl.round ((d.clock - d.utcoffset.getD 0 : Int) / 10 ^ 6)

/-- `[+-]\d{4}$`. -/
def bareOffset : Regex String Char := seqs [one isSign, times isDigit 4, ahead atEnd]

/-- The text that `parse_ts` gives to `datetime.fromisoformat`. -/
def normalise (raw : List Char) : List Char :=
  let text := raw.map fun c => if c = ',' then '.' else c
  let text := if text.getLast? = some 'Z' then text.dropLast ++ "+00:00".toList else text
  if bareOffset.anywhere text then
    text.take (text.length - 2) ++ ':' :: text.drop (text.length - 2)
  else text

/-- `parse_ts`. -/
def parseTs (fl : FloatFormat) (fromisoformat : String → Option Moment) (raw : Option (List Char)) :
    Option Double :=
  match raw with
  | none | some [] => none
  | some raw => (fromisoformat (String.ofList (normalise raw))).map (·.timestamp fl)

/-! ## Tags and fields -/

/-- `parse_tags`. -/
def parseTags (raw : List Char) : List (String × String) :=
  PyDict.update [] <| (raw.splitOn ',').filterMap fun part =>
    if '=' ∈ part then
      some (String.ofList (PyNumber.strip (part.takeWhile (· ≠ '='))),
        String.ofList (PyNumber.strip (part.dropWhile (· ≠ '=')).tail))
    else none

/-- A value of a record. -/
inductive Datum
  | none
  | bool (b : Bool)
  | float (x : Double)
  | str (s : String)
  deriving DecidableEq

/-- What one match of `FIELD` adds to `out`. -/
def fieldEntry (fl : FloatFormat) (key : List Char) (value : Double) (unit : Option (List Char)) :
    String × Datum :=
  let key := String.ofList key
  match unit.map String.ofList with
  | some "s" => (key ++ "_ms", .float (fl.mul value (.fin 1000)))
  | some "ms" => (key ++ "_ms", .float value)
  | some "/s" => (key ++ "_per_s", .float value)
  | _ => (key, .float value)

/-- `parse_fields`. -/
def parseFields (fl : FloatFormat) (w : WordChars) (raw : List Char) : List (String × Datum) :=
  PyDict.update [] <| ((field w).findAll raw.length raw).filterMap fun m =>
    let get (name : String) : List Char := (m.groups.lookup name).getD []
    (PyNumber.floatOfStr fl (String.ofList (get "num"))).map fun value =>
      fieldEntry fl (get "key") value (m.groups.lookup "unit")

/-! ## Records -/

/-- A record: a dict. -/
abbrev Rec := List (String × Datum)

/-- `no_timestamp` where there is none. -/
def flagUntimed (record : Rec) : Rec :=
  if record.lookup "ts" = some .none then PyDict.set record "no_timestamp" (.bool true) else record

/-- A text that may be missing. -/
def Datum.ofText : Option String → Datum
  | some s => .str s
  | .none => .none

/-- A float that may be missing. -/
def Datum.ofFloat : Option Double → Datum
  | some x => .float x
  | .none => .none

section ParseLine

variable (fl : FloatFormat) (w : WordChars) (fromisoformat : String → Option Moment)

/-- The record of a match of `METER`. -/
def meterRecord (m : Match String Char) : Rec :=
  let tags := parseTags ((m.groups.lookup "tags").getD [])
  let record : Rec :=
    [("kind", .str "meter"),
     ("ts", .ofFloat (parseTs fl fromisoformat (m.groups.lookup "ts"))),
     ("metric", .str (String.ofList ((m.groups.lookup "name").getD []))),
     ("database", .ofText (tags.lookup "database")),
     ("type", .ofText (tags.lookup "type")),
     ("step", .ofText (tags.lookup "step"))]
  flagUntimed (PyDict.update record (parseFields fl w ((m.groups.lookup "fields").getD [])))

/-- The record of a match of `EVENT`. -/
def eventRecord (m : Match String Char) : Rec :=
  let msg := (m.groups.lookup "msg").getD []
  let database := ((m.groups.lookup "db1").filter (· ≠ [])).or (m.groups.lookup "db2")
  flagUntimed
    [("kind", .str "event"),
     ("ts", .ofFloat (parseTs fl fromisoformat (m.groups.lookup "ts"))),
     ("event", .str (String.ofList msg)),
     ("database", .ofText (database.map String.ofList)),
     ("type", .str (if "Minor".toList.isPrefixOf msg then "minor"
        else if "Major".toList.isPrefixOf msg then "major"
        else "housekeeping"))]

/-- `parse_line`. -/
def parseLine (line : String) : Option Rec :=
  match meter.first line.toList with
  | some m => some (meterRecord fl w fromisoformat m)
  | none => (event.first line.toList).map (eventRecord fl fromisoformat)

end ParseLine

end AnalyticsTesting.Bench.CompactorLog
