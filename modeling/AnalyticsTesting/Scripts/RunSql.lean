import AnalyticsTesting.Lib.RegexSub
import AnalyticsTesting.Lib.PyNumber

set_option autoImplicit false

/-! # Executing SQL scripts

`scripts/lib/duckdb_exec.py`: `split_statements`, `redact`, `emit` and `main` behind the parsing of
its arguments. The database is a parameter, and so are the writers of JSON and CSV. -/

namespace AnalyticsTesting.Scripts

open PyNumber (isSpace)

/-! ## `split_statements` -/

/-- The variables of the loop of `split_statements`. -/
structure Splitter where
  out : List String
  buf : List Char
  inQuote : Bool

/-- `stmt = "".join(buf).strip()`, kept where it is not empty. -/
def Splitter.flush (x : Splitter) : List String :=
  let stmt := PyNumber.strip x.buf
  if stmt = [] then x.out else x.out ++ [String.ofList stmt]

/-- One turn of the loop, at a character that is not the first of an escaped quote. -/
def Splitter.read (x : Splitter) (ch : Char) : Splitter :=
  if ch = '\'' then { x with inQuote := !x.inQuote, buf := x.buf ++ [ch] }
  else if ch = ';' ∧ x.inQuote = false then { x with out := x.flush, buf := [] }
  else { x with buf := x.buf ++ [ch] }

/-- The loop of `split_statements` on the rest of the text. -/
def splitLoop (x : Splitter) : List Char → Splitter
  | [] => x
  | [ch] => x.read ch
  | ch :: next :: rest =>
      -- '' inside a quoted string is an escaped quote, not a terminator
      if ch = '\'' ∧ x.inQuote = true ∧ next = '\'' then
        splitLoop { x with buf := x.buf ++ ['\'', '\''] } rest
      else splitLoop (x.read ch) (next :: rest)

/-- `split_statements`. -/
def splitStatements (sql : String) : List String := (splitLoop ⟨[], [], false⟩ sql.toList).flush

example : splitStatements "ATTACH 'a;b''c' AS x;\n ; SELECT 1 "
    = ["ATTACH 'a;b''c' AS x", "SELECT 1"] := by
  decide +kernel

/-! ## `redact` -/

/-- `password=`. -/
def passwordKey : List Char := ['p', 'a', 's', 's', 'w', 'o', 'r', 'd', '=']

/-- `_SECRET_RE`: `(password=)\S+`. -/
def secretRe : Regex Unit Char :=
  .seqs [.group () (.lit passwordKey), .plus true fun c => !isSpace c]

def redact (text : List Char) : List Char :=
  secretRe.sub (fun groups _ => Regex.groupText groups () ++ ['*', '*', '*']) text

/-! ## `emit` -/

/-- `--format`. -/
inductive Format
  | table
  | json
  | csv
  | none
  deriving DecidableEq

/-- How values are written. -/
structure Writers (ρ : Type) where
  str : ρ → String
  json : List String → List (List ρ) → String
  csv : List String → List (List ρ) → String

def ljust (text : String) (width : Nat) : String :=
  text ++ String.ofList (List.replicate (width - text.length) ' ')

/-- A line of cells that are padded to the widths of their columns. -/
def tableLine (widths : List Nat) (cells : List String) : String :=
  "  ".intercalate (List.zipWith ljust cells widths) ++ "\n"

section Emit

variable {ρ : Type} (writers : Writers ρ)

def columnWidths (columns : List String) (rows : List (List ρ)) : List Nat :=
  columns.zipIdx.map fun ci =>
    ((rows.filterMap fun r => r[ci.2]?).map fun v => (writers.str v).length).foldl max ci.1.length

def emit (rows : List (List ρ)) (columns : List String) : Format → String
  | .none => ""
  | fmt =>
      if columns = [] then ""
      else
        match fmt with
        | .json => writers.json columns rows ++ "\n"
        | .csv => writers.csv columns rows
        | _ =>
            let widths := columnWidths writers columns rows
            tableLine widths columns
              ++ "  ".intercalate (widths.map fun w => String.ofList (List.replicate w '-')) ++ "\n"
              ++ String.join (rows.map fun r => tableLine widths (r.map writers.str))

end Emit

/-! ## `main` -/

/-- What `con.execute` comes to. -/
inductive Executed (ρ : Type)
  | failed (exc : String)
  /-- A cursor, with the names in its description. -/
  | cursor (columns : List String) (rows : List (List ρ))

/-- A connection with states `σ`. -/
structure Database (σ ρ : Type) where
  execute : σ → String → σ × Executed ρ

/-- What a run leaves behind. -/
structure RunOutput where
  stdout : String
  stderr : String
  code : Nat
  deriving DecidableEq

/-- What is written on stderr about the statement that failed. -/
def failureReport (idx : Nat) (exc stmt : String) : String :=
  "statement " ++ toString (idx + 1) ++ " failed: " ++ String.ofList (redact exc.toList) ++ "\n"
    ++ "  sql: " ++ String.ofList ((redact stmt.toList).take 300) ++ "\n"

section Main

variable {σ ρ : Type} (db : Database σ ρ) (writers : Writers ρ) (fmt : Format) (lastOnly : Bool)

/-- The loop, from the statement with the number `idx` on. -/
def runStatements : Nat → σ → List String → RunOutput
  | _, _, [] => ⟨"", "", 0⟩
  | idx, s, stmt :: rest =>
      match db.execute s stmt with
      | (_, .failed exc) => ⟨"", failureReport idx exc stmt, 1⟩
      | (s', .cursor columns rows) =>
          let printed := if lastOnly && !rest.isEmpty then "" else emit writers rows columns fmt
          let output := runStatements (idx + 1) s' rest
          { output with stdout := printed ++ output.stdout }

/-- `main`, on the text of the script and a connection in the state `s`. -/
def runSql (s : σ) (sql : String) : RunOutput :=
  runStatements db writers fmt lastOnly 0 s (splitStatements sql)

end Main

end AnalyticsTesting.Scripts
