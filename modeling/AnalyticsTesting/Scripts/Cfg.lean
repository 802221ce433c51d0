import AnalyticsTesting.Config.Load

set_option autoImplicit false

/-! # Settings for the shell

`scripts/lib/cfg.py`: a script asks for one value of a configuration file by its dotted path. `load`
there expands the document as `generator/src/config.py` does, so `expand` and `document` of
`Config.Load` are used for it; an alias that leads back into its own container ends it. What
`json.dumps` makes of a value is a parameter, one for each of the two ways it is called; it raises
for what JSON has no form for. -/

namespace AnalyticsTesting.Scripts

open Config

/-- `part.isdigit()`. -/
def isIndex (part : String) : Bool := part ≠ "" && part.toList.all PyNumber.isDigit

/-- The loop of `dig`; `none` is `_MISSING`. A superscript passes `isdigit` and makes `int`
    raise. -/
def digParts : Value → List String → Py (Option Value)
  | node, [] => .ok (some node)
  | .dict items, part :: parts =>
      match Entries.lookup items (.str part) with
      | some v => digParts v parts
      | none => .ok none
  | .list xs, part :: parts =>
      if isIndex part then do
        let i ← orRaise .valueError (PyNumber.intOfStr part)
        match xs[i.toNat]? with
        | some v => digParts v parts
        | none => .ok none
      else .ok none
  | _, _ :: _ => .ok none

/-- `dig`. -/
def dig (root : Value) (dotted : String) : Py (Option Value) :=
  if dotted = "" then .ok (some root)
  else digParts root ((dotted.toList.splitOn '.').map String.ofList)

/-- What a call of the program comes to. -/
inductive CfgOutcome
  /-- Exit code 0. -/
  | printed (lines : List String)
  | failed (code : Nat) (message : String)
  deriving DecidableEq

section Main

/-- `json.dumps(value)`, and `json.dumps(value, indent=2, default=str)`. -/
structure JsonDumps where
  compact : Value → Py String
  indented : Value → Py String

variable (fl : FloatFormat) (dumps : JsonDumps)

/-- `render_scalar`. -/
def renderScalar : Value → Py String
  | .bool b => .ok (if b then "true" else "false")
  | .none => .ok ""
  | .list xs => dumps.compact (.list xs)
  | .dict items => dumps.compact (.dict items)
  | v => v.toStr fl

inductive CfgCommand
  | get (default : Option String)
  | json
  | keys

/-- What `main` makes of the value at the path. -/
def cfgAnswer (file path : String) (cmd : CfgCommand) (value : Option Value) : Py CfgOutcome :=
  let noSuchKey := CfgOutcome.failed 3 (file ++ ": no such key: " ++ path)
  match cmd, value with
  | .get (some default), none => .ok (.printed [default])
  | .get none, none => .ok noSuchKey
  | .get _, some v => do return .printed [← renderScalar fl dumps v]
  | .json, none => .ok noSuchKey
  | .json, some v => do return .printed [← dumps.indented v]
  | .keys, some (.dict items) => do
      return .printed (← items.mapM fun kv => (Value.ofKey kv.1).toStr fl)
  | .keys, _ => .ok (.failed 3 (file ++ ": not a mapping: " ++ path))

/-- `main`, from the parsed document on. -/
def cfgMain (environ : String → Option String) (file : String) (doc : Value) (cmd : CfgCommand)
    (path : String) : Py CfgOutcome := do
  let value ← dig (← document environ doc) path
  cfgAnswer fl dumps file path cmd value

end Main

end AnalyticsTesting.Scripts
