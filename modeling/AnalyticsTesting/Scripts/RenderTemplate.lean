import AnalyticsTesting.Lib.Template
import Mathlib.Data.List.Dedup
import Mathlib.Data.String.Basic

set_option autoImplicit false

/-! # Rendering templates

`scripts/lib/common.sh`: `render_template`, the Python program in it. The configuration files, unit
files and start scripts of the services are written by it from templates with `@KEY@` placeholders.
`environ` is the environment after the `KEY=VAL` arguments have been exported. -/

namespace AnalyticsTesting.Scripts

open Regex (groupText)

/-- `[A-Z0-9_]`. -/
def isKeyChar (c : Char) : Bool :=
  ('A' ≤ c && c ≤ 'Z') || ('0' ≤ c && c ≤ '9') || c == '_'

/-- A key between two `@`. -/
def placeholderForm : Template.Form Char where
  opener := ['@']
  closer := ['@']
  first := isKeyChar
  more := isKeyChar
  opener_ne_nil := List.cons_ne_nil _ _
  stops t c hc := by
    obtain rfl : '@' = c := by simpa using hc
    decide

/-- `@([A-Z0-9_]+)@`. -/
def placeholder : Regex Unit Char := placeholderForm.pattern

example : placeholder
    = .seqs [.lit ['@'], .group () (.plus true isKeyChar), .lit ['@']] := rfl

/-- `m.group(1)`. -/
def groupOne (groups : List (Unit × List Char)) : String := String.ofList (groupText groups ())

/-- `sub`: the text that a placeholder is replaced by. -/
def substitute (environ : String → Option String) (groups : List (Unit × List Char))
    (text : List Char) : List Char :=
  match environ (groupOne groups) with
  | none => text
  | some val => val.toList

/-- The keys that the calls of `sub` have appended to `missing`. -/
def missingKeys (environ : String → Option String) (text : List Char) : List String :=
  (placeholder.pieces text).filterMap fun
    | .char _ => none
    | .found groups _ =>
        if environ (groupOne groups) = none then some (groupOne groups) else none

/-- `sorted(set(keys))`. -/
def sortedSet (keys : List String) : List String :=
  keys.dedup.mergeSort fun a b => decide (a ≤ b)

/-- What the program exits with if keys are missing. -/
def unresolved (src : String) (keys : List String) : String :=
  "unresolved placeholders in " ++ src ++ ": " ++ ", ".intercalate (sortedSet keys)

/-- `render_template`: the text that is written to the destination, or the message that is exited
    with before anything is written. -/
def renderTemplate (environ : String → Option String) (src : String) (text : List Char) :
    Except String (List Char) :=
  let out := placeholder.sub (substitute environ) text
  let missing := missingKeys environ text
  if missing ≠ [] then .error (unresolved src missing) else .ok out

end AnalyticsTesting.Scripts
