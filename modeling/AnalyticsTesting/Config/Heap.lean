import AnalyticsTesting.Config.Load

set_option autoImplicit false

/-! # `_merge` on objects

`merge` of `Load.lean` computes on values. In Python a dict has an identity: `dict(base)` makes a
new one that shares the values of the old one, and an assignment to it is seen through every
reference. Here dicts and lists are the cells of a heap, and `_merge` gets and returns addresses. -/

namespace AnalyticsTesting.Config

/-- Neither a dict nor a list. -/
def Value.isScalar : Value → Bool
  | .list _ | .dict _ => false
  | _ => true

/-- What a variable or an entry holds: an object without parts, or a reference. -/
inductive Obj
  | scalar (v : {v : Value // v.isScalar = true})
  | ref (address : Nat)

/-- An object with parts. -/
inductive Cell
  | dict (entries : Entries Obj)
  | list (xs : List Obj)

/-- `isinstance(x, dict)`, with the address of the dict. -/
def dictAt (h : List Cell) : Obj → Option Nat
  | .ref a => match h[a]? with
      | some (.dict _) => some a
      | _ => none
  | .scalar _ => none

/-- `d.get(key)` of the dict at an address. -/
def getAt (h : List Cell) (d : Nat) (key : KeyId) : Option Obj :=
  match h[d]? with
  | some (.dict entries) => entries.lookup key
  | _ => none

/-- `d[key] = value`. -/
def setAt (h : List Cell) (d : Nat) (key : Key) (value : Obj) : List Cell :=
  match h[d]? with
  | some (.dict entries) => h.set d (.dict (entries.set key value))
  | _ => h

/-- The loop of `_merge` over the entries of its `over`, where `recurse` is `_merge`. The entries
    can be read once: the loop writes to `out`, which is a new dict. -/
def mergeLoop (recurse : List Cell → Nat → Nat → Option (List Cell × Nat)) (out : Nat) :
    List Cell → Entries Obj → Option (List Cell)
  | h, [] => some h
  | h, (key, value) :: rest =>
      match dictAt h value, (getAt h out key.id).bind (dictAt h) with
      | some upper, some base =>
          (recurse h base upper).bind fun merged =>
            mergeLoop recurse out (setAt merged.1 out key (.ref merged.2)) rest
      | _, _ => mergeLoop recurse out (setAt h out key value) rest

/-- `_merge(base, over)`, with `upper` for its `over`: the heap afterwards and the address of `out`.
    `fuel` bounds the depth of the recursion. -/
def mergeRefs : Nat → List Cell → Nat → Nat → Option (List Cell × Nat)
  | 0, _, _, _ => none
  | fuel + 1, h, base, upper =>
      match h[base]?, h[upper]? with
      | some (.dict entries), some (.dict items) =>
          -- `out = dict(base)`
          (mergeLoop (mergeRefs fuel) h.length (h ++ [.dict entries]) items).map fun h' =>
            (h', h.length)
      | _, _ => none

end AnalyticsTesting.Config
