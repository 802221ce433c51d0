import AnalyticsTesting.Lib.PyNumber

set_option autoImplicit false

/-! # Parsed YAML documents as Python objects

What `yaml.safe_load` returns, and the Python operations `generator/src/config.py` applies to it:
truth, `in`, indexing, `.get`, `dict(…)`, `float(…)`, `int(…)`, `str(…)` and `repr(…)`. A document
may have any shape at any path, so every operation is partial: it raises the exception Python
raises there. Only the text of a `ConfigError` is kept, since no other text is the source's own.

A tuple is an entry of an `!!omap` or of `!!pairs`. A date is an object of which only its two texts
are known (`Value.other`). Aliases can make a container that is inside itself, or nest containers
beyond the recursion limit; a value is a finite tree, which stops there (`Value.endless`). -/

namespace AnalyticsTesting.Config

/-- A hashable object as a dict key. -/
inductive Key
  | none
  | bool (b : Bool)
  | int (n : Int)
  | float (x : Double)
  | negZero
  | str (s : String)
  | bytes (b : List UInt8)
  | pair (first second : Key)
  | other (text repr : String)
  deriving DecidableEq

/-- What equal keys have in common: `1`, `1.0` and `True` are one key. -/
inductive KeyId
  | none
  | num (x : Double)
  | str (s : String)
  | bytes (b : List UInt8)
  | pair (first second : KeyId)
  | other (repr : String)
  deriving DecidableEq

/-- What a key is found by. -/
def Key.id : Key → KeyId
  | none => .none
  | bool b => .num (.fin (if b then 1 else 0))
  | int n => .num (.fin n)
  | float x => .num x
  | negZero => .num (.fin 0)
  | str s => .str s
  | bytes b => .bytes b
  | pair k k' => .pair k.id k'.id
  | other _ repr => .other repr

/-- A Python object made by the YAML loader. -/
inductive Value
  | none
  | bool (b : Bool)
  | int (n : Int)
  | float (x : Double)
  /-- The float `-0.0`. -/
  | negZero
  | str (s : String)
  | bytes (b : List UInt8)
  | list (xs : List Value)
  | pair (first second : Value)
  | dict (items : List (Key × Value))
  /-- The elements are in the order in which Python goes through them. -/
  | set (elements : List Key)
  | other (text repr : String)
  /-- A container that is reached again inside itself, with what `repr` puts there, or one that
      aliases nest beyond the recursion limit, without. -/
  | endless (repr : Option String)

/-- The entries of a dict, in insertion order. -/
abbrev Entries (ω : Type) := List (Key × ω)

/-- The entries of a dict of values. -/
abbrev Items := Entries Value

/-- What `load` can raise. -/
inductive PyExc
  | configError (message : String)
  | typeError
  | valueError
  | zeroDivisionError
  | overflowError
  | attributeError
  | keyError
  | recursionError
  deriving DecidableEq

/-- A computation that may raise. -/
abbrev Py := Except PyExc

def raise {α : Type} (e : PyExc) : Py α := .error e

/-- A partial operation that raises `e` where it is undefined. -/
def orRaise {α : Type} (e : PyExc) : Option α → Py α
  | .some a => .ok a
  | .none => .error e

theorem orRaise_eq_ok {α : Type} {e : PyExc} {o : Option α} {a : α} :
    orRaise e o = .ok a ↔ o = some a := by
  cases o <;> simp [orRaise]

theorem orRaise_eq_error {α : Type} {e e' : PyExc} {o : Option α} :
    orRaise e o = .error e' ↔ o = none ∧ e = e' := by
  cases o <;> simp [orRaise]

/-- The bind rule for computations that may raise. -/
theorem bind_eq_ok {α β : Type} {x : Py α} {f : α → Py β} {b : β} :
    (x >>= f) = .ok b ↔ ∃ a, x = .ok a ∧ f a = .ok b := by
  cases x <;> simp [Bind.bind, Except.bind]

theorem map_eq_ok {α β : Type} {x : Py α} {f : α → β} {b : β} :
    x.map f = .ok b ↔ ∃ a, x = .ok a ∧ f a = b := by
  cases x <;> simp [Except.map]

theorem ok_bind {α β : Type} (a : α) (f : α → Py β) : ((.ok a : Py α) >>= f) = f a := rfl

theorem pure_eq_ok {α : Type} {a b : α} : (pure a : Py α) = .ok b ↔ a = b := by
  simp [pure, Except.pure]

/-! ## Dicts -/

namespace Entries

variable {ω : Type}

/-- `items.get(key)`. -/
def lookup (items : Entries ω) (k : KeyId) : Option ω :=
  match items with
  | [] => .none
  | (k', v) :: rest => if k'.id = k then some v else lookup rest k

/-- `items[key] = value`: in place if the key is there, which it keeps, else at the end. -/
def set (items : Entries ω) (k : Key) (v : ω) : Entries ω :=
  match items with
  | [] => [(k, v)]
  | (k', v') :: rest => if k'.id = k.id then (k', v) :: rest else (k', v') :: set rest k v

/-- What the entries are found by. -/
def keys (items : Entries ω) : List KeyId := items.map fun entry => entry.1.id

@[simp] theorem lookup_nil (k : KeyId) : lookup ([] : Entries ω) k = .none := rfl

theorem lookup_cons (k : KeyId) (k' : Key) (v : ω) (rest : Entries ω) :
    lookup ((k', v) :: rest) k = if k'.id = k then some v else lookup rest k := rfl

@[simp] theorem keys_nil : keys ([] : Entries ω) = [] := rfl

@[simp] theorem keys_cons (k : Key) (v : ω) (rest : Entries ω) :
    keys ((k, v) :: rest) = k.id :: keys rest := rfl

@[simp] theorem lookup_set_self (items : Entries ω) (k : Key) (v : ω) :
    (items.set k v).lookup k.id = some v := by
  induction items with
  | nil => simp [set, lookup]
  | cons p rest ih =>
      obtain ⟨k', v'⟩ := p
      by_cases h : k'.id = k.id
      · simp [set, lookup, h]
      · simp [set, lookup, h, ih]

theorem lookup_set_of_ne (items : Entries ω) {k : Key} {k' : KeyId} (v : ω) (h : k.id ≠ k') :
    (items.set k v).lookup k' = items.lookup k' := by
  induction items with
  | nil => simp [set, lookup, h]
  | cons p rest ih =>
      obtain ⟨k₁, v₁⟩ := p
      by_cases h₁ : k₁.id = k.id
      · simp [set, lookup, h₁, h]
      · by_cases h₂ : k₁.id = k'
        · subst h₂
          simp [set, lookup, h₁]
        · simp [set, lookup, h₁, h₂, ih]

/-- An assignment to a text key. -/
theorem lookup_set_str (items : Entries ω) (key key' : String) (v : ω) :
    (items.set (.str key) v).lookup (.str key')
      = if key' = key then some v else items.lookup (.str key') := by
  by_cases h : key' = key
  · subst h
    rw [if_pos rfl]
    exact lookup_set_self items (.str key') v
  · have hne : (Key.str key).id ≠ .str key' := fun heq => h (KeyId.str.inj heq).symm
    rw [if_neg h]
    exact lookup_set_of_ne items v hne

end Entries

mutual

/-- Every dict in the document has one entry a key, as Python's have. -/
def Value.wf : Value → Bool
  | .list xs => wfList xs
  | .pair v v' => v.wf && v'.wf
  | .dict items => decide (Entries.keys items).Nodup && wfItems items
  | _ => true

def wfList : List Value → Bool
  | [] => true
  | v :: vs => v.wf && wfList vs

def wfItems : Items → Bool
  | [] => true
  | (_, v) :: rest => v.wf && wfItems rest

end

/-! ## Text -/

/-- A lower-case hexadecimal number of at least `width` digits. -/
def hex (n width : Nat) : List Char :=
  let ds := Nat.toDigits 16 n
  List.replicate (width - ds.length) '0' ++ ds

/-- One character inside the quotes of `repr`. -/
def reprChar (isPrintable : Char → Bool) (quote c : Char) : List Char :=
  if c = quote ∨ c = '\\' then ['\\', c]
  else if c = '\n' then ['\\', 'n']
  else if c = '\r' then ['\\', 'r']
  else if c = '\t' then ['\\', 't']
  else if isPrintable c then [c]
  else ['\\', 'x'] ++ hex c.toNat 2

/-- A text in the quotes of `repr`. -/
def quoted (isPrintable : Char → Bool) (s : List Char) : List Char :=
  let quote := if s.contains '\'' && !s.contains '"' then '"' else '\''
  quote :: s.flatMap (reprChar isPrintable quote) ++ [quote]

/-- `str.isprintable`. Beyond Latin-1 every character counts as printable. -/
def isPrintable (c : Char) : Bool :=
  let n := c.toNat
  !(n < 0x20 || (0x7f ≤ n && n ≤ 0xa0) || n = 0xad)

/-- `repr` of a string. -/
def reprStr (s : String) : String := String.ofList (quoted isPrintable s.toList)

/-- `repr` of `bytes`. -/
def reprBytes (b : List UInt8) : String :=
  String.ofList ('b' :: quoted (fun c => 0x20 ≤ c.toNat && c.toNat < 0x7f)
    (b.map fun x => Char.ofNat x.toNat))

/-- `repr` of a dict key. -/
def Key.repr (fl : FloatFormat) : Key → Py String
  | none => .ok "None"
  | bool b => .ok (if b then "True" else "False")
  | int n => orRaise .valueError (PyNumber.intText n)
  | float x => .ok (PyNumber.reprFloat fl x)
  | negZero => .ok "-0.0"
  | str s => .ok (reprStr s)
  | bytes b => .ok (reprBytes b)
  | pair k k' => do return "(" ++ (← k.repr fl) ++ ", " ++ (← k'.repr fl) ++ ")"
  | other _ repr => .ok repr

/-- Texts in curly brackets, with commas between them. -/
def braced (texts : List String) : String :=
  String.ofList ['\x7b'] ++ ", ".intercalate texts ++ String.ofList ['\x7d']

mutual

/-- `repr(value)`. -/
def Value.repr (fl : FloatFormat) : Value → Py String
  | .none => Key.repr fl .none
  | .bool b => Key.repr fl (.bool b)
  | .int n => Key.repr fl (.int n)
  | .float x => Key.repr fl (.float x)
  | .negZero => Key.repr fl .negZero
  | .str s => Key.repr fl (.str s)
  | .bytes b => Key.repr fl (.bytes b)
  | .list xs => do return "[" ++ ", ".intercalate (← reprList fl xs) ++ "]"
  | .pair v v' => do return "(" ++ (← v.repr fl) ++ ", " ++ (← v'.repr fl) ++ ")"
  | .dict items => do return braced (← reprItems fl items)
  | .set elements => do
      let texts ← elements.mapM (Key.repr fl)
      return if texts.isEmpty then "set()" else braced texts
  | .other text repr => Key.repr fl (.other text repr)
  | .endless repr => orRaise .recursionError repr

def reprList (fl : FloatFormat) : List Value → Py (List String)
  | [] => .ok []
  | v :: vs => do return (← v.repr fl) :: (← reprList fl vs)

def reprItems (fl : FloatFormat) : Items → Py (List String)
  | [] => .ok []
  | (k, v) :: rest => do
      return ((← k.repr fl) ++ ": " ++ (← v.repr fl)) :: (← reprItems fl rest)

end

namespace Value

variable (fl : FloatFormat)

/-- `str(value)`. -/
def toStr : Value → Py String
  | .str s => .ok s
  | .other text _ => .ok text
  | v => v.repr fl

/-! ## Truth, containment, indexing -/

/-- `bool(value)`. -/
def truthy : Value → Bool
  | none => false
  | bool b => b
  | int n => n ≠ 0
  | float x => x ≠ .fin 0
  | negZero => false
  | str s => s ≠ ""
  | bytes b => !b.isEmpty
  | list xs => !xs.isEmpty
  | pair _ _ => true
  | dict items => !items.isEmpty
  | set elements => !elements.isEmpty
  | other _ _ => true
  | endless _ => true

/-- `value or default`. -/
def orElse (v default : Value) : Value := if v.truthy then v else default

/-- `s in text`. -/
def hasSubstring (s : List Char) : List Char → Bool
  | [] => s.isEmpty
  | c :: rest => s.isPrefixOf (c :: rest) || hasSubstring s rest

/-- `value == text`. -/
def isText (text : String) : Value → Bool
  | str s => s = text
  | _ => false

/-- `key in value` for a text key. -/
def contains (v : Value) (key : String) : Py Bool :=
  match v with
  | dict items => .ok (Entries.lookup items (.str key)).isSome
  | set elements => .ok (elements.any fun k => k = .str key)
  | list xs => .ok (xs.any (isText key))
  | pair v v' => .ok (isText key v || isText key v')
  | str s => .ok (hasSubstring key.toList s.toList)
  | _ => raise .typeError

/-- `value[key]` for a text key. -/
def getItem (v : Value) (key : String) : Py Value :=
  match v with
  | dict items => orRaise .keyError (Entries.lookup items (.str key))
  | _ => raise .typeError

/-- `value.get(key, default)`. -/
def get (v : Value) (key : String) (default : Value) : Py Value :=
  match v with
  | dict items => .ok ((Entries.lookup items (.str key)).getD default)
  | _ => raise .attributeError

/-- `value.items()`. -/
def items (v : Value) : Py Items :=
  match v with
  | dict items => .ok items
  | _ => raise .attributeError

/-- The object as a dict key; `TypeError` for one that cannot be hashed. -/
def toKey : Value → Py Key
  | none => .ok .none
  | bool b => .ok (.bool b)
  | int n => .ok (.int n)
  | float x => .ok (.float x)
  | negZero => .ok .negZero
  | str s => .ok (.str s)
  | bytes b => .ok (.bytes b)
  | pair v v' => do return .pair (← toKey v) (← toKey v')
  | other text repr => .ok (.other text repr)
  | list _ | dict _ | set _ | endless _ => raise .typeError

/-- The key as an object. -/
def ofKey : Key → Value
  | .none => none
  | .bool b => bool b
  | .int n => int n
  | .float x => float x
  | .negZero => negZero
  | .str s => str s
  | .bytes b => bytes b
  | .pair k k' => pair (ofKey k) (ofKey k')
  | .other text repr => other text repr

/-- A byte as an object. -/
def ofByte (x : UInt8) : Value := int x.toNat

/-- An element of the sequence `dict(…)` reads, as a key and a value. -/
def toPair : Value → Py (Key × Value)
  | list [k, v] | pair k v => do return (← toKey k, v)
  | str s => match s.toList with
    | [a, b] => .ok (.str (String.singleton a), str (String.singleton b))
    | _ => raise .valueError
  | bytes [a, b] => .ok (.int a.toNat, ofByte b)
  | dict [(k, _), (k', _)] | set [k, k'] => .ok (k, ofKey k')
  | list _ | bytes _ | dict _ | set _ => raise .valueError
  | _ => raise .typeError

/-- `dict(…)` of what a container that is no dict holds. -/
def ofPairs (xs : List Value) : Py Items :=
  xs.foldlM (fun out x => do
    let (k, v) ← toPair x
    return Entries.set out k v) []

/-- What a `for` loop goes through. -/
def iterate : Value → Py (List Value)
  | list xs => .ok xs
  | pair v v' => .ok [v, v']
  | dict items => .ok (items.map fun entry => ofKey entry.1)
  | set elements => .ok (elements.map ofKey)
  | str s => .ok (s.toList.map fun c => str (String.singleton c))
  | bytes b => .ok (b.map ofByte)
  | _ => raise .typeError

/-- `dict(value)`. -/
def toDict (v : Value) : Py Items :=
  match v with
  | dict items => .ok items
  | v => do ofPairs (← iterate v)

/-! ## Numbers -/

/-- `float(value)`. -/
def toFloat (v : Value) : Py Double :=
  match v with
  | bool b => .ok (.fin (if b then 1 else 0))
  | int n => orRaise .overflowError (fl.ofInt n)
  | float x => .ok x
  | negZero => .ok (.fin 0)
  | str s => orRaise .valueError (PyNumber.floatOfStr fl s)
  | bytes b => orRaise .valueError (PyNumber.floatOfBytes fl b)
  | _ => raise .typeError

/-- A zero that `float` makes of the value is `-0.0`. -/
def hasMinus : Value → Bool
  | negZero => true
  | str s => PyNumber.hasMinus s
  | bytes b => (PyNumber.asciiText b).any PyNumber.hasMinus
  | _ => false

/-- `int(x)` of a float. -/
def floatToInt (x : Double) : Py Int :=
  match x with
  | .nan => raise .valueError
  | .inf _ => raise .overflowError
  | .fin q => .ok (q.num.tdiv q.den)

/-- `int(value)`. -/
def toInt (v : Value) : Py Int :=
  match v with
  | bool b => .ok (if b then 1 else 0)
  | int n => .ok n
  | float x => floatToInt x
  | negZero => .ok 0
  | str s => orRaise .valueError (PyNumber.intOfStr s)
  | bytes b => orRaise .valueError (PyNumber.intOfBytes b)
  | _ => raise .typeError

/-- `value + n` for an integer `n`. -/
def addInt (v : Value) (n : Int) : Py Value :=
  let addTo (x : Double) : Py Value := do
    let y ← orRaise .overflowError (fl.ofInt n)
    return float (fl.add x y)
  match v with
  | bool b => .ok (int ((if b then 1 else 0) + n))
  | int m => .ok (int (m + n))
  | float x => addTo x
  | negZero => addTo (.fin 0)
  | _ => raise .typeError

end Value

end AnalyticsTesting.Config
