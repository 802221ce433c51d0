import AnalyticsTesting.Lib.Double

set_option autoImplicit false

/-! # Numbers as Python text

The grammar of `float(text)` and `int(text)` with Unicode digits, blanks and underscores, also for
`bytes`, `str.strip`, the text of an integer, and the shortest text `repr` gives a float. An integer
of more than `maxStrDigits` digits is neither read nor printed. -/

namespace PyNumber

/-! ## Characters -/

/-- The code points of the zeros of the decimal digit blocks of Unicode. -/
def decimalZeros : List Nat :=
  [0x30, 0x660, 0x6f0, 0x7c0, 0x966, 0x9e6, 0xa66, 0xae6, 0xb66, 0xbe6, 0xc66, 0xce6, 0xd66, 0xde6,
   0xe50, 0xed0, 0xf20, 0x1040, 0x1090, 0x17e0, 0x1810, 0x1946, 0x19d0, 0x1a80, 0x1a90, 0x1b50,
   0x1bb0, 0x1c40, 0x1c50, 0xa620, 0xa8d0, 0xa900, 0xa9d0, 0xa9f0, 0xaa50, 0xabf0, 0xff10, 0x104a0,
   0x10d30, 0x11066, 0x110f0, 0x11136, 0x111d0, 0x112f0, 0x11450, 0x114d0, 0x11650, 0x116c0,
   0x11730, 0x118e0, 0x11950, 0x11c50, 0x11d50, 0x11da0, 0x16a60, 0x16ac0, 0x16b50, 0x1d7ce,
   0x1d7d8, 0x1d7e2, 0x1d7ec, 0x1d7f6, 0x1e140, 0x1e2f0, 0x1e950, 0x1fbf0]

/-- The decimal value of a digit character. -/
def digit? (c : Char) : Option Nat :=
  (decimalZeros.find? fun z => z ≤ c.toNat && c.toNat < z + 10).map (c.toNat - ·)

/-- The characters that `str.isdigit` accepts and that are no decimal digits: superscripts,
    subscripts, circled digits and the like, as ranges. -/
def otherDigits : List (Nat × Nat) :=
  [(0xb2, 0xb3), (0xb9, 0xb9), (0x1369, 0x1371), (0x19da, 0x19da), (0x2070, 0x2070),
   (0x2074, 0x2079), (0x2080, 0x2089), (0x2460, 0x2468), (0x2474, 0x247c), (0x2488, 0x2490),
   (0x24ea, 0x24ea), (0x24f5, 0x24fd), (0x24ff, 0x24ff), (0x2776, 0x277e), (0x2780, 0x2788),
   (0x278a, 0x2792), (0x10a40, 0x10a43), (0x10e60, 0x10e68), (0x11052, 0x1105a),
   (0x1f100, 0x1f10a)]

/-- `str.isdigit` for one character. -/
def isDigit (c : Char) : Bool :=
  (digit? c).isSome || otherDigits.any fun r => r.1 ≤ c.toNat && c.toNat ≤ r.2

/-- `str.isspace` for one character. -/
def isSpace (c : Char) : Bool :=
  let n := c.toNat
  (9 ≤ n && n ≤ 13) || (0x1c ≤ n && n ≤ 0x20) || (0x2000 ≤ n && n ≤ 0x200a) ||
    [0x85, 0xa0, 0x1680, 0x2028, 0x2029, 0x202f, 0x205f, 0x3000].contains n

/-- `str.strip()`. -/
def strip (s : List Char) : List Char :=
  ((s.dropWhile isSpace).reverse.dropWhile isSpace).reverse

/-- What `int` and `float` skip at both ends of a text: the separators of ASCII do not count. -/
def isBlank (c : Char) : Bool := isSpace c && !(0x1c ≤ c.toNat && c.toNat ≤ 0x1f)

/-- A text without the blanks at its ends. -/
def stripBlanks (s : List Char) : List Char :=
  ((s.dropWhile isBlank).reverse.dropWhile isBlank).reverse

/-- Remove the underscores between digits; `none` where one stands elsewhere. -/
def dropUnderscores : Bool → List Char → Option (List Char)
  | _, [] => some []
  | afterDigit, '_' :: rest =>
      match rest with
      | c :: _ => if afterDigit && (digit? c).isSome then dropUnderscores false rest else none
      | [] => none
  | _, c :: rest => (dropUnderscores (digit? c).isSome rest).map (c :: ·)

/-! ## Parsing -/

/-- The digits at the front of a text. -/
def takeDigits : List Char → List Nat × List Char
  | [] => ([], [])
  | c :: rest =>
      match digit? c with
      | none => ([], c :: rest)
      | some d => let (ds, rest) := takeDigits rest; (d :: ds, rest)

/-- The number decimal digits stand for. -/
def ofDigits (ds : List Nat) : Nat := ds.foldl (fun n d => 10 * n + d) 0

/-- An optional sign: whether it is a minus, and what follows. -/
def takeSign : List Char → Bool × List Char
  | '-' :: rest => (true, rest)
  | '+' :: rest => (false, rest)
  | s => (false, s)

/-- The exponent part of a float literal, if the text is one; an empty text stands for none. -/
def exponentPart : List Char → Option Int
  | [] => some 0
  | c :: rest =>
      if c = 'e' ∨ c = 'E' then
        let (negative, rest) := takeSign rest
        match takeDigits rest with
        | (d :: ds, []) =>
            let n : Int := ofDigits (d :: ds)
            some (if negative then -n else n)
        | _ => none
      else none

/-- `10 ^ e`, also for negative `e`. -/
def pow10 (e : Int) : ℚ := if 0 ≤ e then 10 ^ e.toNat else 1 / 10 ^ (-e).toNat

/-- A decimal literal without its sign. -/
def decimal? (s : List Char) : Option ℚ :=
  let (whole, rest) := takeDigits s
  let (fraction, rest) := match rest with
    | '.' :: rest => takeDigits rest
    | rest => ([], rest)
  if whole.isEmpty && fraction.isEmpty then none
  else (exponentPart rest).map fun e => ofDigits (whole ++ fraction) * pow10 (e - fraction.length)

/-- `float(text)`; `none` where it raises `ValueError`. -/
def floatOfStr (fl : FloatFormat) (text : String) : Option Double :=
  (dropUnderscores false (stripBlanks text.toList)).bind fun s =>
    let (negative, s) := takeSign s
    let word := String.ofList (s.map Char.toLower)
    if word = "nan" then some .nan
    else if word = "inf" ∨ word = "infinity" then some (.inf negative)
    else (decimal? s).map fun q => fl.round (if negative then -q else q)

/-- `sys.get_int_max_str_digits()`. -/
def maxStrDigits : Nat := 4300

/-- `int(text)`; `none` where it raises `ValueError`. -/
def intOfStr (text : String) : Option Int :=
  (dropUnderscores false (stripBlanks text.toList)).bind fun s =>
    let (negative, s) := takeSign s
    match takeDigits s with
    | (d :: ds, []) =>
        let n : Int := ofDigits (d :: ds)
        if maxStrDigits < (d :: ds).length then none else some (if negative then -n else n)
    | _ => none

/-- The text of bytes that are all ASCII. -/
def asciiText (b : List UInt8) : Option String :=
  if b.all (· < 0x80) then some (String.ofList (b.map fun x => Char.ofNat x.toNat)) else none

/-- `float(b)` of `bytes`. -/
def floatOfBytes (fl : FloatFormat) (b : List UInt8) : Option Double :=
  (asciiText b).bind (floatOfStr fl)

/-- `int(b)` of `bytes`. -/
def intOfBytes (b : List UInt8) : Option Int := (asciiText b).bind intOfStr

/-- The text of a number starts with a minus. -/
def hasMinus (text : String) : Bool := (takeSign (stripBlanks text.toList)).1

/-- `int(x)`: truncation; `none` for NaN and the infinities. -/
def truncate : Double → Option Int
  | .fin q => some (q.num.tdiv q.den)
  | _ => none

/-! ## Printing -/

/-- `str(n)`; `none` where it raises `ValueError`. -/
def intText (n : Int) : Option String :=
  if maxStrDigits < (toString n.natAbs).length then none else some (toString n)

/-- The exponent of the leading decimal digit of a positive number. -/
def exponent10 (q : ℚ) : Int :=
  let k : Int := ((toString q.num.natAbs).length : Int) - ((toString q.den).length : Int)
  if pow10 k ≤ q then k else k - 1

/-- The number rounded to `p` significant digits: these digits as a number, and the exponent of the
    first of them. -/
def significant (q : ℚ) (p : Nat) : Nat × Int :=
  let e := exponent10 q
  let d := (roundHalfEven (q / pow10 (e - p + 1))).natAbs
  if d = 10 ^ p then (10 ^ (p - 1), e + 1) else (d, e)

/-- The fewest digits, from `p` on, that read back as the same number; 17 at the most. -/
def shortest (fl : FloatFormat) (q : ℚ) : Nat → Nat → Nat × Int
  | 0, p => significant q p
  | fuel + 1, p =>
      let (d, e) := significant q p
      if fl.round (d * pow10 (e - p + 1)) = .fin q then (d, e) else shortest fl q fuel (p + 1)

/-- Digits without the zeros at their end. -/
def dropTrailingZeros (digits : List Char) : List Char :=
  (digits.reverse.dropWhile (· == '0')).reverse

/-- `repr` of a positive finite float: plain between `1e-4` and `1e16`, else with an exponent. -/
def reprPositive (fl : FloatFormat) (q : ℚ) : String :=
  let (d, e) := shortest fl q 16 1
  let digits := dropTrailingZeros (toString d).toList
  if 16 ≤ e ∨ e < -4 then
    let mantissa := match digits with
      | [] => ['0']
      | [c] => [c]
      | c :: rest => c :: '.' :: rest
    let exp := (toString e.natAbs).toList
    String.ofList (mantissa ++ ['e', if e < 0 then '-' else '+'] ++
      List.replicate (2 - exp.length) '0' ++ exp)
  else if e < 0 then
    String.ofList (['0', '.'] ++ List.replicate (-e - 1).toNat '0' ++ digits)
  else
    let whole := digits.take (e + 1).toNat
    let fraction := digits.drop (e + 1).toNat
    String.ofList (whole ++ List.replicate ((e + 1).toNat - whole.length) '0' ++ ['.'] ++
      if fraction.isEmpty then ['0'] else fraction)

/-- `repr` of a float. -/
def reprFloat (fl : FloatFormat) : Double → String
  | .nan => "nan"
  | .inf negative => if negative then "-inf" else "inf"
  | .fin q => if q = 0 then "0.0" else if q < 0 then "-" ++ reprPositive fl (-q)
              else reprPositive fl q

/-- A float in the format `,.{digits}f`. -/
def formatFloat (x : Double) (digits : Nat) : String :=
  match x with
  | .nan => "nan"
  | .inf negative => if negative then "-inf" else "inf"
  | .fin q => formatFixed q digits

/-- A float in the format `.{digits}f`. -/
def formatPlain (x : Double) (digits : Nat) : String :=
  String.ofList ((formatFloat x digits).toList.filter (· ≠ ','))

example : floatOfStr .binary64 " 1_0.5e-1 " = some (Double.fin (4728779608739021 / 2 ^ 52)) ∧
    intOfStr "-0_7" = some (-7) ∧ intOfBytes [0x34, 0x33] = some 43 ∧
    reprFloat .binary64 (.fin (5 / 2)) = "2.5" := by
  decide +kernel

end PyNumber
