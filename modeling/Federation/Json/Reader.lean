import Federation.Json.Basic
import Federation.Text.Hexadecimal
import Federation.Text.Nearest

/-!
# Reading JSON

A reader of the standard grammar over the characters of a text. Every function takes the
characters that are left and returns a value together with what is left after it. The nesting of
lists and objects is bounded by the length of the text, which serves as fuel.

A number without point and exponent is whole when it fits in 64 bits. Any other is read as a whole
number of at most 64 bits, made of its leading digits, which is then scaled by a power of ten.
-/

namespace Federation.Json.Reader

/-- Drops the blanks in front: spaces, tabs and line ends. -/
def skipBlanks : List Char → List Char
  | ' ' :: rest => skipBlanks rest
  | '\t' :: rest => skipBlanks rest
  | '\n' :: rest => skipBlanks rest
  | '\r' :: rest => skipBlanks rest
  | cs => cs

/-- The run of decimal digits in front, and what follows it. -/
def digitRun (cs : List Char) : List Char × List Char :=
  (cs.takeWhile Char.isDigit, cs.dropWhile Char.isDigit)

/-- The value of a decimal digit. -/
def digitValue (c : Char) : Nat :=
  c.toNat - 48

/-- The number that a run of digits writes. -/
def runValue (ds : List Char) : Nat :=
  ds.foldl (fun acc c => 10 * acc + digitValue c) 0

/-! ## Numbers -/

/-- The leading digits that fit in 64 bits, as a number, and how many digits follow them. -/
def leading (acc : Nat) : List Char → Nat × Nat
  | [] => (acc, 0)
  | c :: rest =>
    let next := 10 * acc + digitValue c
    if next < UInt64.size then leading next rest else (acc, rest.length + 1)

/-- The leading digits of a fraction that still fit in 64 bits after those of the whole part, and
how many of them were used. -/
def fractional (acc : Nat) : List Char → Nat × Nat
  | [] => (acc, 0)
  | c :: rest =>
    let next := 10 * acc + digitValue c
    if next < UInt64.size then
      let (value, used) := fractional next rest
      (value, used + 1)
    else (acc, 0)

/-- The double nearest to a power of ten. -/
def tenPow (k : Nat) : Float :=
  Decimal.nearest 1 k

/-- A number below `2 ^ 64` times a power of ten, or nothing when it is too large. Powers beyond
the largest double are applied in steps. -/
def scale : Nat → Float → Int → Option Float
  | 0, _, _ => none
  | fuel + 1, x, e =>
    if e.natAbs ≤ 308 then
      let y := if 0 ≤ e then x * tenPow e.natAbs else x / tenPow e.natAbs
      if y.isInf then none else some y
    else if x == 0 then some x
    else if 0 ≤ e then none
    else scale fuel (x / tenPow 308) (e + 308)

/-- An exponent is clamped to the range of 32 bits. -/
def clampExponent (e : Int) : Int :=
  max (-2147483648) (min 2147483647 e)

/-- The real number written by a sign, a whole part, a fraction and an exponent. Digits of the
fraction that still fit are taken even after digits of the whole part that did not. -/
def real? (negative : Bool) (whole fraction : List Char) (e : Int) : Option Number :=
  let (value, dropped) := leading 0 whole
  let (value, used) := fractional value fraction
  let x := (UInt64.ofNat value).toFloat
  (scale 64 x (clampExponent (e + dropped - used))).map fun y => .real (if negative then -y else y)

/-- The number written by a sign and a run of digits. -/
def whole? (negative : Bool) (ds : List Char) : Option Number :=
  let v := runValue ds
  if negative then
    if 0 < v ∧ v ≤ 0x8000000000000000 then some (.whole (-(v : Int))) else real? true ds [] 0
  else if v < UInt64.size then some (.whole v) else real? false ds [] 0

/-- The whole part of a number: one zero, or digits that do not start with one. -/
def wholePart? (cs : List Char) : Option (List Char × List Char) :=
  match digitRun cs with
  | ([], _) => none
  | ('0' :: _ :: _, _) => none
  | (ds, rest) => some (ds, rest)

/-- The exponent after its letter, with an optional sign. -/
def exponentPart? (cs : List Char) : Option (Int × List Char) :=
  let (negative, body) :=
    match cs with
    | '-' :: rest => (true, rest)
    | '+' :: rest => (false, rest)
    | rest => (false, rest)
  match digitRun body with
  | ([], _) => none
  | (ds, rest) => some (if negative then -(runValue ds : Int) else runValue ds, rest)

/-- Whether a letter announces an exponent. -/
def isExponentMark (c : Char) : Bool :=
  c = 'e' || c = 'E'

/-- A number, after its sign. -/
def unsigned? (negative : Bool) (cs : List Char) : Option (Number × List Char) :=
  match wholePart? cs with
  | none => none
  | some (ds, '.' :: rest) =>
    match digitRun rest with
    | ([], _) => none
    | (fs, c :: rest) =>
      if isExponentMark c then
        (exponentPart? rest).bind fun (e, rest) => (real? negative ds fs e).map (·, rest)
      else (real? negative ds fs 0).map (·, c :: rest)
    | (fs, []) => (real? negative ds fs 0).map (·, [])
  | some (ds, c :: rest) =>
    if isExponentMark c then
      (exponentPart? rest).bind fun (e, rest) => (real? negative ds [] e).map (·, rest)
    else (whole? negative ds).map (·, c :: rest)
  | some (ds, []) => (whole? negative ds).map (·, [])

/-- A number. -/
def number? : List Char → Option (Number × List Char)
  | '-' :: rest => unsigned? true rest
  | cs => unsigned? false cs

/-! ## Strings -/

/-- The code unit of four hexadecimal digits in front. -/
def unit? : List Char → Option (Nat × List Char)
  | a :: b :: c :: d :: rest => (Hex.read? [a, b, c, d]).map (·, rest)
  | _ => none

/-- The character of an escaped code unit; a unit of the upper half of a pair needs the lower half
after it. -/
def escapedUnit? (cs : List Char) : Option (Char × List Char) :=
  match unit? cs with
  | none => none
  | some (n, rest) =>
    if n < 0xd800 ∨ 0xe000 ≤ n then some (Char.ofNat n, rest)
    else if n < 0xdc00 then
      match rest with
      | '\\' :: 'u' :: rest =>
        match unit? rest with
        | some (m, rest) =>
          if 0xdc00 ≤ m ∧ m < 0xe000 then
            some (Char.ofNat (0x10000 + (n - 0xd800) * 0x400 + (m - 0xdc00)), rest)
          else none
        | none => none
      | _ => none
    else none

/-- The short escapes. -/
def shortEscape? : Char → Option Char
  | '"' => some '"'
  | '\\' => some '\\'
  | '/' => some '/'
  | 'b' => some '\x08'
  | 'f' => some '\x0c'
  | 'n' => some '\n'
  | 'r' => some '\r'
  | 't' => some '\t'
  | _ => none

/-- The characters up to the closing quote, in reverse order after those read so far. -/
def stringBody : Nat → List Char → List Char → Option (String × List Char)
  | 0, _, _ => none
  | _ + 1, _, [] => none
  | _ + 1, acc, '"' :: rest => some (String.ofList acc.reverse, rest)
  | fuel + 1, acc, '\\' :: 'u' :: rest =>
    (escapedUnit? rest).bind fun (c, rest) => stringBody fuel (c :: acc) rest
  | fuel + 1, acc, '\\' :: c :: rest =>
    (shortEscape? c).bind fun d => stringBody fuel (d :: acc) rest
  | fuel + 1, acc, c :: rest =>
    if c.toNat < 0x20 ∨ c = '\\' then none else stringBody fuel (c :: acc) rest

/-! ## Values -/

mutual

/-- The value in front. -/
def value? : Nat → List Char → Option (Json × List Char)
  | 0, _ => none
  | fuel + 1, cs =>
    match skipBlanks cs with
    | 'n' :: 'u' :: 'l' :: 'l' :: rest => some (.null, rest)
    | 't' :: 'r' :: 'u' :: 'e' :: rest => some (.bool true, rest)
    | 'f' :: 'a' :: 'l' :: 's' :: 'e' :: rest => some (.bool false, rest)
    | '"' :: rest => (stringBody (rest.length + 1) [] rest).map fun (s, rest) => (.text s, rest)
    | '[' :: rest =>
      match skipBlanks rest with
      | ']' :: rest => some (.list [], rest)
      | rest => (items? fuel rest).map fun (items, rest) => (.list items, rest)
    | '\x7b' :: rest =>
      match skipBlanks rest with
      | '\x7d' :: rest => some (.object [], rest)
      | rest => (members? fuel rest).map fun (members, rest) => (.object members, rest)
    | cs => (number? cs).map fun (n, rest) => (.number n, rest)

/-- One or more items, up to the closing bracket. -/
def items? : Nat → List Char → Option (List Json × List Char)
  | 0, _ => none
  | fuel + 1, cs =>
    match value? fuel cs with
    | none => none
    | some (v, rest) =>
      match skipBlanks rest with
      | ']' :: rest => some ([v], rest)
      | ',' :: rest => (items? fuel rest).map fun (vs, rest) => (v :: vs, rest)
      | _ => none

/-- One or more members, up to the closing brace. -/
def members? : Nat → List Char → Option (List (String × Json) × List Char)
  | 0, _ => none
  | fuel + 1, cs =>
    match skipBlanks cs with
    | '"' :: rest =>
      match stringBody (rest.length + 1) [] rest with
      | none => none
      | some (k, rest) =>
        match skipBlanks rest with
        | ':' :: rest =>
          match value? fuel rest with
          | none => none
          | some (v, rest) =>
            match skipBlanks rest with
            | '\x7d' :: rest => some ([(k, v)], rest)
            | ',' :: rest => (members? fuel rest).map fun (ms, rest) => ((k, v) :: ms, rest)
            | _ => none
        | _ => none
    | _ => none

end

end Reader

/-- Reads one value that fills the whole text. -/
def read? (s : String) : Option Json :=
  let cs := s.toList
  match Reader.value? (2 * cs.length + 2) cs with
  | some (v, rest) => if Reader.skipBlanks rest = [] then some v else none
  | none => none

end Federation.Json
