import Federation.Text.Decimal

/-!
# JSON values

The values that settings, configurations of algorithms and stored states are written in. A number
is whole or real, as it was written: `1` and `1.0` are different values. The members of an object
keep their order. A member is looked up by its name; of several with the same name the last one
wins.
-/

namespace Federation

/-- A number as it was written: a whole number of at most 64 bits, or any other. -/
inductive Json.Number
  /-- A whole number from `-2 ^ 63` to `2 ^ 64 - 1`. -/
  | whole (n : Int)
  /-- A number with a point or an exponent, or too large for 64 bits. -/
  | real (x : Float)
  deriving Inhabited

/-- A JSON value. -/
inductive Json
  | null
  | bool (b : Bool)
  | number (n : Json.Number)
  | text (s : String)
  | list (items : List Json)
  | object (members : List (String × Json))
  deriving Inhabited

namespace Json

/-- The whole number `n`. -/
def nat (n : Nat) : Json :=
  .number (.whole n)

/-- The member of an object with the given name, if there is one; the last one counts. -/
def get? (name : String) : Json → Option Json
  | .object members => members.reverse.lookup name
  | _ => none

/-! ## Writing -/

/-- The four digits of a code unit below `2 ^ 16`. -/
def unitDigits (n : Nat) : List Char :=
  let ds := Nat.toDigits 16 n
  List.replicate (4 - ds.length) '0' ++ ds

/-- How a character is written inside a string. -/
def escape (c : Char) : List Char :=
  if c = '"' then ['\\', '"']
  else if c = '\\' then ['\\', '\\']
  else if c.toNat < 0x20 then '\\' :: 'u' :: unitDigits c.toNat
  else [c]

/-- A string in quotes. -/
def quote (s : String) : String :=
  String.ofList ('"' :: (s.toList.flatMap escape ++ ['"']))

/-- The text of a real number, with an exponent so that it stays real when read back. -/
def realText (x : Float) : String :=
  let (negative, biased, fraction) := Decimal.parts x.toBits
  let sign := if negative then "-" else ""
  if biased = 2047 then "null"
  else if biased = 0 ∧ fraction = 0 then sign ++ "0.0"
  else
    let d := Decimal.shortest (Decimal.ofParts biased fraction)
    sign ++ toString d.digits ++ "e" ++ toString d.exponent

/-- The text of a number. -/
def Number.write : Number → String
  | .whole n => toString n
  | .real x => realText x

mutual

/-- The value on one line, without blanks. -/
def write : Json → String
  | .null => "null"
  | .bool b => if b then "true" else "false"
  | .number n => n.write
  | .text s => quote s
  | .list items => "[" ++ writeItems items ++ "]"
  | .object members => "\x7b" ++ writeMembers members ++ "\x7d"

/-- The items of a list, separated by commas. -/
def writeItems : List Json → String
  | [] => ""
  | [v] => v.write
  | v :: rest => v.write ++ "," ++ writeItems rest

/-- The members of an object, separated by commas. -/
def writeMembers : List (String × Json) → String
  | [] => ""
  | [(k, v)] => quote k ++ ":" ++ v.write
  | (k, v) :: rest => quote k ++ ":" ++ v.write ++ "," ++ writeMembers rest

end

end Json

end Federation
