import Federation.Schema
import Federation.Settings.Value
import Federation.Text.Decimal
import Federation.Text.Lowercase
import Federation.Text.Quoted

/-!
# Converting settings

Settings are forgiving about scalars: numbers, truth values and texts are converted into each other
where that makes sense. Lists and tables are never converted.

A whole number is taken from 64 bits to the width that is needed by dropping the upper bits, so that
minus one becomes the largest number. A table of settings may be written as the list of its fields,
of which those that are too many are not looked at.
-/

namespace Federation

/-- What stands where a scalar is needed. -/
inductive Unconvertible
  | nothing
  | text (s : String)
  | list
  | table
  deriving DecidableEq

/-- What is said about a value that cannot be converted. -/
def Unconvertible.description : Unconvertible → String
  | .nothing => "unit value"
  | .text s => "string " ++ Quoted.text s
  | .list => "sequence"
  | .table => "map"

/-- The types of scalars. -/
inductive ScalarKind
  | integer
  | flag
  | text
  deriving DecidableEq

/-- The name of a type of scalars. -/
def ScalarKind.description : ScalarKind → String
  | .integer => "an integer"
  | .flag => "a boolean"
  | .text => "a string"

/-- A step from a table or a list to a value in it. -/
inductive SettingStep
  | field (name : String)
  | place (index : Nat)
  deriving DecidableEq

/-- The way to a value: fields with periods before them, places in brackets. -/
def SettingStep.path : List SettingStep → String
  | [] => ""
  | .field k :: rest =>
    k ++ (match rest with | .field _ :: _ => "." | _ => "") ++ path rest
  | .place i :: rest =>
    "[" ++ toString i ++ "]" ++ (match rest with | .field _ :: _ => "." | _ => "") ++ path rest

/-- Why settings cannot be read. -/
inductive SettingError
  /-- The value at a path cannot be converted. -/
  | conversion (path : List SettingStep) (found : Unconvertible) (expected : ScalarKind)
  /-- The settings do not have the shape that is needed. -/
  | mismatch (m : Mismatch)
  deriving DecidableEq

namespace SettingError

/-- What is said about an error. -/
def message : SettingError → String
  | .conversion path found expected =>
    "invalid type: " ++ found.description ++ ", expected " ++ expected.description ++
      " for key \x60" ++ SettingStep.path path ++ "\x60"
  | .mismatch m => m.message

/-- The error seen from one step further out. -/
def within (s : SettingStep) : SettingError → SettingError
  | .conversion path found expected => .conversion (s :: path) found expected
  | .mismatch m => .mismatch m

end SettingError

namespace Setting

/-- A reader of settings. -/
abbrev Reader (α : Type) :=
  Setting → Except SettingError α

/-- A value that cannot be converted. -/
def refuse {α : Type} (found : Unconvertible) (expected : ScalarKind) : Except SettingError α :=
  .error (.conversion [] found expected)

/-- The truth value that a text in lower case names. -/
def flagNamed? (s : String) : Option Bool :=
  if s = "true" ∨ s = "on" ∨ s = "yes" then some true
  else if s = "false" ∨ s = "off" ∨ s = "no" then some false
  else none

/-- The whole number of 64 bits that a text writes with digits and perhaps a sign. -/
def integerText? (cs : List Char) : Option Int64 :=
  let (negative, ds) :=
    match cs with
    | '-' :: rest => (true, rest)
    | '+' :: rest => (false, rest)
    | rest => (false, rest)
  if ds.isEmpty || !ds.all Char.isDigit then none
  else
    let n : Int := ds.foldl (fun acc c => 10 * acc + (c.toNat - 48)) 0
    let n := if negative then -n else n
    if Int64.minValue.toInt ≤ n ∧ n ≤ Int64.maxValue.toInt then some (Int64.ofInt n) else none

/-- A whole number. Reals are rounded, a half away from zero, and kept within 64 bits. -/
def toInteger : Reader Int64
  | .integer n => .ok n
  | .flag b => .ok (if b then 1 else 0)
  | .real x => .ok x.round.toInt64
  | .text s =>
    match flagNamed? (Lowercase.text s), integerText? s.toList with
    | some b, _ => .ok (if b then 1 else 0)
    | none, some n => .ok n
    | none, none => refuse (.text s) .integer
  | .nothing => refuse .nothing .integer
  | .list _ => refuse .list .integer
  | .table _ => refuse .table .integer

/-- A truth value: a number is true unless it is zero. -/
def toFlag : Reader Bool
  | .flag b => .ok b
  | .integer n => .ok (n ≠ 0)
  | .real x => .ok (x != 0)
  | .text s =>
    let lowered := Lowercase.text s
    if lowered = "1" then .ok true
    else if lowered = "0" then .ok false
    else
      match flagNamed? lowered with
      | some b => .ok b
      | none => refuse (.text lowered) .flag
  | .nothing => refuse .nothing .flag
  | .list _ => refuse .list .flag
  | .table _ => refuse .table .flag

/-- A text: numbers are written in decimal, without exponent. -/
def toText : Reader String
  | .text s => .ok s
  | .flag b => .ok (if b then "true" else "false")
  | .integer n => .ok (toString n.toInt)
  | .real x => .ok (Decimal.text x)
  | .nothing => refuse .nothing .text
  | .list _ => refuse .list .text
  | .table _ => refuse .table .text

/-- A word of 64 bits. -/
def toWord64 : Reader UInt64 :=
  fun v => (toInteger v).map Int64.toUInt64

/-- A word of 32 bits, the lower half of one of 64 bits. -/
def toWord32 : Reader UInt32 :=
  fun v => (toWord64 v).map UInt64.toUInt32

/-- A value, or nothing. -/
def toOption {α : Type} (read : Reader α) : Reader (Option α)
  | .nothing => .ok none
  | v => (read v).map some

/-- The values of a list from place `i` on. -/
def readItems {α : Type} (read : Reader α) (i : Nat) : List Setting → Except SettingError (List α)
  | [] => .ok []
  | v :: rest =>
    match read v with
    | .error e => .error (e.within (.place i))
    | .ok a => (readItems read (i + 1) rest).map (a :: ·)

/-- A list. -/
def toList {α : Type} (read : Reader α) : Reader (List α)
  | .list vs => readItems read 0 vs
  | _ => .error (.mismatch .type)

/-- Sets the fields that a table has entries for, in the order of the fields. -/
def setFields {α : Type} (r : Schema Setting SettingError α) (es : List (String × Setting))
    (acc : α) : List String → Except SettingError α
  | [] => .ok acc
  | f :: fs =>
    match es.lookup f with
    | none => setFields r es acc fs
    | some v =>
      match r.set acc f v with
      | .error e => .error (e.within (.field f))
      | .ok acc => setFields r es acc fs

/-- A record, from a table or from a list of its fields. What stands in the fields is read before a
missing field is noticed. -/
def readTable {α : Type} (r : Schema Setting SettingError α) : Reader α
  | .table es => do
    let acc ← setFields r es r.defaults r.fields
    match r.absent? (es.map Prod.fst) with
    | some f => .error (.mismatch (.missing f))
    | none => .ok acc
  | .list vs => do
    let located := fun i e => SettingError.within (.place i) e
    let (acc, _) ← r.setInOrder .mismatch r.defaults 0 located r.fields vs
    .ok acc
  | _ => .error (.mismatch .type)

end Setting

end Federation
