import Federation.Timestamp

/-!
# Dates and times in a TOML document

A date, a time, or both, the time perhaps with its distance from universal time. The text of a
moment is brought to one form: a capital `T` between date and time, a fraction of a second without
zeros at its end, and a capital `Z` for universal time.

A month is checked, but not the length of its days; the distance from universal time is not checked
at all, and the sign of less than an hour is lost.

A moment can also be given by a table: one whose first entry has the name `Moment.entryName` and the
text of the moment.
-/

namespace Federation.Toml

/-- The distance from universal time. -/
inductive Moment.Offset
  | universal
  | distance (negative : Bool) (hours minutes : Nat)
  deriving DecidableEq

/-- A date, a time or both. -/
structure Moment where
  /-- Year, month and day. -/
  date : Option (Nat × Nat × Nat)
  /-- Hour, minute, second and billionths of a second. -/
  time : Option (Nat × Nat × Nat × Nat)
  offset : Option Moment.Offset
  deriving DecidableEq

namespace Moment

/-- The name of the first entry of a table that gives a moment. -/
def entryName : String :=
  "$__toml_private_datetime"

/-! ## Writing -/

/-- The fraction of a second. -/
def fraction (nanoseconds : Nat) : String :=
  if nanoseconds = 0 then ""
  else
    let ds := (Timestamp.padded 9 nanoseconds).toList
    String.ofList ('.' :: (ds.reverse.dropWhile (· = '0')).reverse)

/-- The text of a distance from universal time. -/
def Offset.text : Offset → String
  | .universal => "Z"
  | .distance negative hours minutes =>
    (if negative && hours ≠ 0 then "-" else "+") ++ Timestamp.padded 2 hours ++ ":" ++
      Timestamp.padded 2 minutes

/-- The one form of a moment's text. -/
def text (m : Moment) : String :=
  let date := m.date.map fun (y, mo, d) =>
    Timestamp.padded 4 y ++ "-" ++ Timestamp.padded 2 mo ++ "-" ++ Timestamp.padded 2 d
  let time := m.time.map fun (h, mi, s, n) =>
    Timestamp.padded 2 h ++ ":" ++ Timestamp.padded 2 mi ++ ":" ++ Timestamp.padded 2 s ++
      fraction n
  "T".intercalate (date.toList ++ time.toList) ++ (m.offset.map Offset.text).getD ""

/-! ## Reading -/

/-- A reader of the front of a text. -/
abbrev Reader (α : Type) :=
  StateT (List Char) Option α

/-- A number of exactly `width` digits. -/
def number (width : Nat) : Reader Nat := fun cs =>
  if cs.length < width then none
  else (Timestamp.part? width (cs.take width)).map (·, cs.drop width)

/-- One given character. -/
def character (c : Char) : Reader Unit
  | d :: rest => if c = d then some ((), rest) else none
  | [] => none

/-- A year, a month and a day. -/
def readDate : Reader (Nat × Nat × Nat) := do
  let y ← number 4
  character '-'
  let mo ← number 2
  character '-'
  let d ← number 2
  if 1 ≤ mo ∧ mo ≤ 12 ∧ 1 ≤ d ∧ d ≤ 31 then pure (y, mo, d) else failure

/-- The fraction of a second, if there is one, in billionths; further digits do not count. -/
def readFraction : Reader Nat
  | '.' :: rest =>
    let ds := rest.takeWhile Char.isDigit
    if ds.isEmpty then none
    else
      let kept := (ds ++ List.replicate 9 '0').take 9
      (Timestamp.part? 9 kept).map (·, rest.dropWhile Char.isDigit)
  | cs => some (0, cs)

/-- An hour, a minute and a second. -/
def readTime : Reader (Nat × Nat × Nat × Nat) := do
  let h ← number 2
  character ':'
  let mi ← number 2
  character ':'
  let s ← number 2
  let n ← readFraction
  if h ≤ 24 ∧ mi ≤ 59 ∧ s ≤ 59 then pure (h, mi, s, n) else failure

/-- A distance from universal time, if there is one. -/
def readOffset : Reader (Option Offset)
  | [] => some (none, [])
  | c :: rest =>
    if c = 'Z' ∨ c = 'z' then some (some .universal, rest)
    else if c = '+' ∨ c = '-' then
      (do
        let h ← number 2
        character ':'
        let m ← number 2
        pure (some (.distance (c = '-') h m)) : Reader (Option Offset)) rest
    else none

/-- The moment in front of a text. A text whose third character is a colon has no date, and then no
distance from universal time. -/
def read : Reader Moment := fun cs =>
  if cs[2]? = some ':' then
    (do pure ⟨none, some (← readTime), none⟩ : Reader Moment) cs
  else
    (do
      let date ← readDate
      match (← get) with
      | c :: rest =>
        if c = 'T' ∨ c = 't' ∨ c = ' ' then
          set rest
          let time ← readTime
          let offset ← readOffset
          pure ⟨some date, some time, offset⟩
        else failure
      | [] => pure ⟨some date, none, none⟩ : Reader Moment) cs

/-- The moment that a text writes. -/
def ofText? (s : String) : Option Moment :=
  match read s.toList with
  | some (m, []) => some m
  | _ => none

end Moment

end Federation.Toml
