import Federation.Settings.Value
import Federation.Toml.Moment
import Federation.Toml.Number
import Federation.Toml.Token

/-!
# Keys and values in a TOML document

A key is a word or a string on one line; several keys with periods between them lead into nested
tables. A value is a string, a truth value, a number, a date, a list or a table in braces. Lists may
go over several lines and end with a comma, tables in braces may not.

A table that keys with periods made can be extended by further such keys, a table in braces cannot.
No table has two entries of one name. A date has to be one that the calendar and the clock allow.

A table whose first entry has the name for it gives a date. Nothing else in such a table counts, so
names may be repeated there, and dates need not be possible.
-/

namespace Federation.Toml

/-- A value as it is written. -/
inductive Expression
  | scalar (v : Setting)
  /-- A date or a time as it is written. -/
  | moment (written : String)
  | list (items : List Expression)
  /-- A table in braces. -/
  | braces (entries : List (String × Expression))
  /-- A table that keys with periods made. -/
  | dotted (entries : List (String × Expression))
  deriving Inhabited

namespace Expression

/-- The tokens that are left. -/
abbrev Tokens :=
  List Token

/-! ## Blanks -/

/-- Drops a run of spaces and tabs. -/
def skipBlank : Tokens → Tokens
  | .blank _ :: rest => rest
  | ts => ts

/-- Drops blanks, comments and line ends. -/
def skipSpace (ts : Tokens) : Tokens :=
  ts.dropWhile fun
    | .blank _ | .newline | .comment => true
    | _ => false

/-- The end of a line, perhaps after a comment. -/
def lineEnd? (ts : Tokens) : Option Tokens :=
  let ts := skipBlank ts
  let ts := if ts.head? = some .comment then ts.tail else ts
  match ts with
  | [] => some []
  | .newline :: rest => some rest
  | _ => none

/-! ## Keys -/

/-- One key. -/
def key? : Tokens → Option (String × Tokens)
  | .word s :: rest => some (s, rest)
  | .quoted s false :: rest => some (s, rest)
  | _ => none

/-- One or more keys with periods between them, and the blanks after them. -/
def keys? : Nat → Tokens → Option (List String × Tokens)
  | 0, _ => none
  | fuel + 1, ts =>
    (key? ts).bind fun (k, rest) =>
      match skipBlank rest with
      | .period :: rest => (keys? fuel (skipBlank rest)).map fun (ks, rest) => (k :: ks, rest)
      | rest => some ([k], rest)

/-- Adds an entry under one or more keys. -/
def insert (v : Expression) : List String → List (String × Expression) →
    Option (List (String × Expression))
  | [], _ => none
  | [k], es => some (es ++ [(k, v)])
  | k :: ks, es =>
    match es.lookup k with
    | some (.dotted inner) =>
      (insert v ks inner).map fun inner =>
        es.map fun e => if e.1 = k then (k, .dotted inner) else e
    | some _ => none
    | none => (insert v ks []).map fun inner => es ++ [(k, .dotted inner)]

/-! ## Dates -/

/-- Whether a word is the front of a date. -/
def startsDate (word : List Char) : Bool :=
  word.contains 'T' || word.contains 't' ||
    (word.tail.contains '-' && !hasPair 'e' word && !hasPair 'E' word)
where
  /-- Whether a minus stands directly after the given character. -/
  hasPair (c : Char) (cs : List Char) : Bool :=
    (cs.zip cs.tail).contains (c, '-')

/-- A word after a given token, both with their text, if the token is there. -/
def part? (mark : Token) (text : String) : Tokens → Option (String × Tokens)
  | t :: rest =>
    if t = mark then
      match rest with
      | .word w :: rest => some (text ++ w, rest)
      | _ => none
    else some ("", t :: rest)
  | [] => some ("", [])

/-- Minutes, seconds and what may follow them, after the colon behind the hour. -/
def clock? : Tokens → Option (String × Tokens)
  | .word m :: .colon :: .word s :: rest => do
    let (fraction, rest) ← part? .period "." rest
    let (sign, rest) ← part? .plus "+" rest
    let (minutes, rest) ← part? .colon ":" rest
    pure (":" ++ m ++ ":" ++ s ++ fraction ++ sign ++ minutes, rest)
  | _ => none

/-- A date, after its first word. One space may stand between a date and its hour. -/
def date? (word : String) (ts : Tokens) : Option (String × Tokens) :=
  let (front, rest) :=
    match ts with
    | .blank " " :: .word h :: rest => (word ++ " " ++ h, rest)
    | rest => (word, rest)
  match rest with
  | .colon :: rest => (clock? rest).map fun (s, rest) => (front ++ s, rest)
  | rest => some (front, rest)

/-! ## Numbers -/

/-- A real number from its parts; the digits of an open exponent are the next word, perhaps after a
plus. -/
def real? (parts : Number.Parts) (ts : Tokens) : Option (Expression × Tokens) :=
  match parts.tail with
  | .done => (parts.real? 0).map fun x => (.scalar (.real x), ts)
  | .scaled e => (parts.real? e).map fun x => (.scalar (.real x), ts)
  | .pending =>
    let rest := if ts.head? = some .plus then ts.tail else ts
    match rest with
    | .word w :: rest =>
      match Number.digits? 10 true w.toList with
      | some (ds, []) =>
        (parts.real? (Number.value 10 ds)).map fun x => (.scalar (.real x), rest)
      | _ => none
    | _ => none

/-- The infinities, and what is no number. -/
def special? : List Char → Option Float
  | ['i', 'n', 'f'] => some (1 / 0)
  | ['-', 'i', 'n', 'f'] => some (-1 / 0)
  | ['n', 'a', 'n'] => some (0 / 0)
  | ['-', 'n', 'a', 'n'] => some (0 / 0)
  | _ => none

/-- A number, after its first word. -/
def number? (word : String) (ts : Tokens) : Option (Expression × Tokens) :=
  let cs := word.toList
  if Number.isBased cs then (Number.whole? cs).map fun n => (.scalar (.integer n), ts)
  else if cs.contains 'e' || cs.contains 'E' then
    (Number.Parts.ofWord? cs).bind fun p => real? p ts
  else
    match ts with
    | .period :: .word fraction :: rest =>
      (Number.Parts.ofWords? cs fraction.toList).bind fun p => real? p rest
    | .period :: _ => none
    | ts =>
      match special? cs with
      | some x => some (.scalar (.real x), ts)
      | none => (Number.whole? cs).map fun n => (.scalar (.integer n), ts)

/-- A value that starts with a word: a truth value, a date or a number. -/
def bare? (word : String) (ts : Tokens) : Option (Expression × Tokens) :=
  let cs := word.toList
  if word = "true" then some (.scalar (.flag true), ts)
  else if word = "false" then some (.scalar (.flag false), ts)
  else if word = "inf" ∨ word = "nan" ∨ cs.head?.any (fun c => c = '-' || c.isDigit) then
    if startsDate cs then (date? word ts).map fun (s, rest) => (.moment s, rest)
    else
      match ts with
      | .colon :: rest => (clock? rest).map fun (s, rest) => (.moment (word ++ s), rest)
      | ts => number? word ts
  else none

/-! ## Values -/

mutual

/-- The value in front. -/
def value? : Nat → Tokens → Option (Expression × Tokens)
  | 0, _ => none
  | _ + 1, .quoted s _ :: rest => some (.scalar (.text s), rest)
  | _ + 1, .word w :: rest => bare? w rest
  | _ + 1, .plus :: .word w :: rest => number? w rest
  | fuel + 1, .leftBracket :: rest =>
    (items? fuel (skipSpace rest)).map fun (vs, rest) => (.list vs, rest)
  | fuel + 1, .leftBrace :: rest =>
    match skipBlank rest with
    | .rightBrace :: rest => some (.braces [], rest)
    | rest => (members? fuel [] rest).map fun (es, rest) => (.braces es, rest)
  | _ + 1, _ => none

/-- The items of a list, up to its bracket. -/
def items? : Nat → Tokens → Option (List Expression × Tokens)
  | 0, _ => none
  | _ + 1, .rightBracket :: rest => some ([], rest)
  | fuel + 1, ts =>
    match value? fuel ts with
    | none => none
    | some (v, rest) =>
      match skipSpace rest with
      | .comma :: rest => (items? fuel (skipSpace rest)).map fun (vs, rest) => (v :: vs, rest)
      | .rightBracket :: rest => some ([v], rest)
      | _ => none

/-- The entries of a table in braces after those read so far, up to its brace. -/
def members? : Nat → List (String × Expression) → Tokens →
    Option (List (String × Expression) × Tokens)
  | 0, _, _ => none
  | fuel + 1, es, ts =>
    match keys? ts.length ts with
    | some (ks, .equals :: rest) =>
      match value? fuel (skipBlank rest) with
      | none => none
      | some (v, rest) =>
        match insert v ks es with
        | none => none
        | some es =>
          match skipBlank rest with
          | .rightBrace :: rest => some (es, rest)
          | .comma :: rest => members? fuel es (skipBlank rest)
          | _ => none
    | _ => none

end

/-! ## What is written -/

/-- The text of a moment in its one form. -/
def moment? (written : String) : Option Setting :=
  (Moment.ofText? written).map fun m => .text m.text

/-- The first of some entries, if it has the name of those that give a date. -/
def dated? : List (String × Expression) → Option Expression
  | (k, v) :: _ => if k = Moment.entryName then some v else none
  | [] => none

/-- The date that the first entry of a table gives: it has to be a text. -/
def dateOf? : Expression → Option Setting
  | .scalar (.text s) => moment? s
  | _ => none

mutual

/-- The value that is written, if none of its tables has two entries of one name and all its dates
are possible. -/
def setting? : Expression → Option Setting
  | .scalar v => some v
  | .moment written => moment? written
  | .list vs => (settings? vs).map .list
  | .braces es => entries? es
  | .dotted es => entries? es

/-- The values of a list. -/
def settings? : List Expression → Option (List Setting)
  | [] => some []
  | v :: rest => (setting? v).bind fun v => (settings? rest).map (v :: ·)

/-- The table with the given entries, or the date that they give. -/
def entries? (es : List (String × Expression)) : Option Setting :=
  match dated? es with
  | some v => dateOf? v
  | none =>
    (named? es).bind fun es =>
      if (es.map Prod.fst).Nodup then some (.table es) else none

/-- The values of the entries. -/
def named? : List (String × Expression) → Option (List (String × Setting))
  | [] => some []
  | (k, v) :: rest => (setting? v).bind fun v => (named? rest).map ((k, v) :: ·)

end

end Expression

end Federation.Toml
