import Federation.Text.Blank
import Federation.Text.Hexadecimal

/-!
# Patterns

A pattern describes texts: by characters and classes of characters one after the other, repetitions,
groups, and alternatives. Nothing is compared with a pattern here; the question is which texts are
patterns at all.

A pattern is a value inside brackets and braces, so that neither a class in brackets nor a
repetition with a count in braces can be closed in it. Patterns compare whole texts, and places
between characters cannot be asked for: the beginning and the end of a text, or of a word.

Settings in brackets change how the rest of their group is read. Of these, `x` leaves blanks and
comments out, and `-u` leaves only the characters below 128.
-/

namespace Federation.Pattern

/-! ## Modes -/

/-- How the characters of a pattern are read. -/
structure Mode where
  /-- Whether blanks and comments are left out. -/
  spaced : Bool
  /-- Whether all characters are meant, and not only those below 128. -/
  unicode : Bool
  /-- The names of the groups so far. -/
  names : List (List Char)

/-- The mode at the beginning. -/
def Mode.start : Mode :=
  ⟨false, true, []⟩

/-- Drops blanks, and comments from a number sign to the end of its line. -/
def dropSpace (inComment : Bool) : List Char → List Char
  | [] => []
  | c :: rest =>
    if inComment then dropSpace (c ≠ '\n') rest
    else if c = '#' then dropSpace true rest
    else if Blank.contains c then dropSpace false rest
    else c :: rest

/-- Drops what is left out in a mode. -/
def Mode.skip (m : Mode) (cs : List Char) : List Char :=
  if m.spaced then dropSpace false cs else cs

/-- Whether a character with the given code point is meant in a mode. -/
def Mode.allows (m : Mode) (n : Nat) : Bool :=
  m.unicode || n < 0x80

/-! ## Parts -/

/-- A part of a pattern: how deep the parts in it are nested, and whether it can be repeated. -/
structure Part where
  depth : Nat
  repeatable : Bool
  deriving DecidableEq

/-- A character or a class of characters. -/
def Part.single : Part :=
  ⟨0, true⟩

/-- Settings. -/
def Part.settings : Part :=
  ⟨0, false⟩

/-- A part inside another one. -/
def Part.wrap (p : Part) : Part :=
  ⟨p.depth + 1, true⟩

/-- Several parts as one, if it is not just one. -/
def join : List Part → Part
  | [] => ⟨0, true⟩
  | [p] => p
  | ps => ⟨(ps.map Part.depth).foldl max 0 + 1, true⟩

/-! ## Characters -/

/-- The number that a given count of hexadecimal digits writes, and what follows it. Digits may be
set apart where blanks are left out. -/
def hex? (m : Mode) (acc : Nat) : Nat → List Char → Option (Nat × List Char)
  | 0, cs => some (acc, cs)
  | n + 1, cs =>
    match m.skip cs with
    | [] => none
    | c :: rest => (Hex.value? c).bind fun d => hex? m (16 * acc + d) n rest

/-- What follows a character that is given by its code point. -/
def codePoint? (m : Mode) (digits : Nat) (cs : List Char) : Option (List Char) :=
  (hex? m 0 digits cs).bind fun (n, rest) =>
    if n.isValidChar && m.allows n then some rest else none

/-- What follows a class of characters that is given by the first letter of its name. -/
def class? (m : Mode) (cs : List Char) : Option (List Char) :=
  match m.skip cs with
  | c :: rest => if m.unicode && "clmnpsz".toList.contains c.toLower then some rest else none
  | [] => none

/-- What follows a character or a class after a backslash. -/
def escape? (m : Mode) : List Char → Option (List Char)
  | [] => none
  | c :: rest =>
    if c = 'x' then codePoint? m 2 rest
    else if c = 'u' then codePoint? m 4 rest
    else if c = 'U' then codePoint? m 8 rest
    else if c = 'p' ∨ c = 'P' then class? m rest
    else if "dDsSwWaftnrv".toList.contains c then some rest
    else if "\\.+*?()|[]\x7b\x7d^$#&-~".toList.contains c then some rest
    else if c = ' ' ∧ m.spaced then some rest
    else none

/-- What follows a character or a class. -/
def single? (m : Mode) (c : Char) (rest : List Char) : Option (List Char) :=
  if c = '\\' then escape? m rest
  else if "^$[\x7b".toList.contains c then none
  else if c = '.' then if m.unicode then some rest else none
  else if m.allows c.toNat then some rest
  else none

/-! ## Groups -/

/-- A character of a name. A name does not begin with a digit or with punctuation. -/
def isNameCharacter (first : Bool) (c : Char) : Bool :=
  c.isAlpha || c = '_' || (!first && (c.isDigit || c = '.' || c = '[' || c = ']'))

/-- A new name of a group, and what follows its bracket. -/
def name? (m : Mode) (cs : List Char) : Option (Mode × List Char) :=
  let name := cs.takeWhile (· ≠ '>')
  let valid := name.head?.any (isNameCharacter true) && name.all (isNameCharacter false)
  match cs.dropWhile (· ≠ '>') with
  | _ :: rest =>
    if valid && !m.names.contains name then some ({ m with names := name :: m.names }, rest)
    else none
  | [] => none

/-- Settings after the given ones, the last of which comes first: none is written twice, and a minus
is followed by at least one. Gives whether they are for a group of their own, which begins after a
colon. -/
def settings? (seen : List Char) (m : Mode) : List Char → Option (Bool × Mode × List Char)
  | [] => none
  | c :: rest =>
    if c = ':' ∨ c = ')' then
      if seen.head? = some '-' ∨ (c = ')' ∧ seen = []) then none else some (c = ':', m, rest)
    else if seen.contains c || !"-imsUux".toList.contains c then none
    else
      let on := !seen.contains '-'
      let m :=
        if c = 'x' then { m with spaced := on }
        else if c = 'u' then { m with unicode := on }
        else m
      settings? (c :: seen) m rest

/-- What an opening bracket begins, with the mode and the characters after it. -/
def opening? (m : Mode) (cs : List Char) : Option (Bool × Mode × List Char) :=
  match m.skip cs with
  | '?' :: 'P' :: '<' :: rest => (name? m rest).map (true, ·)
  | '?' :: rest => settings? [] m rest
  | rest => some (true, m, rest)

/-! ## Patterns -/

/-- What follows the mark of a repetition that takes as little as possible. -/
def dropLazy : List Char → List Char
  | '?' :: rest => rest
  | cs => cs

mutual

/-- Alternatives, up to the end of their group. -/
def alternatives? : Nat → Mode → List Char → Option (List Part × Mode × List Char)
  | 0, _, _ => none
  | fuel + 1, m, cs =>
    match parts? fuel m [] cs with
    | some (ps, m, '|' :: rest) =>
      (alternatives? fuel m rest).map fun (others, m, rest) => (join ps :: others, m, rest)
    | some (ps, m, rest) => some ([join ps], m, rest)
    | none => none

/-- Parts one after the other, up to the end of their alternative. Those read before are given, the
last one first. -/
def parts? : Nat → Mode → List Part → List Char → Option (List Part × Mode × List Char)
  | 0, _, _, _ => none
  | fuel + 1, m, ps, cs =>
    match m.skip cs with
    | [] => some (ps, m, [])
    | c :: rest =>
      if c = '|' ∨ c = ')' then some (ps, m, c :: rest)
      else if c = '(' then
        match opening? m rest with
        | none => none
        | some (false, m, rest) => parts? fuel m (.settings :: ps) rest
        | some (true, inner, rest) =>
          match alternatives? fuel inner rest with
          | some (others, after, ')' :: rest) =>
            parts? fuel { m with names := after.names } ((join others).wrap :: ps) rest
          | _ => none
      else if c = '*' ∨ c = '+' ∨ c = '?' then
        match ps with
        | p :: ps => if p.repeatable then parts? fuel m (p.wrap :: ps) (dropLazy rest) else none
        | [] => none
      else (single? m c rest).bind (parts? fuel m (.single :: ps))

end

/-- How deep the parts of a pattern can be nested. -/
def maxDepth : Nat :=
  250

/-- Whether a text is a pattern. Every character leads at most one level further in and one part
further on. -/
def isPattern (cs : List Char) : Bool :=
  match alternatives? (2 * cs.length + 2) .start cs with
  | some (ps, _, []) => (join ps).depth ≤ maxDepth
  | _ => false

end Federation.Pattern
