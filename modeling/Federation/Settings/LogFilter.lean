import Federation.Text.Pattern
import Federation.Text.WordCharacter

/-!
# Log filters

A log filter is a list of directives with commas between them. A directive is a level, or the name
of a part of the program, perhaps with a span in brackets before or behind it, and perhaps an equals
sign and a level. Levels are names in any case, or the digits from zero to five.

A span has a name and, in braces, fields. A field may be compared with a value, which is a number or
a pattern. Whatever else stands in a span does not count.
-/

namespace Federation.LogFilter

/-! ## Fields -/

/-- A character that a name of a field can begin with. -/
def isFieldStart (c : Char) : Bool :=
  c.isAlphanum || c = '_'

/-- A character of a name of a field. -/
def isFieldCharacter (c : Char) : Bool :=
  isFieldStart c || c = '.'

/-- The value that a field is compared with: what follows the equals sign behind the first name that
has one, up to another one. A name at the end has no value. -/
def value? : List Char → Option (List Char)
  | [] => none
  | c :: rest =>
    if isFieldStart c then
      match rest.dropWhile isFieldCharacter with
      | [] => none
      | '=' :: d :: value => some ((d :: value).takeWhile (· ≠ '='))
      | _ => value? rest
    else value? rest

/-- Whether a text is nothing, or the mark of an exponent and digits, perhaps with a sign. -/
def isExponent : List Char → Bool
  | [] => true
  | e :: rest =>
    let ds := match rest with
      | '+' :: ds | '-' :: ds => ds
      | ds => ds
    (e = 'e' || e = 'E') && !ds.isEmpty && ds.all Char.isDigit

/-- Whether a text is a number without a sign, perhaps with an exponent, or infinite, or none. -/
def isNumeral (cs : List Char) : Bool :=
  let whole := cs.takeWhile Char.isDigit
  let rest := cs.dropWhile Char.isDigit
  let (fraction, rest) := match rest with
    | '.' :: rest => (rest.takeWhile Char.isDigit, rest.dropWhile Char.isDigit)
    | rest => ([], rest)
  (!(whole ++ fraction).isEmpty && isExponent rest) ||
    ["inf", "infinity", "nan"].contains (String.ofList (cs.map Char.toLower))

/-- Whether a field can be compared with a value: with a pattern, or with a number. Of all numbers
only those with a plus in front are no patterns. -/
def isValue (cs : List Char) : Bool :=
  Pattern.isPattern cs ||
    match cs with
    | '+' :: rest => isNumeral rest
    | _ => false

/-! ## Spans -/

/-- The fields of a span: what stands in braces behind its name. -/
def fields? (span : List Char) : Option (List Char) :=
  match (span.dropWhile (· = '[')).dropWhile (· ≠ '\x7b') with
  | _ :: rest => if rest.contains '\x7d' then some (rest.takeWhile (· ≠ '\x7d')) else none
  | [] => none

/-- Whether all that a span compares fields with is valid. -/
def isSpan (span : List Char) : Bool :=
  ((fields? span).bind value?).all isValue

/-! ## Directives -/

/-- The names of the levels. -/
def levels : List String :=
  ["trace", "debug", "info", "warn", "error", "off", "0", "1", "2", "3", "4", "5"]

/-- Whether a text is a level. -/
def isLevel (cs : List Char) : Bool :=
  levels.contains (String.ofList (cs.map Char.toLower))

/-- A character of a name. -/
def isNameCharacter (c : Char) : Bool :=
  WordCharacter.contains c || c = ':' || c = '-'

/-- The name or the span in front of a text, if there is one: what stands in the brackets of a span,
and what follows. -/
def unit? (cs : List Char) : Option (Option (List Char) × List Char) :=
  match cs with
  | '[' :: rest =>
    match rest.dropWhile (· ≠ ']') with
    | _ :: after => some (some (rest.takeWhile (· ≠ ']')), after)
    | [] => none
  | c :: _ => if isNameCharacter c then some (none, cs.dropWhile isNameCharacter) else none
  | [] => none

/-- Whether a text is nothing, or an equals sign and perhaps a level. -/
def isEnding : List Char → Bool
  | [] => true
  | '=' :: level => level.isEmpty || isLevel level
  | _ => false

/-- Whether a text is a directive. A level is a name, too. Of two spans only the last one counts. -/
def isDirective (cs : List Char) : Bool :=
  match unit? cs with
  | none => false
  | some (span, rest) =>
    if isEnding rest then span.all isSpan
    else
      match unit? rest with
      | none => false
      | some (next, rest) => isEnding rest && (next.or span).all isSpan

/-- Whether a text is a log filter. -/
def isValid (filter : String) : Bool :=
  (filter.toList.splitOn ',').all isDirective

end Federation.LogFilter
