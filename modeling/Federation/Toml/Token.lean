import Federation.Text.Hexadecimal

/-!
# Tokens of a TOML document

The text of a document is cut into words, strings, punctuation, blanks, comments and line ends. A
carriage return in front of a line feed belongs to the line end; a byte order mark in front of the
document is dropped. A character that starts no token makes the document unreadable, and so does a
string that does not end.

* `Token.foldLineEnds_plain`: a text without carriage returns stays as it is.
-/

namespace Federation.Toml

/-- A token. -/
inductive Token
  | newline
  /-- A run of spaces and tabs. -/
  | blank (text : String)
  | comment
  | equals
  | period
  | comma
  | colon
  | plus
  | leftBrace
  | rightBrace
  | leftBracket
  | rightBracket
  /-- A bare key, a number, a truth value, or a part of one of these or of a date. -/
  | word (text : String)
  /-- A quoted string; it may stand for a key unless it was written over several lines. -/
  | quoted (text : String) (multiline : Bool)
  deriving DecidableEq, Inhabited

/-- The two kinds of strings: in a basic string the backslash starts an escape. -/
inductive Quotation
  | basic
  | literal
  deriving DecidableEq

/-- The quote that starts and ends a string. -/
def Quotation.mark : Quotation → Char
  | .basic => '"'
  | .literal => '\''

namespace Token

/-! ## Characters -/

/-- Line ends of two characters become one. -/
def foldLineEnds : List Char → List Char
  | [] => []
  | '\r' :: '\n' :: rest => '\n' :: foldLineEnds rest
  | c :: rest => c :: foldLineEnds rest

theorem foldLineEnds_plain {cs : List Char} (h : '\r' ∉ cs) : foldLineEnds cs = cs := by
  fun_induction foldLineEnds cs with
  | case1 => rfl
  | case2 rest ih => simp at h
  | case3 c rest _ ih => rw [ih (fun hr => h (List.mem_cons_of_mem _ hr))]

/-- A space or a tab. -/
def isBlank (c : Char) : Bool :=
  c = ' ' || c = '\t'

/-- A character that bare keys and numbers are made of. -/
def isWordCharacter (c : Char) : Bool :=
  c.isAlphanum || c = '-' || c = '_'

/-- A character that may stand in a comment. -/
def isCommentCharacter (c : Char) : Bool :=
  c = '\t' || 0x20 ≤ c.toNat

/-- A character that may stand for itself in a string. -/
def isPlain (c : Char) : Bool :=
  c = '\t' || (0x20 ≤ c.toNat && c.toNat ≠ 0x7f)

/-! ## Strings -/

/-- The character with a code point written in hexadecimal digits, if there is one. -/
def scalar? (digits : List Char) : Option Char :=
  match Hex.read? digits with
  | some n => if n < 0xd800 ∨ (0xe000 ≤ n ∧ n < 0x110000) then some (Char.ofNat n) else none
  | none => none

/-- The character of an escape, after the backslash. -/
def escape? : List Char → Option (Char × List Char)
  | '"' :: rest => some ('"', rest)
  | '\\' :: rest => some ('\\', rest)
  | 'b' :: rest => some ('\x08', rest)
  | 'f' :: rest => some ('\x0c', rest)
  | 'n' :: rest => some ('\n', rest)
  | 'r' :: rest => some ('\r', rest)
  | 't' :: rest => some ('\t', rest)
  | 'u' :: rest =>
    if rest.length < 4 then none else (scalar? (rest.take 4)).map (·, rest.drop 4)
  | 'U' :: rest =>
    if rest.length < 8 then none else (scalar? (rest.take 8)).map (·, rest.drop 8)
  | _ => none

/-- What follows a backslash at the end of a line: the blanks and the line ends after it do not
count. -/
def continued? (cs : List Char) : Option (List Char) :=
  match cs.dropWhile isBlank with
  | '\n' :: rest => some (rest.dropWhile fun c => isBlank c || c = '\n')
  | _ => none

/-- A string on one line, after its first quote, and the characters `acc` read so far. -/
def line? (q : Quotation) : Nat → List Char → List Char → Option (Token × List Char)
  | 0, _, _ => none
  | _ + 1, _, [] => none
  | fuel + 1, acc, c :: rest =>
    if c = q.mark then some (.quoted (String.ofList acc.reverse) false, rest)
    else if q = .basic ∧ c = '\\' then
      (escape? rest).bind fun (d, rest) => line? q fuel (d :: acc) rest
    else if isPlain c then line? q fuel (c :: acc) rest
    else none

/-- A string over several lines, after its first three quotes. Of five quotes at its end, the first
two belong to the string. -/
def lines? (q : Quotation) : Nat → List Char → List Char → Option (Token × List Char)
  | 0, _, _ => none
  | _ + 1, _, [] => none
  | fuel + 1, acc, c :: rest =>
    if c = q.mark then
      let more := (rest.takeWhile (· = q.mark)).length
      if more < 2 then lines? q fuel (c :: acc) rest
      else
        let kept := min (more - 2) 2
        let text := acc.reverse ++ List.replicate kept q.mark
        some (.quoted (String.ofList text) true, rest.drop (2 + kept))
    else if c = '\n' then lines? q fuel (c :: acc) rest
    else if q = .basic ∧ c = '\\' then
      match rest with
      | d :: _ =>
        if isBlank d ∨ d = '\n' then (continued? rest).bind fun rest => lines? q fuel acc rest
        else (escape? rest).bind fun (d, rest) => lines? q fuel (d :: acc) rest
      | [] => none
    else if isPlain c then lines? q fuel (c :: acc) rest
    else none

/-- A string, after its first quote. A line end directly after three quotes does not count. -/
def string? (q : Quotation) (cs : List Char) : Option (Token × List Char) :=
  let fuel := cs.length + 1
  match cs with
  | c :: d :: rest =>
    if c = q.mark ∧ d = q.mark then
      match rest with
      | '\n' :: rest => lines? q fuel [] rest
      | rest => lines? q fuel [] rest
    else line? q fuel [] cs
  | _ => line? q fuel [] cs

/-! ## The tokens of a text -/

/-- The token of a character that is a token by itself. -/
def punctuation? : Char → Option Token
  | '\n' => some .newline
  | '=' => some .equals
  | '.' => some .period
  | ',' => some .comma
  | ':' => some .colon
  | '+' => some .plus
  | '\x7b' => some .leftBrace
  | '\x7d' => some .rightBrace
  | '[' => some .leftBracket
  | ']' => some .rightBracket
  | _ => none

/-- The token in front of the text `c :: rest`. -/
def next? (c : Char) (rest : List Char) : Option (Token × List Char) :=
  let cs := c :: rest
  if isBlank c then
    some (.blank (String.ofList (cs.takeWhile isBlank)), cs.dropWhile isBlank)
  else if isWordCharacter c then
    some (.word (String.ofList (cs.takeWhile isWordCharacter)), cs.dropWhile isWordCharacter)
  else if c = '#' then some (.comment, rest.dropWhile isCommentCharacter)
  else if c = '"' then string? .basic rest
  else if c = '\'' then string? .literal rest
  else (punctuation? c).map (·, rest)

/-- The tokens of a text, in order. -/
def ofChars? : Nat → List Char → Option (List Token)
  | _, [] => some []
  | 0, _ => none
  | fuel + 1, c :: rest =>
    (next? c rest).bind fun (t, rest) => (ofChars? fuel rest).map (t :: ·)

/-- The tokens of a document. -/
def scan? (text : String) : Option (List Token) :=
  let cs := foldLineEnds text.toList
  let cs := if cs.head? = some '\ufeff' then cs.tail else cs
  ofChars? cs.length cs

end Token

end Federation.Toml
