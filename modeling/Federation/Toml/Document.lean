import Federation.Toml.Expression

/-!
# TOML documents

A document is a list of lines: entries, and headers that lead into a table. The entries up to the
next header make a block of that table. A header in double brackets starts a further table of a
list.

The blocks are put together level by level. A table may be led into once; the headers of its inner
tables may come before it or after it. The first header of a list makes it a list, and everything up
to its next header belongs to the table it started. What a header leads into cannot have been
written as an entry.

A table whose first entry gives a date is read no further. The headers that would have led into it
are then left over; the next table of the same list takes them, and if there is none, they lead into
what is no table.

* `Document.ofText?_empty`: a document without text has no entries.
-/

namespace Federation.Toml

open Expression (Tokens)

/-- A line that is not empty. -/
inductive Line
  /-- A header: the way to a table, and whether the table is one of a list. -/
  | header (path : List String) (repeated : Bool)
  | entry (path : List String) (v : Expression)

/-- The entries after a header: what is left of the way to their table, and whether the table is one
of a list. -/
structure Block where
  path : List String
  repeated : Bool
  entries : List (String × Expression)
  deriving Inhabited

namespace Document

/-! ## Lines -/

/-- A header, after its first bracket. Nothing stands between the two brackets of a list. -/
def header? (ts : Tokens) : Option (Line × Tokens) :=
  let repeated := ts.head? = some .leftBracket
  let body := if repeated then ts.tail else ts
  match Expression.keys? ts.length (Expression.skipBlank body) with
  | some (path, .rightBracket :: rest) =>
    if repeated then
      match rest with
      | .rightBracket :: rest => some (.header path true, rest)
      | _ => none
    else some (.header path false, rest)
  | _ => none

/-- An entry. -/
def entry? (ts : Tokens) : Option (Line × Tokens) :=
  match Expression.keys? ts.length ts with
  | some (path, .equals :: rest) =>
    (Expression.value? (2 * ts.length) (Expression.skipBlank rest)).map fun (v, rest) =>
      (.entry path v, rest)
  | _ => none

/-- The lines of a document that are not empty. -/
def lines? : Nat → Tokens → Option (List Line)
  | 0, _ => none
  | fuel + 1, ts =>
    match Expression.skipSpace ts with
    | [] => some []
    | ts => do
      let (line, rest) ←
        match ts with
        | .leftBracket :: rest => header? rest
        | ts => entry? ts
      let rest ← Expression.lineEnd? rest
      (lines? fuel rest).map (line :: ·)

/-! ## Blocks -/

/-- Adds a line to the blocks read so far, of which the last one is the first of the list. -/
def addLine? (blocks : List Block) : Line → Option (List Block)
  | .header path repeated => some (⟨path, repeated, []⟩ :: blocks)
  | .entry path v =>
    match blocks with
    | b :: rest =>
      (Expression.insert v path b.entries).map fun entries => { b with entries } :: rest
    | [] => none

/-- The blocks of a document, the first one without header. -/
def blocks? (lines : List Line) : Option (List Block) :=
  (lines.foldlM addLine? [⟨[], false, []⟩]).map List.reverse

/-! ## Tables -/

/-- The blocks that lead into the inner table `k`, seen from there. -/
def under (k : String) (blocks : List Block) : List Block :=
  blocks.filterMap fun b =>
    match b.path with
    | k' :: path => if k = k' then some { b with path } else none
    | [] => none

/-- Splits the blocks of a list at its headers: each table has the block of its header, and the
blocks up to the next one. -/
def elements : List Block → List (List Block)
  | [] => []
  | b :: rest =>
    if b.path = [] ∧ b.repeated then
      let inner := rest.takeWhile fun c => ¬(c.path = [] ∧ c.repeated)
      ({ b with repeated := false } :: inner) :: elements (rest.drop inner.length)
    else elements rest
termination_by blocks => blocks.length
decreasing_by all_goals simp only [List.length_drop, List.length_cons]; omega

/-- The first entry of a table, if its blocks start with it and it gives a date. -/
def dated? : List Block → Option Expression
  | ⟨[], _, es⟩ :: _ => Expression.dated? es
  | _ => none

/-- The name of the first entry of a table, if a header gives it. -/
def leading? : List Block → Option String
  | ⟨k :: _, _, _⟩ :: _ => some k
  | ⟨[], _, []⟩ :: rest => leading? rest
  | _ => none

/-- The tables of a list, one after the other. What a table leaves over goes to the next one, after
its own first block. -/
def inTurn (assemble? : List Block → Option (Setting × List Block)) (left : List Block) :
    List (List Block) → Option (List Setting × List Block)
  | [] => some ([], left)
  | blocks :: rest => do
    let (table, left) ← assemble? (blocks.take 1 ++ left ++ blocks.drop 1)
    let (tables, left) ← inTurn assemble? left rest
    pure (table :: tables, left)

/-- A table from its blocks and those of its inner tables, which lie at most `depth` levels below
it, with the blocks that are left over. The inner tables leave nothing over, and none of them is the
first entry of a date. -/
def assemble? : Nat → List Block → Option (Setting × List Block)
  | 0, _ => none
  | depth + 1, blocks =>
    match dated? blocks with
    | some v => (Expression.dateOf? v).map (·, blocks.tail)
    | none => do
      let own := blocks.filter (·.path = [])
      let names := (blocks.filterMap (·.path.head?)).eraseDups
      if 1 < own.length ∨ own.any (·.repeated) ∨ leading? blocks = some Moment.entryName then none
      else
        let inner ← names.mapM fun k => do
          let below := under k blocks
          let (value, left) ←
            match below with
            | ⟨[], true, _⟩ :: _ =>
              (inTurn (assemble? depth) [] (elements below)).map fun (tables, left) =>
                (Setting.list tables, left)
            | _ => assemble? depth below
          if left.isEmpty then pure (k, value) else none
        let entries ← Expression.named? (own.flatMap (·.entries))
        let entries := entries ++ inner
        if (entries.map Prod.fst).Nodup then pure (.table entries, []) else none

/-- The entries of a document. One that gives a date as a whole has none. -/
def ofText? (text : String) : Option (List (String × Setting)) := do
  let ts ← Token.scan? text
  let lines ← lines? (ts.length + 1) ts
  let blocks ← blocks? lines
  let (root, _) ← assemble? (blocks.foldl (fun n b => max n b.path.length) 0 + 1) blocks
  pure root.entries

theorem ofText?_empty : ofText? "" = some [] := by
  have hnamed : Expression.named? [] = some [] := by rw [Expression.named?]
  have hroot : assemble? 1 [⟨[], false, []⟩] = some (.table [], []) := by
    show (Expression.named? []).bind (fun entries =>
      if ((entries ++ []).map Prod.fst).Nodup then some (Setting.table (entries ++ []), [])
      else none) = _
    rw [hnamed]
    rfl
  show (assemble? 1 [⟨[], false, []⟩]).bind (fun r => some r.1.entries) = _
  rw [hroot]
  rfl

end Document

end Federation.Toml
