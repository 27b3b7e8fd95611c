import Federation.Failure
import Federation.Settings.Value

/-!
# Paths to settings

A path names a value inside tables and lists: `log.filter`, `experiment.eval_rounds[0]`. Putting a
value at a path makes the tables and lists on the way that are not there, in place of anything else
that stands there; a list is filled up with nothing to the place that is needed. A table that is put
over a table is merged into it.

A place in a list may be counted from its end; then it has to be there. A place that is not there,
or so far out that no list reaches it, is a crash.

* `KeyPath.lookup_put`: what is no table and was put under a name is found there.
-/

namespace Federation

/-- A path to a value. -/
inductive KeyPath
  | name (k : String)
  | child (parent : KeyPath) (k : String)
  | item (parent : KeyPath) (index : Int)
  deriving DecidableEq

namespace KeyPath

/-! ## Reading -/

/-- A character of a name in a path. -/
def isNameCharacter (c : Char) : Bool :=
  c.isAlphanum || c = ' ' || c = '_' || c = '-'

/-- A name in front of a text, and what follows it. -/
def name? (cs : List Char) : Option (String × List Char) :=
  match cs.takeWhile isNameCharacter with
  | [] => none
  | k => some (String.ofList k, cs.dropWhile isNameCharacter)

/-- A blank inside the brackets of a place. -/
def isBlank (c : Char) : Bool :=
  c = ' ' || c = '\t'

/-- A place after its bracket: a number of 64 bits, up to the closing bracket. -/
def index? (cs : List Char) : Option (Int × List Char) :=
  let cs := cs.dropWhile isBlank
  let (negative, body) :=
    match cs with
    | '-' :: rest => (true, rest)
    | rest => (false, rest)
  let ds := body.takeWhile Char.isDigit
  let n : Int := ds.foldl (fun acc c => 10 * acc + (c.toNat - 48)) 0
  let n := if negative then -n else n
  match (body.dropWhile Char.isDigit).dropWhile isBlank with
  | ']' :: rest =>
    if ds.isEmpty ∨ n < Int64.minValue.toInt ∨ Int64.maxValue.toInt < n then none
    else some (n, rest)
  | _ => none

/-- The path that a text continues. -/
def extend? : Nat → KeyPath → List Char → Option KeyPath
  | _, p, [] => some p
  | fuel + 1, p, '.' :: cs => (name? cs).bind fun (k, rest) => extend? fuel (.child p k) rest
  | fuel + 1, p, '[' :: cs => (index? cs).bind fun (i, rest) => extend? fuel (.item p i) rest
  | _, _, _ => none

/-- The path that a text writes. -/
def ofText? (text : String) : Option KeyPath :=
  (name? text.toList).bind fun (k, rest) => extend? rest.length (.name k) rest

/-- The path that a text writes; a text that writes none is a single name. -/
def ofText (text : String) : KeyPath :=
  (ofText? text).getD (.name text)

/-! ## Writing -/

/-- The entries with one name set to a value: in its place, or at the end if it is new. -/
def setEntry (k : String) (v : Setting) : List (String × Setting) → List (String × Setting)
  | [] => [(k, v)]
  | (k', w) :: rest => if k = k' then (k', v) :: rest else (k', w) :: setEntry k v rest

/-- No list has more items. -/
def maxItems : Nat :=
  0x100000000000000

/-- The place in a list of the given length that an index means. The opposite of an index below zero
is a number of 64 bits that is taken off the length. -/
def place (index : Int) (length : Nat) : Except Crash Nat :=
  if 0 ≤ index then .ok index.toNat
  else if index = Int64.minValue.toInt then .error .negationOverflow
  else if length < index.natAbs then .error .subtractionOverflow
  else .ok (length - index.natAbs)

/-- The items, filled up with nothing so that they reach a place. -/
def reach (i : Nat) (items : List Setting) : Except Crash (List Setting) :=
  if i < items.length then .ok items
  else if maxItems ≤ i then .error .capacityOverflow
  else .ok (items ++ List.replicate (i + 1 - items.length) .nothing)

/-- The items with the value at one place changed, after filling up the list to this place. -/
def modifyItem (index : Int) (f : Setting → Except Crash Setting) (items : List Setting) :
    Except Crash (List Setting) := do
  let i ← place index items.length
  let items ← reach i items
  let v ← f (items[i]?.getD .nothing)
  pure (items.set i v)

/-- The value with the value at a path changed; the path's tables and lists are made where there are
none. -/
def modify : KeyPath → (Setting → Except Crash Setting) → Setting → Except Crash Setting
  | .name k, f, root =>
    (f ((root.entries.lookup k).getD .nothing)).map fun v => .table (setEntry k v root.entries)
  | .child p k, f, root =>
    p.modify (fun parent => (f ((parent.entries.lookup k).getD .nothing)).map fun v =>
      .table (setEntry k v parent.entries)) root
  | .item p i, f, root => p.modify (fun parent => (modifyItem i f parent.items).map .list) root

mutual

/-- Puts a value under a name of a table, which takes the place of anything else. The entries of a
table are put one by one into the table that is there. -/
def put (k : String) : Setting → Setting → Setting
  | .table incoming, root =>
    let target := (root.entries.lookup k).getD (.table [])
    .table (setEntry k (putAll incoming target) root.entries)
  | v, root => .table (setEntry k v root.entries)

/-- Puts entries one by one into a value. -/
def putAll : List (String × Setting) → Setting → Setting
  | [], target => target
  | (k, v) :: rest, target => putAll rest (put k v target)

end

/-- Puts a value at a path. -/
def assign (p : KeyPath) (v root : Setting) : Except Crash Setting :=
  match p with
  | .name k => .ok (put k v root)
  | .child p k => p.modify (fun parent => .ok (put k v parent)) root
  | .item p i =>
    p.modify (fun parent => (modifyItem i (fun _ => .ok v) parent.items).map .list) root

@[simp]
theorem lookup_setEntry (k : String) (v : Setting) (es : List (String × Setting)) :
    (setEntry k v es).lookup k = some v := by
  induction es with
  | nil => simp [setEntry]
  | cons e rest ih =>
    obtain ⟨k', w⟩ := e
    by_cases h : k = k'
    · simp [setEntry, h]
    · have hk : (k == k') = false := by simp [h]
      simp [setEntry, h, hk, List.lookup_cons, ih]

theorem lookup_put (k s : String) (root : Setting) :
    (put k (.text s) root).entries.lookup k = some (.text s) := by
  simp [put]

end KeyPath

end Federation
