/-!
# Schemas of records

A record is written in some notation as named fields. What is known about it is independent of the
notation: its name, its fields in order, which of them have a default, and how a field is set from
a written value.

* `Schema.absent?_eq_none_iff`: nothing is missing exactly when every field without default is
  there;
* `Mismatch.headline_of_no_colon`: a text without colons is said in full.
-/

namespace Federation

/-- Why a written value cannot be read as a type. -/
inductive Mismatch
  /-- Another type of value was expected. -/
  | type
  /-- The value has the right type but is not one that is allowed. -/
  | value
  /-- A field without default is absent. -/
  | missing (field : String)
  /-- A list has the wrong number of items. -/
  | length (found : Nat) (expected : String)
  /-- A name is not one of the names that are allowed. -/
  | variant (found : String) (expected : List String)
  /-- A text is not an identifier. -/
  | identifier
  deriving DecidableEq, Repr

namespace Mismatch

/-- The names, each between grave accents. -/
def nameList (names : List String) : String :=
  ", ".intercalate (names.map fun n => "\x60" ++ n ++ "\x60")

/-- A mismatch in words. -/
def description : Mismatch → String
  | .type => "invalid type"
  | .value => "invalid value"
  | .missing field => "missing field " ++ nameList [field]
  | .length found expected => "invalid length " ++ toString found ++ ", expected " ++ expected
  | .variant found expected =>
    "unknown variant " ++ nameList [found] ++ ", expected one of " ++ nameList expected
  | .identifier => "UUID parsing failed"

/-- The front of a text, up to the first colon with a blank behind it. -/
def headline : List Char → List Char
  | [] => []
  | ':' :: ' ' :: _ => []
  | c :: rest => c :: headline rest

theorem headline_of_no_colon {cs : List Char} (h : ':' ∉ cs) : headline cs = cs := by
  fun_induction headline cs with
  | case1 => rfl
  | case2 => simp at h
  | case3 c rest _ ih => rw [ih fun hr => h (List.mem_cons_of_mem c hr)]

/-- What is said about a mismatch: its headline, which leaves out all details, even where a name
that was found looks like the start of them. -/
def message (m : Mismatch) : String :=
  String.ofList (headline m.description.toList)

end Mismatch

/-- How a record of type `α` is read from values of type `ν`: its name, its fields in order, which
of them have a default, the record of the defaults, and how one field is set, failing with `ε`. The
value under a required field in `defaults` is never seen. -/
structure Schema (ν ε α : Type) where
  name : String
  fields : List String
  optionalFields : List String
  defaults : α
  set : α → String → ν → Except ε α

namespace Schema

variable {ν ε α : Type}

/-- The first field without default that is not among the given ones. -/
def absent? (r : Schema ν ε α) (given : List String) : Option String :=
  r.fields.find? fun f => f ∉ r.optionalFields && f ∉ given

theorem absent?_eq_none_iff (r : Schema ν ε α) (given : List String) :
    r.absent? given = none ↔ ∀ f ∈ r.fields, f ∉ r.optionalFields → f ∈ given := by
  simp [absent?, List.find?_eq_none]

/-- The number of fields in words. -/
def expectation (r : Schema ν ε α) : String :=
  let n := r.fields.length
  "struct " ++ r.name ++ " with " ++ toString n ++ if n = 1 then " element" else " elements"

/-- Sets the fields in their order from a list of values, after `position` values were read. Fields
with a default may be left out at the end; the values that are left over come with the result. -/
def setInOrder (r : Schema ν ε α) (lift : Mismatch → ε) (acc : α) (position : Nat)
    (located : Nat → ε → ε) : List String → List ν → Except ε (α × List ν)
  | [], values => .ok (acc, values)
  | f :: fs, [] =>
    if f ∈ r.optionalFields then r.setInOrder lift acc position located fs []
    else .error (lift (.length position r.expectation))
  | f :: fs, v :: rest =>
    match r.set acc f v with
    | .ok acc => r.setInOrder lift acc (position + 1) located fs rest
    | .error e => .error (located position e)

end Schema

end Federation
