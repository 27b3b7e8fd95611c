import Federation.Json.Basic
import Federation.Schema
import Federation.Uuid

/-!
# Reading typed values

A JSON value is read as a value of a given type without any conversion, except that whole numbers
are also reals. Lists and objects are read in order, and the first thing that does not fit is the
answer.

A record may be written as an object or as the list of its fields in order. Fields with a default
may be left out: anywhere in an object, at the end of a list. Members of an object that are no
fields are ignored.

* `Json.Typed.whole_eq_ok_iff`: a whole number is accepted exactly when it is in range.
-/

namespace Federation.Json

/-- A reader of values of one type. -/
abbrev Typed (α : Type) :=
  Json → Except Mismatch α

namespace Typed

/-! ## Scalars -/

/-- Any value. -/
def any : Typed Json :=
  .ok

/-- A text. -/
def text : Typed String
  | .text s => .ok s
  | _ => .error .type

/-- A truth value. -/
def bool : Typed Bool
  | .bool b => .ok b
  | _ => .error .type

/-- A whole number from zero to below `bound`. -/
def whole (bound : Nat) : Typed Nat
  | .number (.whole n) => if 0 ≤ n ∧ n < bound then .ok n.toNat else .error .value
  | _ => .error .type

theorem whole_eq_ok_iff (bound : Nat) (n : Int) (v : Nat) :
    whole bound (.number (.whole n)) = .ok v ↔ n = v ∧ v < bound := by
  unfold whole
  by_cases h : 0 ≤ n ∧ n < bound
  · simp only [h, and_self, if_true, Except.ok.injEq]
    omega
  · simp only [h, if_false, reduceCtorEq, false_iff]
    omega

/-- A whole number of 32 bits. -/
def word32 : Typed UInt32 :=
  fun v => (whole UInt32.size v).map UInt32.ofNat

/-- A whole number of 64 bits. -/
def word64 : Typed UInt64 :=
  fun v => (whole UInt64.size v).map UInt64.ofNat

/-- A number, whole or not, as the nearest double. -/
def real : Typed Float
  | .number (.real x) => .ok x
  | .number (.whole n) =>
    .ok (if n < 0 then -(UInt64.ofNat n.natAbs).toFloat else (UInt64.ofNat n.natAbs).toFloat)
  | _ => .error .type

/-- An identifier, from its text. -/
def uuid : Typed Uuid
  | .text s =>
    match Uuid.ofText? s with
    | some u => .ok u
    | none => .error .identifier
  | _ => .error .type

/-- The null value, or a value. -/
def option {α : Type} (read : Typed α) : Typed (Option α)
  | .null => .ok none
  | v => (read v).map some

/-- A list of values. -/
def list {α : Type} (read : Typed α) : Typed (List α)
  | .list items => items.mapM read
  | _ => .error .type

/-- One of several named values: its name, or an object whose one member has this name and the null
value. -/
def named {α : Type} (values : List (String × α)) : Typed α
  | .text s => find s
  | .object [(s, v)] => do
    let a ← find s
    match v with
    | .null => .ok a
    | _ => .error .type
  | .object _ => .error .value
  | _ => .error .type
where
  /-- The value with the given name. -/
  find (s : String) : Except Mismatch α :=
    match values.lookup s with
    | some a => .ok a
    | none => .error (.variant s (values.map Prod.fst))

/-! ## Records -/

/-- Sets the fields that an object has members for, in the order of the members. -/
def setMembers {α : Type} (r : Schema Json Mismatch α) (acc : α) :
    List (String × Json) → Except Mismatch α
  | [] => .ok acc
  | (k, v) :: rest => do
    let acc ← if k ∈ r.fields then r.set acc k v else .ok acc
    setMembers r acc rest

/-- Reads a record from an object or from a list of its fields. -/
def record {α : Type} (r : Schema Json Mismatch α) : Typed α
  | .object members => do
    let acc ← setMembers r r.defaults members
    match r.absent? (members.map Prod.fst) with
    | some f => .error (.missing f)
    | none => .ok acc
  | .list items => do
    let (acc, surplus) ← r.setInOrder id r.defaults 0 (fun _ e => e) r.fields items
    if surplus.isEmpty then .ok acc
    else .error (.length items.length "fewer elements in array")
  | _ => .error .type

end Typed

end Federation.Json
