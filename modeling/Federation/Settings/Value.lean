/-!
# Values of settings

The values that a program is set up with, whatever notation they come from. A date is a text. A
value may be missing inside a list.
-/

namespace Federation

/-- A value of the settings. -/
inductive Setting
  /-- A place in a list that nothing was put into. -/
  | nothing
  | flag (b : Bool)
  | integer (n : Int64)
  | real (x : Float)
  | text (s : String)
  | list (items : List Setting)
  | table (entries : List (String × Setting))
  deriving Inhabited

namespace Setting

/-- The entries of a table; anything else has none. -/
def entries : Setting → List (String × Setting)
  | .table es => es
  | _ => []

/-- The items of a list; anything else has none. -/
def items : Setting → List Setting
  | .list vs => vs
  | _ => []

@[simp]
theorem entries_table (es : List (String × Setting)) : (table es).entries = es := rfl

@[simp]
theorem items_list (vs : List Setting) : (list vs).items = vs := rfl

end Setting

end Federation
