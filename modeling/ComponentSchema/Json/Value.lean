import ComponentSchema.Json.Number

/-! JSON values. An object is the list of its members in the order they are written. -/

set_option autoImplicit false

namespace ComponentSchema.Json

inductive Value where
  | null
  | boolean (b : Bool)
  | number (n : Number)
  | string (s : String)
  | array (items : List Value)
  | object (members : List (String × Value))
  deriving BEq, Inhabited

abbrev Members := List (String × Value)

namespace Members

/-- Put a member at its place among members sorted by key, over an earlier one of the same key. -/
def insert (key : String) (value : Value) : Members → Members
  | [] => [(key, value)]
  | (k, v) :: rest =>
    if key = k then (key, value) :: rest
    else if key < k then (key, value) :: (k, v) :: rest
    else (k, v) :: insert key value rest

/-- The members sorted by key; of equal keys the last counts. -/
def sorted (members : Members) : Members :=
  members.foldl (fun sorted (key, value) => insert key value sorted) []

theorem lookup_insert_self (key : String) (value : Value) (members : Members) :
    (insert key value members).lookup key = some value := by
  induction members with
  | nil => simp [insert]
  | cons member rest ih =>
    obtain ⟨k, v⟩ := member
    simp only [insert]
    split
    · simp
    · split
      · simp
      · rename_i different _
        simp [List.lookup_cons, beq_eq_false_iff_ne.2 different, ih]

theorem lookup_insert_of_ne {key other : String} (value : Value) (members : Members)
    (different : other ≠ key) : (insert key value members).lookup other = members.lookup other := by
  induction members with
  | nil => simp [insert, List.lookup_cons, beq_eq_false_iff_ne.2 different]
  | cons member rest ih =>
    obtain ⟨k, v⟩ := member
    simp only [insert]
    split
    · rename_i same
      subst same
      simp [List.lookup_cons, beq_eq_false_iff_ne.2 different]
    · split
      · simp [List.lookup_cons, beq_eq_false_iff_ne.2 different]
      · simp only [List.lookup_cons, ih]

end Members

namespace Value

def nat (n : Nat) : Value :=
  .number (.ofNat n)

def strings (texts : List String) : Value :=
  .array (texts.map .string)

def record (members : Members) : Value :=
  .object (Members.sorted members)

def get? (key : String) : Value → Option Value
  | .object members => members.lookup key
  | _ => none

def typeName : Value → String
  | .null => "null"
  | .boolean _ => "boolean"
  | .number _ => "number"
  | .string _ => "string"
  | .array _ => "array"
  | .object _ => "object"

end Value

end ComponentSchema.Json
