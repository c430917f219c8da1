import SchemaSheet.Number.Binary64
import SchemaSheet.Text.Basic

/-!
# JSON values

Settings are JSON values.  Whole numbers are exact, other numbers have 53
significant bits, and the members of an object keep their order.
-/

namespace SchemaSheet

inductive Json where
  | null
  | bool (value : Bool)
  | integer (value : Int)
  | real (value : Binary64)
  | text (value : Text)
  | array (items : List Json)
  | object (members : List (Text × Json))
  deriving BEq, Repr, Inhabited

namespace Json

/-- The value counts as true.  Nothing, zero, and everything empty do not. -/
def isTruthy : Json → Bool
  | null => false
  | bool value => value
  | integer value => value != 0
  | real value => !value.isZero
  | text value => !value.isEmpty
  | array items => !items.isEmpty
  | object members => !members.isEmpty

def isPresent : Json → Bool
  | null => false
  | _ => true

end Json

/-- Members of an object with distinct names, in the order of their first
appearance. -/
abbrev Members := List (Text × Json)

namespace Members

def get? (members : Members) (name : Text) : Option Json :=
  members.lookup name

/-- Gives a member a value: in its place if there is such a member, at the end
otherwise. -/
def put (members : Members) (name : Text) (value : Json) : Members :=
  match members with
  | [] => [(name, value)]
  | (key, old) :: rest =>
      if key = name then (key, value) :: rest
      else (key, old) :: put rest name value

/-- Gives a member a value unless there is such a member. -/
def putNew (members : Members) (name : Text) (value : Json) : Members :=
  if (members.get? name).isSome then members else members.put name value

def names (members : Members) : List Text :=
  members.map Prod.fst

@[simp] theorem get?_put_self (members : Members) (name : Text)
    (value : Json) : (members.put name value).get? name = some value := by
  induction members with
  | nil => simp [put, get?]
  | cons member rest induction =>
      obtain ⟨key, old⟩ := member
      by_cases same : key = name
      · simp [put, get?, same]
      · have other : (name == key) = false := by
          simpa using fun equal => same equal.symm
        simp only [put, same, if_false, get?, List.lookup_cons, other]
        exact induction

theorem get?_put_of_ne (members : Members) {name other : Text}
    (value : Json) (distinct : other ≠ name) :
    (members.put name value).get? other = members.get? other := by
  induction members with
  | nil => simp [put, get?, distinct]
  | cons member rest induction =>
      obtain ⟨key, old⟩ := member
      by_cases same : key = name
      · subst key
        have different : (other == name) = false := by simpa using distinct
        simp [put, get?, List.lookup_cons, different]
      · simp only [put, same, if_false, get?, List.lookup_cons]
        split
        · rfl
        · exact induction

end Members

end SchemaSheet
