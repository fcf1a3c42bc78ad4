import CharacterSheet.Decimal.Numeral

/-!
# JSON documents

The tree of a JSON text. Numbers keep their numerals and objects keep their members
in order, repeated names included, so that what a tree stands for is decided where it
is read.
-/

namespace CharacterSheet

/-- A JSON document. -/
inductive Json where
  | null
  | bool (b : Bool)
  | number (n : Decimal.Numeral)
  | string (s : String)
  /-- A string with half of a surrogate pair, or an object with such a member name:
  well-formed as a text, but without a value. -/
  | unpaired
  | array (elements : List Json)
  | object (members : List (String × Json))
deriving Repr, Inhabited

namespace Json

/-- A whole number. -/
def int (n : Int) : Json := .number (.ofInt n)

/-- The last value given for a member of an object. -/
def member? (j : Json) (name : String) : Option Json :=
  match j with
  | .object members => members.reverse.findSome? fun m => if m.1 = name then some m.2 else none
  | _ => none

mutual

/-- Whether every string and number of a document has a value, and no more than `room`
arrays and objects stand inside one another. -/
def isSound (room : Nat) : Json → Bool
  | .null | .bool _ | .string _ => true
  | .number n => n.toFloat?.isSome
  | .unpaired => false
  | .array elements => 0 < room && areSound (room - 1) elements
  | .object members => 0 < room && membersSound (room - 1) members
termination_by structural j => j

def areSound (room : Nat) : List Json → Bool
  | [] => true
  | j :: rest => isSound room j && areSound room rest
termination_by structural js => js

def membersSound (room : Nat) : List (String × Json) → Bool
  | [] => true
  | (_, j) :: rest => isSound room j && membersSound room rest
termination_by structural ms => ms

end

end Json

end CharacterSheet
