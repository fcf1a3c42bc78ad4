import CharacterSheet.Amount
import CharacterSheet.Document.Reader
import CharacterSheet.Json.Parser
import CharacterSheet.Placeholder

/-!
# Documents

Rule objects are kept as JSON documents. `Document.write` leaves out fields that have
their default, as each kind of object has it, and `Document.read` puts the defaults
back; unknown fields are passed over.

This module holds the class and the documents of numbers, weights, key words, criteria,
amounts and collections.
-/

namespace CharacterSheet

/-- Values that are kept as documents. -/
class Document (α : Type) where
  read : Document.Reader α
  write : α → Json

namespace Document

variable {α : Type}

/-- Reads a whole document. -/
def ofJson [Document α] (j : Json) : Except RuleError α :=
  (read {} j).mapError .document

/-- Reads the text of a document. -/
def ofText [Document α] (text : String) : Except RuleError α :=
  match Json.parse? text with
  | some j => ofJson j
  | none => .error (.document .malformed)

/-! ### Writing records -/

/-- A member of an object. -/
def member [Document α] (name : String) (a : α) : List (String × Json) := [(name, write a)]

/-- A member that is left out if it has its default. -/
def memberUnless [Document α] [DecidableEq α] (default : α) (name : String) (a : α) :
    List (String × Json) :=
  if a = default then [] else member name a

/-- An object with the given members. -/
def ofMembers (members : List (List (String × Json))) : Json := .object members.flatten

/-! ### Values -/

instance : Document String := ⟨Reader.string, .string⟩

instance : Document Bool := ⟨Reader.bool, .bool⟩

/-- The numeral of a number: whole, or the shortest decimal that reads back as the same
double. -/
def numeral (a : Fixed) : Decimal.Numeral :=
  if a.isWhole then .ofInt a.toInt else .ofFloat a.toFloat

instance : Document Fixed := ⟨Reader.fixed, fun a => .number (numeral a)⟩

instance : Document Weight := ⟨Reader.parsed Weight.parse, fun w => .string w.text⟩

instance : Document WeightUnit := ⟨Reader.parsed WeightUnit.parse, fun u => .string u.key⟩

/-- Enumerations are written by their keys. -/
instance ofKeyword [Keyword α] : Document α := ⟨Reader.keyword, fun a => .string (Keyword.key a)⟩

instance [Document α] : Document (Option α) where
  read := Reader.optional read
  write
    | none => .null
    | some a => write a

instance [Document α] : Document (List α) where
  read := Reader.list read
  write as := .array (as.map write)

instance [Document α] : Document (KeyMap α) where
  read := Reader.keyMap read
  write m := .object (m.entries.map fun e => (e.1, write e.2))

/-! ### Criteria and amounts -/

instance : Document StringCriteria where
  read := Reader.record ["compare", "qualifier"] fun r => do
    return {
      compare := ← r.optional "compare" .any read
      qualifier := ← r.optional "qualifier" "" read }
  write c := ofMembers [member "compare" c.compare, memberUnless "" "qualifier" c.qualifier]

instance : Document NumericCriteria where
  read := Reader.record ["compare", "qualifier"] fun r => do
    return {
      compare := ← r.optional "compare" .any read
      qualifier := ← r.optional "qualifier" 0 read }
  write c := ofMembers [member "compare" c.compare, memberUnless 0 "qualifier" c.qualifier]

instance : Document WeightCriteria where
  read := Reader.record ["compare", "qualifier"] fun r => do
    return {
      compare := ← r.optional "compare" .any read
      qualifier := ← r.optional "qualifier" .zero read }
  write c := ofMembers [member "compare" c.compare, memberUnless .zero "qualifier" c.qualifier]

/-- The fields of an amount, which stand beside those of the feature that has it. -/
def amountFields : List Field := ["amount", "per_level"]

/-- An amount as its fields give it, at level zero. -/
def readAmount (r : Record) : Except DocumentError Amount := do
  return {
    amount := ← r.optional "amount" 0 read
    perLevel := ← r.optional "per_level" false read }

def amountMembers (a : Amount) : List (String × Json) :=
  member "amount" a.amount ++ memberUnless false "per_level" a.perLevel

instance : Document Amount where
  read := Reader.record amountFields readAmount
  write a := .object (amountMembers a)

end Document

end CharacterSheet
