import CharacterSheet.ItemId
import CharacterSheet.Text.Position

/-!
# Errors

The rules themselves never fail. What can fail is reading: a word outside its
vocabulary, a document of the wrong shape, an id that no item has. Each error is a
cause; its wording is in `message?`.
-/

namespace CharacterSheet

/-- A text that is no word of the vocabulary it was looked up in. -/
inductive UnknownWord where
  | selectionType (text : String)
  | spellMatch (text : String)
  | comparison (text : String)
  | weightUnit (text : String)
  | value (kind text : String)
deriving DecidableEq, Repr

namespace UnknownWord

def message : UnknownWord → String
  | selectionType text => "Unknown selection type: " ++ text
  | spellMatch text => "Unknown spell match type: " ++ text
  | comparison text => "Unknown comparison: " ++ text
  | weightUnit text => "Unknown weight unit: " ++ text
  | value kind text => "Unknown " ++ kind ++ ": " ++ text

end UnknownWord

/-- Why a document does not hold a value of the expected kind. -/
inductive DocumentError where
  /-- It is no document at all, or a value of another kind stands somewhere. -/
  | malformed
  | missingField (name : String)
  | duplicateField (name : String)
  | unknownVariant (name : String) (expected : List String)
  /-- A word is unknown; `placed` says whether its place in the document is known, as it
  is within arrays and objects that are read as they stand. -/
  | unknownWord (word : UnknownWord) (placed : Bool)
deriving DecidableEq, Repr

namespace DocumentError

/-- A name as messages quote it. -/
def quoted (name : String) : String := "`" ++ name ++ "`"

/-- The wording of an error, if it has one of its own. The place of the error is not
part of it. -/
def message? : DocumentError → Option String
  | malformed => none
  | missingField name => some ("missing field " ++ quoted name)
  | duplicateField name => some ("duplicate field " ++ quoted name)
  | unknownVariant name expected =>
    some ("unknown variant " ++ quoted name ++ ", expected one of " ++
      String.intercalate ", " (expected.map quoted))
  | unknownWord word placed => some (Text.withoutPosition placed word.message)

end DocumentError

/-- Why a request to the library fails. -/
inductive RuleError where
  | unknownWord (word : UnknownWord)
  | unknownItem (id : ItemId)
  | document (error : DocumentError)
deriving DecidableEq, Repr

namespace RuleError

/-- The wording of an error, if it has one of its own. -/
def message? : RuleError → Option String
  | unknownWord word => some word.message
  | unknownItem id => some ("Unknown item: " ++ id.text)
  | document error => error.message?.map ("Invalid document: " ++ ·)

end RuleError

end CharacterSheet
