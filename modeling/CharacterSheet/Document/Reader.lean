import CharacterSheet.Criteria
import CharacterSheet.Json
import CharacterSheet.KeyMap

/-!
# Reading values from documents

A reader takes a JSON tree to a value or to the reason why it holds none. Records are
read by their fields: unknown fields are passed over, a field given twice is an error,
and a missing field takes its default if it has one. A record may also be written as an
array of its fields in order.

At most 127 arrays and objects may stand inside one another on the way to a value that
is read. What is passed over is not looked at, except within a tagged value: the whole
of it must be sound before its tag selects what it is read as.
-/

namespace CharacterSheet.Document

/-- Where in a document a value stands. -/
structure Scope where
  /-- How many arrays and objects may still be entered. -/
  room : Nat := 127
  /-- Whether the value stands within a tagged value. -/
  tagged : Bool := false
  /-- Whether the value stands in an array or object that is not within a tagged value,
  so that its place in the document is known. -/
  placed : Bool := false
deriving DecidableEq, Repr, Inhabited

/-- A reader of values. -/
abbrev Reader (α : Type) := Scope → Json → Except DocumentError α

/-- Enters an array or object. -/
def Scope.enter (scope : Scope) : Except DocumentError Scope :=
  if scope.room = 0 then .error .malformed
  else .ok { scope with room := scope.room - 1, placed := scope.placed || !scope.tagged }

namespace Reader

variable {α : Type}

def string : Reader String
  | _, .string s => .ok s
  | _, _ => .error .malformed

def bool : Reader Bool
  | _, .bool b => .ok b
  | _, _ => .error .malformed

/-- A number in the range of doubles, rounded to four places. -/
def fixed : Reader Fixed
  | _, .number n =>
    match n.toFloat? with
    | some f => .ok (.ofFloat f)
    | none => .error .malformed
  | _, _ => .error .malformed

/-- A string that is parsed further. -/
def parsed (parse : String → Except UnknownWord α) : Reader α := fun scope j => do
  let text ← string scope j
  (parse text).mapError (.unknownWord · scope.placed)

/-- A key word. -/
def keyword [Keyword α] : Reader α := parsed Keyword.parse

/-- A value or null. -/
def optional (value : Reader α) : Reader (Option α)
  | _, .null => .ok none
  | scope, j => (value scope j).map some

/-- An array of values. -/
def list (element : Reader α) : Reader (List α)
  | scope, .array js => do
    let inner ← scope.enter
    js.mapM (element inner)
  | _, _ => .error .malformed

/-- An object with arbitrary names; of several members with one name the last counts. -/
def keyMap (value : Reader α) : Reader (KeyMap α)
  | scope, .object ms => do
    let inner ← scope.enter
    let entries ← ms.mapM fun m => return (m.1, ← value inner m.2)
    return .ofList entries
  | _, _ => .error .malformed

end Reader

/-! ### Records -/

/-- The two ways to write the fields of a record. -/
inductive Shape where
  | members (ms : List (String × Json))
  | elements (js : List Json)
deriving Repr

/-- Enters the array or object of a record. -/
def enterRecord (scope : Scope) (j : Json) : Except DocumentError (Scope × Shape) := do
  match j with
  | .object ms => return (← scope.enter, .members ms)
  | .array js => return (← scope.enter, .elements js)
  | _ => .error .malformed

/-- The name of a field, and the name that it once had. -/
structure Field where
  name : String
  formerly : Option String := none
deriving DecidableEq, Repr

instance : Coe String Field := ⟨fun name => { name }⟩

/-- Whether a member of an object gives the field. -/
def Field.isGivenBy (f : Field) (name : String) : Bool :=
  name == f.name || some name == f.formerly

/-- The fields of a record as they are given. -/
structure Record where
  scope : Scope
  /-- Whether the record is written as an array. -/
  positional : Bool
  given : List (String × Json)
deriving Repr

namespace Record

/-- Collects the given ones of the fields of a record, which are listed in the order in
which an array has them. -/
def ofShape (fields : List Field) (scope : Scope) : Shape → Except DocumentError Record
  | .members ms => do
    let given ← fields.filterMapM fun f =>
      match ms.filter (fun m => f.isGivenBy m.1) with
      | [] => return none
      | [m] => return some (f.name, m.2)
      | _ => .error (.duplicateField f.name)
    return { scope, positional := false, given }
  | .elements js =>
    if fields.length < js.length then .error .malformed
    else .ok { scope, positional := true, given := (fields.map Field.name).zip js }

/-- A field that must be given. -/
def required {α : Type} (r : Record) (name : String) (read : Reader α) :
    Except DocumentError α :=
  match r.given.lookup name with
  | some j => read r.scope j
  | none => .error (if r.positional then .malformed else .missingField name)

/-- A field with a default. -/
def optional {α : Type} (r : Record) (name : String) (default : α) (read : Reader α) :
    Except DocumentError α :=
  match r.given.lookup name with
  | some j => read r.scope j
  | none => .ok default

end Record

/-- Reads a record by its fields. -/
def Reader.record {α : Type} (fields : List Field) (read : Record → Except DocumentError α) :
    Reader α := fun scope j => do
  let (inner, shape) ← enterRecord scope j
  read (← Record.ofShape fields inner shape)

/-! ### Tagged values -/

/-- The variant that a tag selects. Within a tagged value a tag may also be the place of
the variant in the list. -/
def selectVariant (variants : List String) (scope : Scope) (tag : Json) :
    Except DocumentError String :=
  match tag with
  | .string s =>
    if variants.contains s then .ok s else .error (.unknownVariant s variants)
  | .number n =>
    match if scope.tagged then n.toNat?.bind (variants[·]?) else none with
    | some variant => .ok variant
    | none => .error .malformed
  | _ => .error .malformed

/-- Reads a value whose member `type`, or first element, says which variant it is. Gives
the variant and the rest of the value. -/
def readTagged (variants : List String) (scope : Scope) (j : Json) :
    Except DocumentError (String × Scope × Shape) := do
  if !scope.tagged && !j.isSound scope.room then .error .malformed
  let (inner, shape) ← enterRecord scope j
  let inner := { inner with tagged := true, placed := scope.placed }
  match shape with
  | .members ms =>
    match ms.filter (·.1 == "type") with
    | [] => .error (.missingField "type")
    | [m] =>
      let variant ← selectVariant variants scope m.2
      return (variant, inner, .members (ms.filter (·.1 != "type")))
    | _ => .error (.duplicateField "type")
  | .elements [] => .error (.missingField "type")
  | .elements (tag :: rest) =>
    let variant ← selectVariant variants scope tag
    return (variant, inner, .elements rest)

end CharacterSheet.Document
