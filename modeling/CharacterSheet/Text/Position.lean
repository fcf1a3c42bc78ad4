import CharacterSheet.Decimal.Digits

/-!
# Positions in messages

A report of a fault in a text is a message with the place of the fault behind it, as
` at line L column C`. A message that ends so itself gives the place of its fault, and
the ending is no part of what it says. `withoutPosition` is what a report says besides
the place.

The ending is looked for from the back, so the texts in between are in reverse order.
-/

namespace CharacterSheet.Text

/-- A place in a text. -/
structure Position where
  line : Nat
  column : Nat
deriving DecidableEq, Repr

namespace Position

/-- Whether line and column are numbers of 64 bits. -/
def fits (p : Position) : Bool :=
  p.line < 0x10000000000000000 && p.column < 0x10000000000000000

/-- Whether the position is the place of something. Lines count from one. -/
def isPlace (p : Position) : Bool := p.line != 0

end Position

/-- Splits a number off the end of a text in reverse order. -/
def splitNumber? (reversed : List Char) : Option (Nat × List Char) :=
  let (digits, rest) := Decimal.splitDigits reversed
  if digits.isEmpty then none else some (Decimal.value digits.reverse, rest)

/-- Drops a word from the end of a text in reverse order. -/
def dropWord? (word : String) (reversed : List Char) : Option (List Char) :=
  word.toList.reverse.isPrefixOf? reversed

/-- Splits a position off the end of a text. -/
def splitPosition? (cs : List Char) : Option (List Char × Position) := do
  let (column, rest) ← splitNumber? cs.reverse
  let rest ← dropWord? " column " rest
  let (line, rest) ← splitNumber? rest
  let rest ← dropWord? " at line " rest
  return (rest.reverse, { line, column })

/-- What stands before the position at the end of a text. -/
def beforePosition (cs : List Char) : List Char :=
  match splitPosition? cs with
  | some (before, _) => before
  | none => cs

/-- A message without the position that it ends in, and whether that is a place. -/
def takePlace (cs : List Char) : List Char × Bool :=
  match splitPosition? cs with
  | some (before, p) => if p.fits then (before, p.isPlace) else (cs, false)
  | none => (cs, false)

/-- What the report of a message says besides the place of the fault. `placed` says
whether the place is known apart from the message. If it is known from neither, the
message ends the report, and a position at its end stands where the place would. -/
def withoutPosition (placed : Bool) (message : String) : String :=
  let (before, found) := takePlace message.toList
  String.ofList (if found || placed then before else beforePosition before)

/-! ### What is split off -/

/-- All digits at the end are split off. -/
theorem splitNumber?_append {ds rest : List Char} (hne : ds ≠ [])
    (hd : ∀ d ∈ ds, Decimal.isDigit d = true)
    (hr : ∀ c ∈ rest.head?, Decimal.isDigit c = false) :
    splitNumber? (ds.reverse ++ rest) = some (Decimal.value ds, rest) := by
  have hd' : ∀ c ∈ ds.reverse, Decimal.isDigit c = true :=
    fun c hc => hd c (List.mem_reverse.1 hc)
  have ht : rest.takeWhile Decimal.isDigit = [] ∧ rest.dropWhile Decimal.isDigit = rest := by
    cases rest with
    | nil => simp
    | cons c cs => simp [hr c (by simp)]
  simp [splitNumber?, Decimal.splitDigits, List.takeWhile_append_of_pos hd',
    List.dropWhile_append_of_pos hd', ht, hne]

theorem dropWord?_append (word : String) (rest : List Char) :
    dropWord? word (word.toList.reverse ++ rest) = some rest := by
  unfold dropWord?
  induction word.toList.reverse with
  | nil => rfl
  | cons c cs ih => exact (if_pos (beq_self_eq_true c)).trans ih

/-- A position at the end of a text is found, and what stands before it is kept. -/
theorem splitPosition?_append (cs : List Char) {line column : List Char}
    (hl : line ≠ []) (hld : ∀ d ∈ line, Decimal.isDigit d = true)
    (hc : column ≠ []) (hcd : ∀ d ∈ column, Decimal.isDigit d = true) :
    splitPosition? (cs ++ " at line ".toList ++ line ++ " column ".toList ++ column) =
      some (cs, { line := Decimal.value line, column := Decimal.value column }) := by
  simp only [splitPosition?, List.reverse_append, List.append_assoc]
  rw [splitNumber?_append hc hcd (by simp [Decimal.isDigit])]
  simp only [Option.bind_eq_bind, Option.bind_some, dropWord?_append]
  rw [splitNumber?_append hl hld (by simp [Decimal.isDigit])]
  simp only [Option.bind_some, dropWord?_append, List.reverse_reverse, pure]

end CharacterSheet.Text
