import CharacterSheet.Digest.Source

/-!
# Amounts

The amount of a bonus is a fixed number, or a number for each level of the item that
grants it.
-/

namespace CharacterSheet

/-- An amount at the level of the item that grants it. The level belongs to a character
and is no source content. -/
structure Amount where
  level : Fixed := 0
  amount : Fixed := 1
  perLevel : Bool := false
deriving DecidableEq, Repr, Inhabited

namespace Amount

/-- An amount that does not depend on the level. -/
def flat (amount : Fixed) : Amount := { amount }

/-- An amount for each level. -/
def each (amount : Fixed) : Amount := { amount, perLevel := true }

/-- The amount at the level; a negative level gives nothing. -/
def adjusted (a : Amount) : Fixed :=
  if !a.perLevel then a.amount
  else if a.level < 0 then 0
  else a.amount * a.level

/-- The amount in words, where `what` names a level. -/
def format (a : Amount) (percentage : Bool) (what : String) : String :=
  let unit := if percentage then "%" else ""
  let amount := a.amount.signedText ++ unit
  if a.perLevel then
    a.adjusted.signedText ++ unit ++ " (" ++ amount ++ " per " ++ what ++ ")"
  else amount

/-- The amount in words, for levels. -/
def formatWithLevel (a : Amount) (percentage : Bool) : String := a.format percentage "level"

instance : SourceContent Amount where
  bytes a := SourceContent.bytes a.amount ++ SourceContent.bytes a.perLevel

end Amount

end CharacterSheet
