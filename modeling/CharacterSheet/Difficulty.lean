import CharacterSheet.BonusKey

/-!
# Difficulties

A skill or spell is based on an attribute and has one of four levels of difficulty.
Together they say how far points raise it above or leave it below the attribute.
-/

namespace CharacterSheet

/-- How hard a skill or spell is to learn. -/
inductive DifficultyLevel where
  | easy | average | hard | veryHard
deriving DecidableEq, Repr

namespace DifficultyLevel

def key : DifficultyLevel → String
  | easy => "e"
  | average => "a"
  | hard => "h"
  | veryHard => "vh"

instance : Keyword DifficultyLevel where
  all := [easy, average, hard, veryHard]
  key := key
  unknown := .value "difficulty"

/-- The level that one point gives, relative to the attribute. -/
def baseRelativeLevel : DifficultyLevel → Fixed
  | easy => 0
  | average => -1
  | hard => -2
  | veryHard => -3

end DifficultyLevel

/-- An attribute and a level of difficulty. -/
structure Difficulty where
  attributeId : String
  level : DifficultyLevel
deriving DecidableEq, Repr

namespace Difficulty

/-- The difficulty with an attribute id that may still have blanks around it or capital
letters. -/
def ofId (id : String) (level : DifficultyLevel) : Difficulty :=
  ⟨BonusKey.normalize id, level⟩

/-- The level that points give, relative to the attribute: one point gives the base
level, more than one the next, and every four points one more. Less than a point gives
none. -/
def relativeLevel (d : Difficulty) (points : Fixed) : Option Fixed :=
  let base := d.level.baseRelativeLevel
  if points < 1 then none
  else if points = 1 then some base
  else if points < 4 then some (base + 1)
  else some (base + 1 + (points / 4).trunc)

def text (d : Difficulty) : String := d.attributeId ++ "/" ++ d.level.key

/-- Reads an attribute id and a level with a slash between them. -/
def parse (text : String) : Except UnknownWord Difficulty :=
  let chars := text.toList
  match chars.dropWhile (· != '/') with
  | [] => .error (.value "difficulty" text)
  | _ :: level =>
    (Keyword.parse (String.ofList level)).map
      (ofId (String.ofList (chars.takeWhile (· != '/'))))

end Difficulty

end CharacterSheet
