import CharacterSheet.Weight
import CharacterSheet.Text.Search

/-!
# Criteria

A criterion pairs a comparison with a qualifier and says which values match. Features
select their targets by criteria, prerequisites express their conditions by them, and
every criterion describes itself in words.

Texts are compared in their lowercase form. `acceptsList` extends a text criterion to
a list, a comparison and its negation excluding each other there as well.
-/

namespace CharacterSheet

/-! ### Texts -/

/-- A way to compare texts. -/
inductive StringCompare where
  | any | is | isNot | contains | doesNotContain | startsWith | doesNotStartWith
  | endsWith | doesNotEndWith
deriving DecidableEq, Repr, Inhabited

namespace StringCompare

def key : StringCompare → String
  | any => "any"
  | is => "is"
  | isNot => "is_not"
  | contains => "contains"
  | doesNotContain => "does_not_contain"
  | startsWith => "starts_with"
  | doesNotStartWith => "does_not_start_with"
  | endsWith => "ends_with"
  | doesNotEndWith => "does_not_end_with"

instance : Keyword StringCompare where
  all := [any, is, isNot, contains, doesNotContain, startsWith, doesNotStartWith, endsWith,
    doesNotEndWith]
  key := key
  unknown := .comparison

/-- Whether the comparison is the negation of another. -/
def isNegated : StringCompare → Bool
  | isNot | doesNotContain | doesNotStartWith | doesNotEndWith => true
  | _ => false

/-- The words for a comparison. -/
def phrase : StringCompare → String
  | any => "is anything"
  | is => "is"
  | isNot => "is not"
  | contains => "contains"
  | doesNotContain => "does not contain"
  | startsWith => "starts with"
  | doesNotStartWith => "does not start with"
  | endsWith => "ends with"
  | doesNotEndWith => "does not end with"

/-- Compares the characters of a value with those of a qualifier. -/
def holds (value qualifier : List Char) : StringCompare → Bool
  | any => true
  | is => value == qualifier
  | isNot => value != qualifier
  | contains => Text.occursIn qualifier value
  | doesNotContain => !Text.occursIn qualifier value
  | startsWith => qualifier.isPrefixOf value
  | doesNotStartWith => !qualifier.isPrefixOf value
  | endsWith => qualifier.isSuffixOf value
  | doesNotEndWith => !qualifier.isSuffixOf value

end StringCompare

/-- A condition on a text. -/
structure StringCriteria where
  compare : StringCompare := .any
  qualifier : String := ""
deriving DecidableEq, Repr, Inhabited

namespace StringCriteria

/-- The condition that every text meets. -/
def any : StringCriteria := {}

/-- The condition to be a given text. -/
def is (qualifier : String) : StringCriteria := { compare := .is, qualifier }

def isAny (c : StringCriteria) : Bool := c.compare == .any

/-- Whether a text meets the condition, letter case apart. -/
def accepts (c : StringCriteria) (value : String) : Bool :=
  c.compare.holds (Text.lowercase value).toList (Text.lowercase c.qualifier).toList

/-- Whether a list of texts meets the condition: all of them if the comparison is
negated, one of them otherwise. No text at all counts as the empty text. -/
def acceptsList (c : StringCriteria) (values : List String) : Bool :=
  if values.isEmpty then c.accepts ""
  else if c.compare.isNegated then values.all c.accepts
  else values.any c.accepts

/-- The condition in words. -/
def text (c : StringCriteria) : String :=
  if c.isAny then c.compare.phrase
  else c.compare.phrase ++ " \"" ++ c.qualifier ++ "\""

end StringCriteria

/-! ### Numbers and weights -/

/-- A way to compare numbers. -/
inductive NumericCompare where
  | any | equals | notEquals | atLeast | atMost
deriving DecidableEq, Repr, Inhabited

namespace NumericCompare

def key : NumericCompare → String
  | any => "any"
  | equals => "is"
  | notEquals => "is_not"
  | atLeast => "at_least"
  | atMost => "at_most"

instance : Keyword NumericCompare where
  all := [any, equals, notEquals, atLeast, atMost]
  key := key
  unknown := .comparison

/-- The words for a comparison. -/
def phrase : NumericCompare → String
  | any => "is anything"
  | equals => "is"
  | notEquals => "is not"
  | atLeast => "at least"
  | atMost => "at most"

/-- Compares a value with a qualifier. -/
def holds (value qualifier : Fixed) : NumericCompare → Bool
  | any => true
  | equals => value == qualifier
  | notEquals => value != qualifier
  | atLeast => qualifier ≤ value
  | atMost => value ≤ qualifier

end NumericCompare

/-- A condition on a number. -/
structure NumericCriteria where
  compare : NumericCompare := .any
  qualifier : Fixed := 0
deriving DecidableEq, Repr, Inhabited

namespace NumericCriteria

/-- The condition that every number meets. -/
def any : NumericCriteria := {}

def isAny (c : NumericCriteria) : Bool := c.compare == .any

/-- Whether a number meets the condition. -/
def accepts (c : NumericCriteria) (value : Fixed) : Bool :=
  c.compare.holds value c.qualifier

/-- The condition in words. -/
def text (c : NumericCriteria) : String :=
  if c.isAny then c.compare.phrase else c.compare.phrase ++ " " ++ c.qualifier.text

end NumericCriteria

/-- A condition on a weight. -/
structure WeightCriteria where
  compare : NumericCompare := .any
  qualifier : Weight := .zero
deriving DecidableEq, Repr, Inhabited

namespace WeightCriteria

/-- Whether a weight meets the condition. -/
def accepts (c : WeightCriteria) (value : Weight) : Bool :=
  c.compare.holds value.pounds c.qualifier.pounds

/-- The condition in words, with the weight in a given unit. -/
def describe (c : WeightCriteria) (unit : WeightUnit) : String :=
  if c.compare == .any then c.compare.phrase
  else c.compare.phrase ++ " " ++ c.qualifier.format unit

/-- The condition in words, with the weight in pounds. -/
def text (c : WeightCriteria) : String := c.describe .pound

end WeightCriteria

end CharacterSheet
