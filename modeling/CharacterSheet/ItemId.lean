/-!
# Item ids

Every item on a sheet has a number of its own. Zero is the number of an item that has
not been added to a sheet yet.

Numbers are counted up from one and have no bound here. Where they are words of 32 bits,
the laws on ids are to be read for sheets that have given fewer than `2 ^ 32` of them.
-/

namespace CharacterSheet

/-- The number of an item, below `2 ^ 32` on any sheet that the laws on ids are meant for. -/
structure ItemId where
  number : Nat := 0
deriving DecidableEq, Repr, Inhabited

namespace ItemId

/-- The id as messages write it. -/
def text (id : ItemId) : String := "#" ++ toString id.number

end ItemId

end CharacterSheet
