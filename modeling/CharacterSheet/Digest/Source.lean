import CharacterSheet.Criteria
import CharacterSheet.Digest.Sha256

/-!
# Source content

A copy of a library item keeps the fields that its author controls, while levels,
points and chosen replacements are free to change. `SourceContent.bytes` writes the
author's fields of a value as bytes, in a fixed order, and the digest of these bytes
tells whether a copy still agrees with the item in the library.

A text is written as the number of its bytes and its bytes, a number as its
ten-thousandths, a truth value as one byte, a list as the number of its elements
and the elements, and an absent value as nothing. Numbers stand lowest byte first.
-/

namespace CharacterSheet

/-- Values that have source content. -/
class SourceContent (α : Type) where
  bytes : α → List UInt8

namespace SourceContent

/-- The lowest `width` bytes of a number, the lowest first. -/
def littleEndian : (width : Nat) → (n : Nat) → List UInt8
  | 0, _ => []
  | width + 1, n => n.toUInt8 :: littleEndian width (n / 256)

/-- The bytes of a text in UTF-8. -/
def utf8 (s : String) : List UInt8 := s.toByteArray.data.toList

instance : SourceContent String where
  bytes s := littleEndian 8 (utf8 s).length ++ utf8 s

instance : SourceContent Bool where
  bytes b := [if b then 1 else 0]

instance : SourceContent Fixed where
  bytes a := littleEndian 8 (a.raw % 0x10000000000000000).toNat

instance : SourceContent Weight where
  bytes w := bytes w.pounds

instance {α : Type} [SourceContent α] : SourceContent (Option α) where
  bytes
    | none => []
    | some a => bytes a

instance {α : Type} [SourceContent α] : SourceContent (List α) where
  bytes as := littleEndian 4 as.length ++ as.flatMap bytes

instance : SourceContent StringCriteria where
  bytes c := bytes c.compare.key ++ bytes c.qualifier

instance : SourceContent NumericCriteria where
  bytes c := bytes c.compare.key ++ bytes c.qualifier

instance : SourceContent WeightCriteria where
  bytes c := bytes c.compare.key ++ bytes c.qualifier

/-- The digest of the source content of a value. -/
def digest {α : Type} [SourceContent α] (a : α) : Digest := Sha256.digest (bytes a)

end SourceContent

end CharacterSheet
