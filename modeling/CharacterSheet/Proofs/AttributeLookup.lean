import CharacterSheet.Proofs.BonusTable

/-!
# Lookup of bonuses to attributes

The key of a bonus to an attribute is the id of the attribute with the limitation written
behind it. Ids are free texts, so an id may itself end like a limitation: then the bonuses to
the shorter id under that limitation and those to the longer id without one share a key.

This module says which keys are the same, `forAttribute_eq_iff`, and which bonuses a query for
an attribute therefore counts, `attributeBonuses_ofList`.
-/

namespace CharacterSheet

namespace AttributeLimitation

/-- What a limitation adds to the key of an attribute. -/
def ending : AttributeLimitation → String
  | none => ""
  | limitation => "." ++ limitation.key

/-- Texts that end with limitations end with one only. -/
theorem eq_of_append_ending_eq {a b : String} {l m : AttributeLimitation} (hl : l ≠ none)
    (hm : m ≠ none) (h : a ++ l.ending = b ++ m.ending) : l = m := by
  -- The endings differ where the words before `_only` end, so they are read from there.
  have hreverse : l.ending.toList.reverse ++ a.toList.reverse =
      m.ending.toList.reverse ++ b.toList.reverse := by
    rw [← List.reverse_append, ← List.reverse_append, ← String.toList_append,
      ← String.toList_append, h]
  clear h
  cases l <;> cases m <;> simp_all [ending, key]

end AttributeLimitation

namespace BonusKey

theorem forAttribute_eq (id : String) (limitation : AttributeLimitation) :
    forAttribute id limitation = "attr." ++ (normalize id ++ limitation.ending) := by
  cases limitation <;> simp [forAttribute, AttributeLimitation.ending, String.append_assoc]

/-- **Which keys of attributes are the same**: those of one id under one limitation, and the key
of an id under a limitation and that of an id with this limitation written behind it. -/
theorem forAttribute_eq_iff {a b : String} {l m : AttributeLimitation} :
    forAttribute a l = forAttribute b m ↔
      (normalize a = normalize b ∧ l = m) ∨
        (l = .none ∧ m ≠ .none ∧ normalize a = normalize b ++ m.ending) ∨
        (m = .none ∧ l ≠ .none ∧ normalize b = normalize a ++ l.ending) := by
  rw [forAttribute_eq, forAttribute_eq, String.append_right_inj]
  constructor
  · intro h
    by_cases hl : l = .none
    · by_cases hm : m = .none
      · subst hl hm
        exact .inl ⟨(String.append_left_inj _).1 h, rfl⟩
      · subst hl
        exact .inr (.inl ⟨rfl, hm, String.append_empty.symm.trans h⟩)
    · by_cases hm : m = .none
      · subst hm
        exact .inr (.inr ⟨rfl, hl, String.append_empty.symm.trans h.symm⟩)
      · obtain rfl := AttributeLimitation.eq_of_append_ending_eq hl hm h
        exact .inl ⟨(String.append_left_inj _).1 h, rfl⟩
  · rintro (⟨h, rfl⟩ | ⟨rfl, -, h⟩ | ⟨rfl, -, h⟩)
    · rw [h]
    · rw [h]
      exact String.append_empty
    · rw [h]
      exact String.append_empty.symm

end BonusKey

namespace Bonus

/-- Whether a bonus is one to an attribute under a limitation. -/
def isToAttribute (id : String) (limitation : AttributeLimitation) (b : Bonus) : Bool :=
  match b.feature with
  | .attributeBonus a =>
    BonusKey.normalize a.attributeId == BonusKey.normalize id && a.limitation == limitation
  | _ => false

/-- Whether a bonus is one to an attribute whose id is the given one with the limitation written
behind it, or is limited so that the given id is its own with the limitation behind it. -/
def sharesKeyOf (id : String) (limitation : AttributeLimitation) (b : Bonus) : Bool :=
  match b.feature with
  | .attributeBonus a =>
    (a.limitation == .none && limitation != .none &&
        BonusKey.normalize a.attributeId == BonusKey.normalize id ++ limitation.ending) ||
      (limitation == .none && a.limitation != .none &&
        BonusKey.normalize id == BonusKey.normalize a.attributeId ++ a.limitation.ending)
  | _ => false

/-- No bonus is one to an attribute under a limitation and to another one that shares the
key. -/
theorem isToAttribute_of_sharesKeyOf {id : String} {limitation : AttributeLimitation} {b : Bonus}
    (h : b.sharesKeyOf id limitation = true) : b.isToAttribute id limitation = false := by
  unfold sharesKeyOf at h
  unfold isToAttribute
  cases hf : b.feature with
  | attributeBonus a =>
      have hne : a.limitation ≠ limitation := by
        rintro rfl
        simp [hf] at h
      simp [hne]
  | _ => rfl

end Bonus

namespace BonusTable

/-- A query for an attribute finds the bonuses to the attribute and those that share its key, in
the order in which they were filed. -/
theorem attributeBonuses_eq_filter (bs : List Bonus) (id : String)
    (limitation : AttributeLimitation) :
    (ofList bs).attributeBonuses id limitation =
      bs.filter fun b => b.isToAttribute id limitation || b.sharesKeyOf id limitation := by
  rw [attributeBonuses, bucket_ofList, List.filter_filter]
  refine List.filter_congr fun b _ => ?_
  unfold Bonus.isToAttribute Bonus.sharesKeyOf
  cases hf : b.feature with
  | attributeBonus a =>
      simp only [Feature.key, Bool.true_and]
      rw [Bool.eq_iff_iff, beq_iff_eq, BonusKey.forAttribute_eq_iff]
      simp only [Bool.or_eq_true, Bool.and_eq_true, beq_iff_eq, bne_iff_ne, and_assoc]
  | _ => rfl

/-- **What a query for an attribute counts**: the bonuses to the attribute under the limitation,
and those that share their key. It counts the former only, each once, exactly if none of the
latter is in the table. -/
theorem attributeBonuses_ofList (bs : List Bonus) (id : String)
    (limitation : AttributeLimitation) :
    (((ofList bs).attributeBonuses id limitation).Perm
        (bs.filter (Bonus.isToAttribute id limitation)) ↔
      ∀ b ∈ bs, b.sharesKeyOf id limitation = false) ∧
    (ofList bs).attributeBonuses id limitation =
      (bs.filter fun b => b.isToAttribute id limitation || b.sharesKeyOf id limitation) ∧
    ∀ (s : Sheet) (tooltip : Option String),
      (s.bonusTotal ((ofList bs).attributeBonuses id limitation) tooltip).1 =
        Fixed.sum ((bs.filter fun b =>
          b.isToAttribute id limitation || b.sharesKeyOf id limitation).map Bonus.amount) := by
  have hfilter := attributeBonuses_eq_filter bs id limitation
  refine ⟨?_, hfilter, fun s tooltip => ?_⟩
  · rw [hfilter, filter_perm_filter_iff]
    refine forall₂_congr fun b _ => ?_
    cases hshares : b.sharesKeyOf id limitation with
    | false => simp
    | true => simp [Bonus.isToAttribute_of_sharesKeyOf hshares]
  · rw [Sheet.bonusTotal, Bonus.total_fst, hfilter]

/-- A bonus of one to an attribute with a limitation written behind its id. -/
def liftingNameBonus : Bonus := ⟨⟨1⟩, .attributeBonus { attributeId := "st.lifting_only" }⟩

/-- A query for another attribute under the limitation counts the bonus. -/
theorem liftingNameBonus_counted :
    [liftingNameBonus].filter (Bonus.isToAttribute "st" .liftingOnly) = [] ∧
      (ofList [liftingNameBonus]).attributeBonuses "st" .liftingOnly = [liftingNameBonus] := by
  decide

end BonusTable

end CharacterSheet
