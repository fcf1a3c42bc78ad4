import CharacterSheet.Criteria

/-!
# Conditions on lists of texts

A condition on a list asks for all of its texts if the comparison is negated and for one of them
otherwise, and a list without texts is judged as the empty text. So a condition is about the texts
that it judges: a negated comparison holds for all of them exactly when the comparison that it
negates holds for none, and what it says depends neither on their order nor on how often each of
them is listed, `StringCriteria.acceptsList_negated`.
-/

namespace CharacterSheet

/-! ### Comparisons and their negations -/

namespace StringCompare

/-- A comparison and the one that it negates. -/
inductive Negates : StringCompare → StringCompare → Prop
  | isNot : Negates .isNot .is
  | doesNotContain : Negates .doesNotContain .contains
  | doesNotStartWith : Negates .doesNotStartWith .startsWith
  | doesNotEndWith : Negates .doesNotEndWith .endsWith

variable {c negated positive : StringCompare}

/-- The comparisons that ask for all texts of a list are those that negate another. -/
theorem isNegated_iff : c.isNegated = true ↔ ∃ positive, c.Negates positive := by
  constructor
  · intro h
    cases c with
    | isNot => exact ⟨_, .isNot⟩
    | doesNotContain => exact ⟨_, .doesNotContain⟩
    | doesNotStartWith => exact ⟨_, .doesNotStartWith⟩
    | doesNotEndWith => exact ⟨_, .doesNotEndWith⟩
    | _ => exact absurd h (by decide)
  · rintro ⟨positive, h⟩
    cases h <;> rfl

/-- What is negated is itself no negation. -/
theorem Negates.isNegated_positive (h : negated.Negates positive) :
    positive.isNegated = false := by
  cases h <;> rfl

theorem Negates.holds_eq (h : negated.Negates positive) (value qualifier : List Char) :
    negated.holds value qualifier = !positive.holds value qualifier := by
  cases h <;> rfl

end StringCompare

/-! ### Lists -/

namespace StringCriteria

open StringCompare (Negates)

variable {c : StringCriteria} {negated positive : StringCompare} {values others : List String}
  {v : String}

/-- The texts that a condition on a list is about. -/
def judged (values : List String) : List String :=
  if values.isEmpty then [""] else values

theorem mem_judged : v ∈ judged values ↔ v ∈ values ∨ values = [] ∧ v = "" := by
  cases values <;> simp [judged]

/-- Lists of the same texts are judged by the same texts. -/
theorem mem_judged_congr (h : ∀ v, v ∈ values ↔ v ∈ others) :
    v ∈ judged values ↔ v ∈ judged others := by
  simp only [mem_judged, List.eq_nil_iff_forall_not_mem, h]

theorem acceptsList_eq (c : StringCriteria) (values : List String) :
    c.acceptsList values =
      if c.compare.isNegated then (judged values).all c.accepts
      else (judged values).any c.accepts := by
  cases values with
  | nil => simp [acceptsList, judged]
  | cons v rest => rfl

/-- A negated condition is met by all texts of the list. -/
theorem acceptsList_iff_forall (h : c.compare.isNegated = true) :
    c.acceptsList values = true ↔ ∀ v ∈ judged values, c.accepts v = true := by
  rw [acceptsList_eq, if_pos h, List.all_eq_true]

/-- Any other condition is met by one of them. -/
theorem acceptsList_iff_exists (h : c.compare.isNegated = false) :
    c.acceptsList values = true ↔ ∃ v ∈ judged values, c.accepts v = true := by
  rw [acceptsList_eq, if_neg (by simp [h]), List.any_eq_true]

/-- A text meets a negated condition exactly when it does not meet the other. -/
theorem accepts_negated (h : negated.Negates positive) (qualifier v : String) :
    accepts ⟨negated, qualifier⟩ v = !accepts ⟨positive, qualifier⟩ v :=
  h.holds_eq _ _

/-- Lists of the same texts meet the same conditions. -/
theorem acceptsList_congr_mem (c : StringCriteria) (h : ∀ v, v ∈ values ↔ v ∈ others) :
    c.acceptsList values = c.acceptsList others := by
  have hjudged (v : String) : v ∈ judged values ↔ v ∈ judged others := mem_judged_congr h
  rw [Bool.eq_iff_iff]
  cases hnegated : c.compare.isNegated with
  | true =>
      rw [acceptsList_iff_forall hnegated, acceptsList_iff_forall hnegated]
      simp only [hjudged]
  | false =>
      rw [acceptsList_iff_exists hnegated, acceptsList_iff_exists hnegated]
      simp only [hjudged]

/-- **Negated conditions on lists.** A list meets a negated comparison with a qualifier exactly when
it does not meet the comparison that is negated, with or without texts in it. Lists of the same texts
meet the same conditions, in whatever order and however often the texts are listed. -/
theorem acceptsList_negated (qualifier : String) (values : List String) :
    (∀ {negated positive : StringCompare}, negated.Negates positive →
      (acceptsList ⟨negated, qualifier⟩ values = true ↔
        ¬ acceptsList ⟨positive, qualifier⟩ values = true)) ∧
    ∀ (compare : StringCompare) {others : List String}, (∀ v, v ∈ others ↔ v ∈ values) →
      acceptsList ⟨compare, qualifier⟩ others = acceptsList ⟨compare, qualifier⟩ values := by
  refine ⟨fun {negated positive} h => ?_, fun compare _ hsame => acceptsList_congr_mem _ hsame⟩
  have hnegated : negated.isNegated = true := StringCompare.isNegated_iff.2 ⟨positive, h⟩
  calc acceptsList ⟨negated, qualifier⟩ values = true
      ↔ ∀ v ∈ judged values, accepts ⟨negated, qualifier⟩ v = true :=
        acceptsList_iff_forall hnegated
    _ ↔ ∀ v ∈ judged values, ¬ accepts ⟨positive, qualifier⟩ v = true := by
        simp [accepts_negated h]
    _ ↔ ¬ ∃ v ∈ judged values, accepts ⟨positive, qualifier⟩ v = true := by simp
    _ ↔ ¬ acceptsList ⟨positive, qualifier⟩ values = true := by
        rw [acceptsList_iff_exists h.isNegated_positive]

/-- One tag of a sword ends in `word`, so the negated comparison refuses the tags, also in another
order and with that tag twice. -/
theorem swordTags_acceptsList_negated :
    (Negates .doesNotEndWith .endsWith ∧
      (acceptsList ⟨.doesNotEndWith, "WORD"⟩ ["Melee", "Sword"] = true ↔
        ¬ acceptsList ⟨.endsWith, "WORD"⟩ ["Melee", "Sword"] = true) ∧
      acceptsList ⟨.endsWith, "WORD"⟩ ["Melee", "Sword"] = true) ∧
    (∀ v, v ∈ ["Sword", "Melee", "Sword"] ↔ v ∈ ["Melee", "Sword"]) ∧
      acceptsList ⟨.doesNotEndWith, "WORD"⟩ ["Sword", "Melee", "Sword"] =
        acceptsList ⟨.doesNotEndWith, "WORD"⟩ ["Melee", "Sword"] := by
  obtain ⟨hcomplement, hcongr⟩ := acceptsList_negated "WORD" ["Melee", "Sword"]
  have hsame : ∀ v, v ∈ ["Sword", "Melee", "Sword"] ↔ v ∈ ["Melee", "Sword"] := by
    intro v
    simp only [List.mem_cons, List.not_mem_nil, or_false]
    grind
  exact ⟨⟨.doesNotEndWith, hcomplement .doesNotEndWith, by decide +kernel⟩, hsame,
    hcongr .doesNotEndWith hsame⟩

end StringCriteria

end CharacterSheet
