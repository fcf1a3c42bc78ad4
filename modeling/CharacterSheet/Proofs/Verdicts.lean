import CharacterSheet.Proofs.Recalculation

/-!
# Verdicts and explanations

Evaluating a tree of prerequisites counts members that are met and writes to a tooltip on
the way. What comes out is simpler: the verdict is the Boolean reading of the tree,
`Prereq.holds`, and what is written is a text that depends on the tree and the sheet only,
`Prereq.explanation`; `evaluate_eq` puts the two together.
-/

namespace CharacterSheet

namespace Prereq

/-- Whether a list applies at the tech level of a sheet. -/
def applies (s : Sheet) (whenTl : NumericCriteria) : Bool :=
  whenTl.isAny || whenTl.accepts s.techLevelValue

mutual

/-- The Boolean reading of a tree. A leaf is met if its condition holds as it says; a list that does
not apply is met, and of a list that asks for one member, one must be met if there are any. -/
def holds (s : Sheet) (excluded : Option ItemId) : Prereq → Bool
  | leaf r => r.holds s excluded == r.has
  | list all whenTl members =>
    !applies s whenTl ||
      (if all then allHold s excluded members
      else members.isEmpty || someHolds s excluded members)
termination_by structural p => p

def allHold (s : Sheet) (excluded : Option ItemId) : List Prereq → Bool
  | [] => true
  | p :: rest => holds s excluded p && allHold s excluded rest
termination_by structural ps => ps

def someHolds (s : Sheet) (excluded : Option ItemId) : List Prereq → Bool
  | [] => false
  | p :: rest => holds s excluded p || someHolds s excluded rest
termination_by structural ps => ps

end

mutual

/-- Why a tree is not met: a line for its root, and below a list those for its members that
are not met. -/
def explanation (s : Sheet) (excluded : Option ItemId) : (p : Prereq) → (lead : String) → String
  | leaf r, lead => lead ++ r.line s
  | list all _ members, lead =>
    lead ++ heading all ++ memberExplanations s excluded members (indent lead)
termination_by structural p => p

def memberExplanations (s : Sheet) (excluded : Option ItemId) :
    (ps : List Prereq) → (lead : String) → String
  | [], _ => ""
  | p :: rest, lead =>
    (if holds s excluded p then "" else explanation s excluded p lead) ++
      memberExplanations s excluded rest lead
termination_by structural ps => ps

end

/-! ### The verdict of a list -/

theorem allHold_eq (s : Sheet) (excluded : Option ItemId) (ps : List Prereq) :
    allHold s excluded ps = ps.all (holds s excluded) := by
  induction ps with
  | nil => rfl
  | cons p rest ih => rw [allHold, ih, List.all_cons]

theorem someHolds_eq (s : Sheet) (excluded : Option ItemId) (ps : List Prereq) :
    someHolds s excluded ps = ps.any (holds s excluded) := by
  induction ps with
  | nil => rfl
  | cons p rest ih => rw [someHolds, ih, List.any_cons]

/-- Counting the members that are met decides a list. -/
theorem count_decides (s : Sheet) (excluded : Option ItemId) (all : Bool)
    (members : List Prereq) :
    (members.countP (holds s excluded) == members.length ||
        (!all && 0 < members.countP (holds s excluded))) =
      (if all then allHold s excluded members
      else members.isEmpty || someHolds s excluded members) := by
  rw [allHold_eq, someHolds_eq, Bool.eq_iff_iff]
  cases all with
  | true => simp [List.countP_eq_length]
  | false =>
      cases members with
      | nil => simp
      | cons p rest =>
          have hpos : 0 < (p :: rest).countP (holds s excluded) ↔
              (p :: rest).any (holds s excluded) = true := by
            rw [List.countP_pos_iff, List.any_eq_true]
          simp only [Bool.or_eq_true, beq_iff_eq, Bool.not_false, Bool.true_and,
            decide_eq_true_eq, hpos, List.isEmpty_cons, Bool.false_eq_true, if_false, false_or]
          constructor
          · rintro (hall | hsome)
            · exact hpos.1 (hall ▸ Nat.succ_pos _)
            · exact hsome
          · exact .inr

/-! ### Evaluation -/

mutual

/-- Evaluation gives the verdict, and writes the explanation of a tree that is not met at
the end of the tooltip. -/
theorem evaluate_eq (s : Sheet) (excluded : Option ItemId) :
    ∀ (p : Prereq) (tooltip : Option String) (lead : String),
      p.evaluate s excluded tooltip lead =
        (p.holds s excluded,
          if p.holds s excluded then tooltip
          else tooltip.map (· ++ p.explanation s excluded lead))
  | leaf r, tooltip, lead => by
      rw [evaluate, holds, explanation, Requirement.isMet]
      cases r.holds s excluded == r.has with
      | true => rfl
      | false => rfl
  | list all whenTl members, tooltip, lead => by
      have hmembers := evaluateMembers_eq s excluded members (tooltip.map fun _ => "")
        (indent lead)
      have happlies : (!whenTl.isAny && !whenTl.accepts s.techLevelValue) =
          !applies s whenTl := by
        rw [applies, Bool.not_or]
      rw [evaluate, holds, explanation, happlies, hmembers, ← count_decides]
      dsimp only
      -- Whether the list is met matters from here, and not how the count says so.
      generalize (members.countP (holds s excluded) == members.length ||
        (!all && decide (0 < members.countP (holds s excluded)))) = met
      cases applies s whenTl with
      | false => rfl
      | true => cases met <;> cases tooltip <;> simp [String.append_assoc]

/-- Of the members, those that are met are counted and the others explained. -/
theorem evaluateMembers_eq (s : Sheet) (excluded : Option ItemId) :
    ∀ (ps : List Prereq) (tooltip : Option String) (lead : String),
      evaluateMembers s excluded ps tooltip lead =
        (ps.countP (holds s excluded),
          tooltip.map (· ++ memberExplanations s excluded ps lead))
  | [], tooltip, lead => by
      simp [evaluateMembers, memberExplanations]
  | p :: rest, tooltip, lead => by
      rw [evaluateMembers, evaluate_eq s excluded p]
      dsimp only
      rw [evaluateMembers_eq s excluded rest, List.countP_cons, memberExplanations]
      by_cases h : p.holds s excluded = true
      · simp [h, Nat.add_comm]
      · cases tooltip <;> simp [h, String.append_assoc]

end

end Prereq

/-! ### What trees depend on -/

/-- On two sheets, each with an item excluded, every requirement is met or not met alike and has the
same line, and the tech level is the same. -/
structure Sheet.AgreesOnRequirements (s : Sheet) (excluded : Option ItemId) (t : Sheet)
    (excluded' : Option ItemId) : Prop where
  isMet : ∀ r : Requirement, r.isMet s excluded = r.isMet t excluded'
  line : ∀ r : Requirement, r.line s = r.line t
  techLevelValue : s.techLevelValue = t.techLevelValue

namespace Prereq

variable {s t : Sheet} {excluded excluded' : Option ItemId}

mutual

/-- Trees depend on the requirements at their leaves and on the tech level only. -/
theorem evaluate_congr (h : s.AgreesOnRequirements excluded t excluded') :
    ∀ (p : Prereq) (tooltip : Option String) (lead : String),
      p.evaluate s excluded tooltip lead = p.evaluate t excluded' tooltip lead
  | leaf r, tooltip, lead => by rw [evaluate, evaluate, h.isMet, h.line]
  | list all whenTl members, tooltip, lead => by
      rw [evaluate, evaluate, h.techLevelValue, evaluateMembers_congr h members]

theorem evaluateMembers_congr (h : s.AgreesOnRequirements excluded t excluded') :
    ∀ (ps : List Prereq) (tooltip : Option String) (lead : String),
      evaluateMembers s excluded ps tooltip lead = evaluateMembers t excluded' ps tooltip lead
  | [], _, _ => rfl
  | p :: rest, tooltip, lead => by
      rw [evaluateMembers, evaluateMembers, evaluate_congr h p]
      simp only [evaluateMembers_congr h rest]

end

end Prereq

/-! ### Prerequisites do not look at each other -/

open ItemMap (forgetPrereqs keepsNames_forgetPrereqs)

theorem Sheet.containerHolds_forgetPrereqs (s : Sheet) (container : Option ItemId)
    {p : Equipment → Bool} (hp : ∀ e, p (e.mapGear forgetPrereqs.gear) = p e) :
    (s.mapItems forgetPrereqs).containerHolds container p = s.containerHolds container p := by
  cases container with
  | none => rfl
  | some id =>
      simp only [containerHolds, Option.bind_some,
        equipment?_mapItems keepsNames_forgetPrereqs]
      cases s.equipment? id with
      | none => rfl
      | some e => simp [Equipment.isContainer, hp]

theorem SpellRequirement.count_forgetPrereqs (r : SpellRequirement) (s : Sheet)
    (excluded : Option ItemId) :
    r.count (s.mapItems forgetPrereqs) excluded = r.count s excluded := by
  simp only [count, Sheet.mapItems, List.filter_map]
  cases r.comparison with
  | name | tag | college =>
      simp only [List.countP_map]
      rfl
  | collegeCount =>
      simp only [List.flatMap_map]
      rfl
  | any => exact List.length_map _

namespace Requirement

/-- Whether a requirement is met does not depend on the prerequisites of items. -/
theorem isMet_forgetPrereqs (r : Requirement) (s : Sheet) (excluded : Option ItemId) :
    r.isMet (s.mapItems forgetPrereqs) excluded = r.isMet s excluded := by
  refine congrArg (· == r.has) ?_
  cases r with
  | ofTrait r =>
      simp only [holds, TraitRequirement.holds, Sheet.mapItems, List.any_map]
      rfl
  | ofAttribute r =>
      simp only [holds, AttributeRequirement.holds,
        Sheet.attributeCurrent_mapItems keepsNames_forgetPrereqs]
  | ofQuantity r =>
      refine s.containerHolds_forgetPrereqs excluded fun e => ?_
      simp only [Equipment.mapGear_children, List.map_map]
      congr 3
      funext e
      simp [forgetPrereqs]
  | ofWeight r =>
      refine s.containerHolds_forgetPrereqs excluded fun e => ?_
      rw [WeightRequirement.containedWeight, WeightRequirement.containedWeight,
        Equipment.extendedWeight_mapGear (f := forgetPrereqs.gear) fun _ => rfl]
      simp [forgetPrereqs]
  | ofSkill r =>
      simp only [holds, SkillRequirement.holds, Sheet.mapItems, List.any_map]
      rfl
  | ofSpell r =>
      simp only [holds, SpellRequirement.holds, r.count_forgetPrereqs]
  | ofEquipped r =>
      simp only [holds, EquippedRequirement.holds, Sheet.pieces_mapItems, List.any_map]
      congr 1
      funext e
      simp [forgetPrereqs, Equipment.displayName]

end Requirement

namespace Prereq

theorem evaluate_forgetPrereqs (s : Sheet) (excluded : Option ItemId) (p : Prereq)
    (tooltip : Option String) (lead : String) :
    p.evaluate (s.mapItems forgetPrereqs) excluded tooltip lead =
      p.evaluate s excluded tooltip lead := by
  refine evaluate_congr ⟨fun r => r.isMet_forgetPrereqs s excluded, fun r => ?_, rfl⟩ p tooltip lead
  cases r <;> rfl

end Prereq

namespace Sheet

/-- The reason that a tree gives does not depend on the prerequisites of items. -/
theorem unsatisfiedReason_forgetPrereqs (s : Sheet) :
    (s.mapItems forgetPrereqs).unsatisfiedReason = s.unsatisfiedReason := by
  funext prereqs id
  simp only [unsatisfiedReason, PrereqList.evaluate, Prereq.evaluate_forgetPrereqs]

/-- A tree that is met gives no reason, and one that is not met its explanation. -/
theorem unsatisfiedReason_some (s : Sheet) (l : PrereqList) (id : ItemId) :
    s.unsatisfiedReason (some l) id =
      if l.toPrereq.holds s (some id) then none
      else some (l.toPrereq.explanation s (some id) explanationLead) := by
  rw [unsatisfiedReason, Option.bind_some, PrereqList.evaluate, Prereq.evaluate_eq]
  by_cases h : l.toPrereq.holds s (some id) = true
  · simp [h]
  · simp [h]

/-- The item with an id has the id. -/
theorem id_of_item? {s : Sheet} {id : ItemId} {x : Item} (h : s.item? id = some x) :
    x.id = id := by
  simp only [item?, Option.orElse_eq_orElse, Option.orElse_eq_or, Option.or_eq_some_iff,
    Option.map_eq_some_iff] at h
  rcases h with ⟨t, ht, rfl⟩ | ⟨-, ⟨k, hk, rfl⟩ | ⟨-, ⟨p, hp, rfl⟩ | ⟨-, e, he, rfl⟩⟩⟩
  · exact beq_iff_eq.1 (List.find?_some (p := fun t : Trait => t.id == id) ht)
  · exact beq_iff_eq.1 (List.find?_some (p := fun k : Skill => k.id == id) hk)
  · exact beq_iff_eq.1 (List.find?_some (p := fun p : Spell => p.id == id) hp)
  · exact beq_iff_eq.1 (List.find?_some (p := fun e : Equipment => e.id == id) he)

/-- Recalculated reasons are those of the sheet with its levels. -/
theorem unsatisfiedReason_recalculate_eq (s : Sheet) :
    s.recalculate.unsatisfiedReason = s.leveled.unsatisfiedReason := by
  rw [← unsatisfiedReason_forgetPrereqs s.recalculate, recalculate_eq,
    updateReasons_forgetPrereqs, unsatisfiedReason_forgetPrereqs]

/-- Sheets that differ in prerequisites only judge trees alike. -/
theorem unsatisfiedReason_recalculate_congr {s t : Sheet}
    (h : s.mapItems forgetPrereqs = t.mapItems forgetPrereqs) :
    s.recalculate.unsatisfiedReason = t.recalculate.unsatisfiedReason := by
  rw [unsatisfiedReason_recalculate_eq, unsatisfiedReason_recalculate_eq,
    ← unsatisfiedReason_forgetPrereqs s.leveled, ← unsatisfiedReason_forgetPrereqs t.leveled,
    ← leveled_forgetPrereqs, ← leveled_forgetPrereqs, h]

/-- **Every item gets its own reason**: what its prerequisites give on the recalculated sheet,
if pieces of equipment have ids of their own. -/
theorem reasonOf_recalculate {s : Sheet} (h : s.DistinctPieces) {id : ItemId} {x : Item}
    (hx : s.item? id = some x) :
    s.recalculate.reasonOf id = s.recalculate.unsatisfiedReason x.prereqs id := by
  have hdistinct : s.leveled.DistinctPieces :=
    (distinctPieces_mapItems (ItemMap.keepsNames_levels s.gatherBonuses)).2 h
  have hitem : s.recalculate.item? id = some
      ((ItemMap.reasons s.leveled).item ((ItemMap.levels s.gatherBonuses).item x)) := by
    rw [recalculate_eq, updateReasons_eq hdistinct,
      item?_mapItems (ItemMap.keepsNames_reasons s.leveled), leveled,
      item?_mapItems (ItemMap.keepsNames_levels s.gatherBonuses)]
    rw [show s.gatherBonuses.item? id = some x from hx]
    rfl
  have hid : ((ItemMap.levels s.gatherBonuses).item x).id = id :=
    ((ItemMap.keepsNames_levels s.gatherBonuses).id_item x).trans (id_of_item? hx)
  rw [reasonOf, hitem, Option.bind_some, unsatisfiedReason_recalculate_eq, ← hid]
  rcases x with _ | _ | _ | ⟨gear, children⟩ <;> rfl

end Sheet

end CharacterSheet
