import CharacterSheet.Document.Feature
import CharacterSheet.Document.Prereq
import CharacterSheet.Proofs.DocumentLaws

/-!
# Documents of rules

Criteria, features and prerequisites are read back from their documents. Each is a record with a
proof that follows its fields in the order in which they are read; a feature or a requirement is
told by its kind, and a tree of prerequisites by the room that its document takes.
-/

namespace CharacterSheet.Document

open Measured (measures)

/-! ### Criteria -/

instance : Measured StringCriteria := ⟨fun _ => []⟩
instance : Unmeasured StringCriteria := ⟨fun _ => rfl⟩

instance : LawfulDocument StringCriteria where
  rewrites := by
    refine Rewrites.record ?_
    intro r c hc _
    simp only [bind_eq_ok, pure_eq_ok] at hc
    obtain ⟨compare, hcompare, qualifier, hqualifier, rfl⟩ := hc
    -- The comparison is written even where it is the default.
    exact (rereads_member _ (kept _)).bind
      ((rereads_optional hqualifier (kept _)).bind (.pure _ _))

instance : Measured NumericCriteria := ⟨fun c => measures c.qualifier⟩

instance : LawfulDocument NumericCriteria where
  rewrites := by
    refine Rewrites.record ?_
    intro r c hc hkept
    simp only [bind_eq_ok, pure_eq_ok] at hc
    obtain ⟨compare, hcompare, qualifier, hqualifier, rfl⟩ := hc
    exact (rereads_member _ (kept _)).bind ((rereads_optional hqualifier hkept).bind (.pure _ _))

instance : Measured WeightCriteria := ⟨fun c => measures c.qualifier⟩

instance : LawfulDocument WeightCriteria where
  rewrites := by
    refine Rewrites.record ?_
    intro r c hc hkept
    simp only [bind_eq_ok, pure_eq_ok] at hc
    obtain ⟨compare, hcompare, qualifier, hqualifier, rfl⟩ := hc
    exact (rereads_member _ (kept _)).bind ((rereads_optional hqualifier hkept).bind (.pure _ _))

/-! ### Features -/

instance : ReadKeyword WeaponSelection := ⟨by rintro ⟨⟩ <;> rfl⟩
instance : ReadKeyword SkillSelection := ⟨by rintro ⟨⟩ <;> rfl⟩
instance : ReadKeyword SpellMatch := ⟨by rintro ⟨⟩ <;> rfl⟩
instance : ReadKeyword AttributeLimitation := ⟨by rintro ⟨⟩ <;> rfl⟩

/-- The level of an amount is not in its document. -/
instance : Measured Amount := ⟨fun a => measures a.amount⟩

/-- The fields of an amount are read back where they stand. -/
theorem rereads_amount {r : Record} {a : Amount} (h : readAmount r = .ok a) (ha : Kept a) :
    Rereads r.scope.room (amountFields.map Field.name) (amountMembers a) readAmount a := by
  simp only [readAmount, bind_eq_ok, pure_eq_ok] at h
  obtain ⟨amount, hamount, perLevel, hperLevel, rfl⟩ := h
  have hamount : Kept amount := ha
  rw [amountMembers, ← List.append_nil (memberUnless _ _ _)]
  exact (rereads_member _ hamount).bind ((rereads_optional hperLevel (kept _)).bind (.pure _ _))

theorem rereads_attributeBonus {r : Record} {b : AttributeBonus}
    (h : readAttributeBonus r = .ok b) (hb : Kept b.amount) :
    Rereads r.scope.room ["attribute", "limitation", "amount", "per_level"]
      (attributeBonusMembers b).flatten readAttributeBonus b := by
  simp only [readAttributeBonus, bind_eq_ok, pure_eq_ok] at h
  obtain ⟨attributeId, hid, limitation, hlimitation, amount, hamount, rfl⟩ := h
  exact (rereads_required hid (kept _)).bind <|
    (rereads_optional hlimitation (kept _)).bind <|
    (rereads_amount hamount hb).bind <| .pure _ _

theorem rereads_skillBonus {r : Record} {b : SkillBonus} (h : readSkillBonus r = .ok b)
    (hb : Kept b.amount) :
    Rereads r.scope.room ["selection_type", "name", "specialization", "tags", "amount", "per_level"]
      (skillBonusMembers b).flatten readSkillBonus b := by
  simp only [readSkillBonus, bind_eq_ok, pure_eq_ok] at h
  obtain ⟨selection, hselection, name, hname, specialization, hspecialization, tags, htags,
    amount, hamount, rfl⟩ := h
  exact (rereads_required hselection (kept _)).bind <|
    (rereads_optional hname (kept _)).bind <|
    (rereads_optional hspecialization (kept _)).bind <|
    (rereads_optional htags (kept _)).bind <|
    (rereads_amount hamount hb).bind <| .pure _ _

theorem rereads_spellBonus {r : Record} {b : SpellBonus} (h : readSpellBonus r = .ok b)
    (hb : Kept b.amount) :
    Rereads r.scope.room ["match", "name", "tags", "amount", "per_level"]
      (spellBonusMembers b).flatten readSpellBonus b := by
  simp only [readSpellBonus, bind_eq_ok, pure_eq_ok] at h
  obtain ⟨select, hselect, name, hname, tags, htags, amount, hamount, rfl⟩ := h
  exact (rereads_required hselect (kept _)).bind <|
    (rereads_optional hname (kept _)).bind <|
    (rereads_optional htags (kept _)).bind <|
    (rereads_amount hamount hb).bind <| .pure _ _

theorem rereads_weaponBonus {r : Record} {b : WeaponBonus} (h : readWeaponBonus r = .ok b)
    (hlevel : Kept b.level) (hb : Kept b.amount) :
    Rereads r.scope.room
      ["percent", "selection_type", "name", "specialization", "level", "tags", "amount",
        "per_level"]
      (weaponBonusMembers b).flatten readWeaponBonus b := by
  simp only [readWeaponBonus, bind_eq_ok, pure_eq_ok] at h
  obtain ⟨percent, hpercent, selection, hselection, name, hname, specialization, hspecialization,
    level, hread, tags, htags, amount, hamount, rfl⟩ := h
  exact (rereads_optional hpercent (kept _)).bind <|
    (rereads_required hselection (kept _)).bind <|
    (rereads_optional hname (kept _)).bind <|
    (rereads_optional hspecialization (kept _)).bind <|
    (rereads_optional hread hlevel).bind <|
    (rereads_optional htags (kept _)).bind <|
    (rereads_amount hamount hb).bind <| .pure _ _

theorem rereads_drBonus {r : Record} {b : DrBonus} (h : readDrBonus r = .ok b)
    (hb : Kept b.amount) :
    Rereads r.scope.room ["location", "specialization", "amount", "per_level"]
      (drBonusMembers b).flatten readDrBonus b := by
  simp only [readDrBonus, bind_eq_ok, pure_eq_ok] at h
  obtain ⟨location, hlocation, specialization, hspecialization, amount, hamount, rfl⟩ := h
  exact (rereads_required hlocation (kept _)).bind <|
    (rereads_optional hspecialization (kept _)).bind <|
    (rereads_amount hamount hb).bind <| .pure _ _

theorem rereads_reactionBonus {r : Record} {b : ReactionBonus} (h : readReactionBonus r = .ok b)
    (hb : Kept b.amount) :
    Rereads r.scope.room ["situation", "amount", "per_level"]
      (reactionBonusMembers b).flatten readReactionBonus b := by
  simp only [readReactionBonus, bind_eq_ok, pure_eq_ok] at h
  obtain ⟨situation, hsituation, amount, hamount, rfl⟩ := h
  exact (rereads_optional hsituation (kept _)).bind <|
    (rereads_amount hamount hb).bind <| .pure _ _

/-- The numbers of a feature are its amount and, for a weapon, the level that is compared. -/
instance : Measured Feature where
  measures
    | .weaponBonus b | .weaponDrDivisorBonus b => measures b.level ++ measures b.amount
    | f => measures f.amount

theorem readFeatureRecord_eq_ok {α : Type} {fields : List Field}
    {read : Record → Except DocumentError α} {scope : Scope} {shape : Shape} {a : α}
    (h : readFeatureRecord fields read scope shape = .ok a) :
    ∃ r : Record, r.scope = scope ∧ read r = .ok a := by
  cases shape with
  | members ms =>
    obtain ⟨r, hr, ha⟩ := bind_eq_ok.1 h
    exact ⟨r, ofShape_scope hr, ha⟩
  | elements js => cases h

/-- The fields of a feature are read with those of its amount. -/
theorem Rereads.featureRecord {α : Type} {room : Nat} {fields : List Field}
    {ms : List (String × Json)} {read : Record → Except DocumentError α} {a : α}
    (h : Rereads room ((fields ++ amountFields).map Field.name) ms read a)
    (hfields : WellNamed (fields ++ amountFields) ∧
      "type" ∉ (fields ++ amountFields).map Field.name := by decide) :
    MembersStable (readFeatureRecord fields read) ms room a :=
  { h.membersStable hfields with read := (h.membersStable hfields).read }

theorem kind_mem_featureKinds (f : Feature) : f.kind ∈ featureKinds := by
  cases f <;> simp [Feature.kind, featureKinds]

/-- The members beside the kind of a feature are read back. -/
theorem readFeatureOf_stable {kind : String} {scope : Scope} {shape : Shape} {f : Feature}
    (h : readFeatureOf kind scope shape = .ok f) (hf : Kept f) :
    MembersStable (readFeatureOf f.kind) (featureMembers f).flatten scope.room f := by
  simp only [readFeatureOf] at h
  -- A case for each kind, in the order of `readFeatureOf`.
  split at h <;> obtain ⟨b, hb, rfl⟩ := map_eq_ok.1 h <;>
    obtain ⟨r, rfl, hread⟩ := readFeatureRecord_eq_ok hb
  · exact (rereads_attributeBonus hread hf).featureRecord.map _
  · exact (rereads_skillBonus hread hf).featureRecord.map _
  · exact (rereads_spellBonus hread hf).featureRecord.map _
  · obtain ⟨hlevel, hamount⟩ := List.forall_mem_append.1 hf
    exact (rereads_weaponBonus hread hlevel hamount).featureRecord.map _
  · obtain ⟨hlevel, hamount⟩ := List.forall_mem_append.1 hf
    exact (rereads_weaponBonus hread hlevel hamount).featureRecord.map _
  · exact (rereads_drBonus hread hf).featureRecord.map _
  · exact (rereads_reactionBonus hread hf).featureRecord.map _

instance : LawfulDocument Feature where
  rewrites scope j f h hf := by
    simp only [read, bind_eq_ok] at h
    obtain ⟨⟨kind, inner, shape⟩, htag, h⟩ := h
    obtain ⟨hroom, hinner⟩ := readTagged_eq_ok htag
    exact (hinner ▸ readFeatureOf_stable h hf).tagged hroom (kind_mem_featureKinds f)

/-! ### Requirements -/

instance : ReadKeyword SpellComparison := ⟨by rintro ⟨⟩ <;> rfl⟩

instance : Measured Requirement where
  measures
    | .ofTrait r => measures r.level
    | .ofAttribute r => measures r.qualifier
    | .ofQuantity r => measures r.qualifier
    | .ofWeight r => measures r.qualifier
    | .ofSkill r => measures r.level
    | .ofSpell r => measures r.quantity
    | .ofEquipped _ => []

theorem rereads_traitRequirement {r : Record} {q : TraitRequirement}
    (h : readTraitRequirement r = .ok q) (hq : Kept q.level) :
    Rereads r.scope.room ["has", "name", "level", "notes"]
      (requirementMembers (.ofTrait q)).flatten readTraitRequirement q := by
  simp only [readTraitRequirement, bind_eq_ok, pure_eq_ok] at h
  obtain ⟨has, hhas, name, hname, level, hlevel, notes, hnotes, rfl⟩ := h
  exact (rereads_member _ (kept _)).bind <|
    (rereads_optional hname (kept _)).bind <|
    (rereads_optional hlevel hq).bind <|
    (rereads_optional hnotes (kept _)).bind <| .pure _ _

theorem rereads_attributeRequirement {r : Record} {q : AttributeRequirement}
    (h : readAttributeRequirement r = .ok q) (hq : Kept q.qualifier) :
    Rereads r.scope.room ["has", "which", "combined_with", "qualifier"]
      (requirementMembers (.ofAttribute q)).flatten readAttributeRequirement q := by
  simp only [readAttributeRequirement, bind_eq_ok, pure_eq_ok] at h
  obtain ⟨has, hhas, which, hwhich, combinedWith, hcombined, qualifier, hqualifier, rfl⟩ := h
  exact (rereads_member _ (kept _)).bind <|
    (rereads_required hwhich (kept _)).bind <|
    (rereads_optional hcombined (kept _)).bind <|
    (rereads_optional hqualifier hq).bind <| .pure _ _

theorem rereads_quantityRequirement {r : Record} {q : QuantityRequirement}
    (h : readQuantityRequirement r = .ok q) (hq : Kept q.qualifier) :
    Rereads r.scope.room ["has", "qualifier"] (requirementMembers (.ofQuantity q)).flatten
      readQuantityRequirement q := by
  simp only [readQuantityRequirement, bind_eq_ok, pure_eq_ok] at h
  obtain ⟨has, hhas, qualifier, hqualifier, rfl⟩ := h
  exact (rereads_member _ (kept _)).bind <| (rereads_optional hqualifier hq).bind <| .pure _ _

theorem rereads_weightRequirement {r : Record} {q : WeightRequirement}
    (h : readWeightRequirement r = .ok q) (hq : Kept q.qualifier) :
    Rereads r.scope.room ["has", "qualifier"] (requirementMembers (.ofWeight q)).flatten
      readWeightRequirement q := by
  simp only [readWeightRequirement, bind_eq_ok, pure_eq_ok] at h
  obtain ⟨has, hhas, qualifier, hqualifier, rfl⟩ := h
  exact (rereads_member _ (kept _)).bind <| (rereads_optional hqualifier hq).bind <| .pure _ _

theorem rereads_skillRequirement {r : Record} {q : SkillRequirement}
    (h : readSkillRequirement r = .ok q) (hq : Kept q.level) :
    Rereads r.scope.room ["has", "name", "level", "specialization"]
      (requirementMembers (.ofSkill q)).flatten readSkillRequirement q := by
  simp only [readSkillRequirement, bind_eq_ok, pure_eq_ok] at h
  obtain ⟨has, hhas, name, hname, level, hlevel, specialization, hspecialization, rfl⟩ := h
  exact (rereads_member _ (kept _)).bind <|
    (rereads_optional hname (kept _)).bind <|
    (rereads_optional hlevel hq).bind <|
    (rereads_optional hspecialization (kept _)).bind <| .pure _ _

theorem rereads_spellRequirement {r : Record} {q : SpellRequirement}
    (h : readSpellRequirement r = .ok q) (hq : Kept q.quantity) :
    Rereads r.scope.room ["has", "sub_type", "qualifier", "quantity"]
      (requirementMembers (.ofSpell q)).flatten readSpellRequirement q := by
  simp only [readSpellRequirement, bind_eq_ok, pure_eq_ok] at h
  obtain ⟨has, hhas, comparison, hcomparison, qualifier, hqualifier, quantity, hquantity, rfl⟩ := h
  exact (rereads_member _ (kept _)).bind <|
    (rereads_member _ (kept _)).bind <|
    (rereads_optional hqualifier (kept _)).bind <|
    (rereads_optional hquantity hq).bind <| .pure _ _

theorem rereads_equippedRequirement {r : Record} {q : EquippedRequirement}
    (h : readEquippedRequirement r = .ok q) :
    Rereads r.scope.room ["name", "tags"] (requirementMembers (.ofEquipped q)).flatten
      readEquippedRequirement q := by
  simp only [readEquippedRequirement, bind_eq_ok, pure_eq_ok] at h
  obtain ⟨name, hname, tags, htags, rfl⟩ := h
  exact (rereads_optional hname (kept _)).bind <|
    (rereads_optional htags (kept _)).bind <| .pure _ _

theorem kind_mem_prereqKinds (p : Prereq) : p.kind ∈ prereqKinds := by
  rcases p with r | _
  · cases r <;> simp [Prereq.kind, Requirement.kind, prereqKinds]
  · simp [Prereq.kind, prereqKinds]

/-- The members beside the kind of a requirement are read back. -/
theorem readRequirementOf_stable {kind : String} {scope : Scope} {shape : Shape} {q : Requirement}
    (h : readRequirementOf kind scope shape = .ok q) (hq : Kept q) :
    MembersStable (readRequirementOf q.kind) (requirementMembers q).flatten scope.room q := by
  simp only [readRequirementOf] at h
  split at h <;> simp only [bind_eq_ok, pure_eq_ok] at h <;> obtain ⟨r, hr, q, hread, rfl⟩ := h <;>
    obtain rfl := ofShape_scope hr
  · exact ((rereads_traitRequirement hread hq).map _).membersStable
  · exact ((rereads_attributeRequirement hread hq).map _).membersStable
  · exact ((rereads_quantityRequirement hread hq).map _).membersStable
  · exact ((rereads_weightRequirement hread hq).map _).membersStable
  · exact ((rereads_skillRequirement hread hq).map _).membersStable
  · exact ((rereads_spellRequirement hread hq).map _).membersStable
  · exact ((rereads_equippedRequirement hread).map _).membersStable

/-! ### Prerequisites -/

mutual

/-- The numbers and weights of a tree. -/
def prereqMeasures : Prereq → List Measure
  | .leaf r => measures r
  | .list _ whenTl members => measures whenTl ++ memberMeasures members
termination_by structural p => p

def memberMeasures : List Prereq → List Measure
  | [] => []
  | p :: rest => prereqMeasures p ++ memberMeasures rest
termination_by structural ps => ps

end

instance : Measured Prereq := ⟨prereqMeasures⟩

instance : Measured PrereqList := ⟨fun l => measures l.whenTl ++ measures l.members⟩

theorem memberMeasures_eq (ps : List Prereq) : memberMeasures ps = measures ps := by
  induction ps with
  | nil => rfl
  | cons p rest ih =>
    rw [memberMeasures, ih]
    rfl

theorem writePrereqs_eq_map (ps : List Prereq) : writePrereqs ps = ps.map writePrereq := by
  induction ps with
  | nil => rfl
  | cons p rest ih => rw [writePrereqs, ih, List.map_cons]

/-- The fields of a list are read back if its members are. -/
theorem rereads_prereqList {element : Reader Prereq} (helement : Rewrites element writePrereq)
    {r : Record} {l : PrereqList} (h : readPrereqListWith element r = .ok l) (hl : Kept l) :
    Rereads r.scope.room (prereqListFields.map Field.name)
      [member "all" l.all, memberUnless .any "when_tl" l.whenTl,
        memberUnless [] "prereqs" l.members].flatten
      (readPrereqListWith element) l := by
  simp only [readPrereqListWith, bind_eq_ok, pure_eq_ok] at h
  obtain ⟨all, hall, whenTl, hwhenTl, members, hmembers, rfl⟩ := h
  obtain ⟨hkeptTl, hkeptMembers⟩ := List.forall_mem_append.1 hl
  exact (rereads_member _ (kept _)).bind <|
    (rereads_optional hwhenTl hkeptTl).bind <|
    (helement.list.rereads_optional hmembers hkeptMembers).bind <| .pure _ _

/-- Reads the members beside a kind. -/
def readPrereqOf (element : Reader Prereq) (kind : String) (scope : Scope) (shape : Shape) :
    Except DocumentError Prereq := do
  if kind == "prereq_list" then
    let r ← Record.ofShape prereqListFields scope shape
    return (← readPrereqListWith element r).toPrereq
  else return .leaf (← readRequirementOf kind scope shape)

theorem readPrereqWithin_succ (levels : Nat) :
    readPrereqWithin (levels + 1) = (fun scope j => do
      let (kind, inner, shape) ← readTagged prereqKinds scope j
      readPrereqOf (readPrereqWithin levels) kind inner shape) := rfl

/-- The members of a prerequisite beside its kind. -/
def prereqMembers : Prereq → List (List (String × Json))
  | .leaf r => requirementMembers r
  | .list all whenTl members =>
    [member "all" all, memberUnless .any "when_tl" whenTl, memberUnless [] "prereqs" members]

theorem writePrereq_eq (p : Prereq) :
    writePrereq p = ofMembers (member "type" p.kind :: prereqMembers p) := by
  cases p with
  | leaf r => rfl
  | list all whenTl members =>
    rw [writePrereq, writePrereqs_eq_map]
    cases members <;> rfl

/-- The members beside the kind of a prerequisite are read back. -/
theorem readPrereqOf_stable {element : Reader Prereq} (helement : Rewrites element writePrereq)
    {kind : String} {scope : Scope} {shape : Shape} {p : Prereq}
    (h : readPrereqOf element kind scope shape = .ok p) (hp : Kept p) :
    MembersStable (readPrereqOf element p.kind) (prereqMembers p).flatten scope.room p := by
  unfold readPrereqOf at h
  split at h <;> simp only [bind_eq_ok, pure_eq_ok] at h
  · obtain ⟨r, hr, l, hl, rfl⟩ := h
    obtain rfl := ofShape_scope hr
    have hkept : Kept l := by
      intro m hm
      refine hp m ?_
      show m ∈ measures l.whenTl ++ memberMeasures l.members
      rw [memberMeasures_eq]
      exact hm
    exact ((rereads_prereqList helement hl hkept).map _).membersStable
  · obtain ⟨q, hq, rfl⟩ := h
    have hstable := readRequirementOf_stable hq hp
    have hread : readPrereqOf element q.kind = fun scope shape =>
        (readRequirementOf q.kind scope shape).map .leaf := by
      -- No requirement is called a list.
      cases q <;> rfl
    show MembersStable (readPrereqOf element q.kind) _ _ _
    rw [hread]
    exact hstable.map _

theorem rewrites_prereqWithin (levels : Nat) : Rewrites (readPrereqWithin levels) writePrereq := by
  induction levels with
  | zero => exact fun _ _ _ h => nomatch h
  | succ levels ih =>
    intro scope j p h hp
    -- What stands in a list has a level less than the list.
    rw [readPrereqWithin_succ] at h ⊢
    obtain ⟨⟨kind, inner, shape⟩, htag, h⟩ := bind_eq_ok.1 h
    obtain ⟨hroom, hinner⟩ := readTagged_eq_ok htag
    rw [writePrereq_eq]
    exact (hinner ▸ readPrereqOf_stable ih h hp).tagged hroom (kind_mem_prereqKinds p)

instance : LawfulDocument Prereq := ⟨.ofRoom rewrites_prereqWithin⟩

instance : LawfulDocument PrereqList where
  rewrites := Rewrites.record fun _ _ h hl => rereads_prereqList LawfulDocument.rewrites h hl

instance : NeverNull PrereqList := ⟨fun _ _ h => nomatch h⟩

end CharacterSheet.Document
