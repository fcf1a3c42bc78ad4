import CharacterSheet.Document.Library
import CharacterSheet.Proofs.NormalizedIds
import CharacterSheet.Proofs.RuleDocuments

/-!
# Rewriting documents

A document may be read and written any number of times: the value that was read is read back from
the text that is written of it, as long as the numbers and weights in it are,
`Document.survives_rewriting`.

This module has the documents of items, settings, libraries and templates. Difficulties and the
bases of defaults may be spelled in more than one way; they are read back because what is written
of them is normalized.
-/

namespace CharacterSheet.Document

open Measured (measures)

/-! ### Parts of items -/

instance : Measured WeightUnit := ⟨fun _ => []⟩
instance : Unmeasured WeightUnit := ⟨fun _ => rfl⟩

instance : LawfulValue WeightUnit where
  stable room u _ := by
    have hparse : WeightUnit.parse u.key = .ok u := by cases u <;> rfl
    exact .parsed hparse room

instance : Measured Difficulty := ⟨fun _ => []⟩
instance : Unmeasured Difficulty := ⟨fun _ => rfl⟩

instance : LawfulDocument Difficulty where
  rewrites scope j d h _ := by
    obtain ⟨text, hparse⟩ := exists_of_parsed_eq_ok h
    exact .parsed (Difficulty.parse_text hparse) scope.room

instance : Measured DefaultBase := ⟨fun _ => []⟩
instance : Unmeasured DefaultBase := ⟨fun _ => rfl⟩

instance : LawfulDocument DefaultBase where
  rewrites scope j b h _ := by
    obtain ⟨text, hparse⟩ := exists_of_parsed_eq_ok h
    have hid : DefaultBase.parse b.id = b := by
      rw [← Except.ok.inj hparse]
      exact DefaultBase.parse_id text
    exact @Stable.parsed _ (fun text => .ok (.parse text)) b.id b (congrArg Except.ok hid) scope.room

instance : Measured SourceRef := ⟨fun _ => []⟩
instance : Unmeasured SourceRef := ⟨fun _ => rfl⟩
instance : NeverNull SourceRef := ⟨fun _ _ h => nomatch h⟩

instance : LawfulDocument SourceRef where
  rewrites := by
    refine Rewrites.record ?_
    intro r s hs _
    simp only [bind_eq_ok, pure_eq_ok] at hs
    obtain ⟨library, hlibrary, id, hid, rfl⟩ := hs
    exact (rereads_required hlibrary (kept _)).bind <|
      (rereads_required hid (kept _)).bind <| .pure _ _

instance : Measured SkillDefault where
  measures d :=
    measures d.modifier ++ measures d.level ++ measures d.adjustedLevel ++ measures d.points

instance : LawfulDocument SkillDefault where
  rewrites := by
    refine Rewrites.record ?_
    intro r d hd hkept
    simp only [bind_eq_ok, pure_eq_ok] at hd
    obtain ⟨base, hbase, name, hname, specialization, hspecialization, modifier, hmodifier,
      level, hlevel, adjusted, hadjusted, points, hpoints, rfl⟩ := hd
    obtain ⟨hkept, hkeptPoints⟩ := List.forall_mem_append.1 hkept
    obtain ⟨hkept, hkeptAdjusted⟩ := List.forall_mem_append.1 hkept
    obtain ⟨hkeptModifier, hkeptLevel⟩ := List.forall_mem_append.1 hkept
    exact (rereads_required hbase (kept _)).bind <|
      (rereads_optional hname (kept _)).bind <|
      (rereads_optional hspecialization (kept _)).bind <|
      (rereads_optional hmodifier hkeptModifier).bind <|
      (rereads_optional hlevel hkeptLevel).bind <|
      (rereads_optional hadjusted hkeptAdjusted).bind <|
      (rereads_optional hpoints hkeptPoints).bind <| .pure _ _

/-! ### Traits, skills and spells -/

instance : Measured Trait where
  measures t := measures t.levels ++ measures t.features ++ measures t.prereqs

instance : LawfulDocument Trait where
  rewrites := by
    refine Rewrites.record ?_
    intro r t ht hkept
    simp only [bind_eq_ok, pure_eq_ok] at ht
    obtain ⟨name, hname, notes, hnotes, tags, htags, levels, hlevels, disabled, hdisabled,
      features, hfeatures, prereqs, hprereqs, replacements, hreplacements, source, hsource,
      rfl⟩ := ht
    obtain ⟨hkept, hkeptPrereqs⟩ := List.forall_mem_append.1 hkept
    obtain ⟨hkeptLevels, hkeptFeatures⟩ := List.forall_mem_append.1 hkept
    exact (rereads_required hname (kept _)).bind <|
      (rereads_optional hnotes (kept _)).bind <|
      (rereads_optional htags (kept _)).bind <|
      (rereads_optional hlevels hkeptLevels).bind <|
      (rereads_optional hdisabled (kept _)).bind <|
      (rereads_optional hfeatures hkeptFeatures).bind <|
      (rereads_optional hprereqs hkeptPrereqs).bind <|
      (rereads_optional hreplacements (kept _)).bind <|
      (rereads_optional hsource (kept _)).bind <| .pure _ _

instance : Measured Skill where
  measures k :=
    measures k.points ++ measures k.defaults ++ measures k.features ++ measures k.prereqs

instance : LawfulDocument Skill where
  rewrites := by
    refine Rewrites.record ?_
    intro r k hk hkept
    simp only [bind_eq_ok, pure_eq_ok] at hk
    obtain ⟨name, hname, specialization, hspecialization, tags, htags, difficulty, hdifficulty,
      points, hpoints, defaults, hdefaults, features, hfeatures, prereqs, hprereqs,
      replacements, hreplacements, source, hsource, rfl⟩ := hk
    obtain ⟨hkept, hkeptPrereqs⟩ := List.forall_mem_append.1 hkept
    obtain ⟨hkept, hkeptFeatures⟩ := List.forall_mem_append.1 hkept
    obtain ⟨hkeptPoints, hkeptDefaults⟩ := List.forall_mem_append.1 hkept
    exact (rereads_required hname (kept _)).bind <|
      (rereads_optional hspecialization (kept _)).bind <|
      (rereads_optional htags (kept _)).bind <|
      (rereads_required hdifficulty (kept _)).bind <|
      (rereads_optional hpoints hkeptPoints).bind <|
      (rereads_optional hdefaults hkeptDefaults).bind <|
      (rereads_optional hfeatures hkeptFeatures).bind <|
      (rereads_optional hprereqs hkeptPrereqs).bind <|
      (rereads_optional hreplacements (kept _)).bind <|
      (rereads_optional hsource (kept _)).bind <| .pure _ _

instance : Measured Spell := ⟨fun p => measures p.points ++ measures p.prereqs⟩

instance : LawfulDocument Spell where
  rewrites := by
    refine Rewrites.record ?_
    intro r p hp hkept
    simp only [bind_eq_ok, pure_eq_ok] at hp
    obtain ⟨name, hname, college, hcollege, source, hpowerSource, tags, htags, difficulty,
      hdifficulty, points, hpoints, prereqs, hprereqs, replacements, hreplacements, source,
      hsource, rfl⟩ := hp
    obtain ⟨hkeptPoints, hkeptPrereqs⟩ := List.forall_mem_append.1 hkept
    exact (rereads_required hname (kept _)).bind <|
      (rereads_optional hcollege (kept _)).bind <|
      (rereads_optional hpowerSource (kept _)).bind <|
      (rereads_optional htags (kept _)).bind <|
      (rereads_required hdifficulty (kept _)).bind <|
      (rereads_optional hpoints hkeptPoints).bind <|
      (rereads_optional hprereqs hkeptPrereqs).bind <|
      (rereads_optional hreplacements (kept _)).bind <|
      (rereads_optional hsource (kept _)).bind <| .pure _ _

/-! ### Equipment -/

mutual

/-- The numbers and weights of a piece with its contents. -/
def pieceMeasures : Equipment → List Measure
  | ⟨gear, children⟩ =>
    measures gear.quantity ++ measures gear.weight ++ measures gear.features ++
      measures gear.prereqs ++ contentMeasures children
termination_by structural e => e

def contentMeasures : List Equipment → List Measure
  | [] => []
  | e :: rest => pieceMeasures e ++ contentMeasures rest
termination_by structural es => es

end

instance : Measured Equipment := ⟨pieceMeasures⟩

theorem contentMeasures_eq (es : List Equipment) : contentMeasures es = measures es := by
  induction es with
  | nil => rfl
  | cons e rest ih =>
    rw [contentMeasures, ih]
    rfl

theorem writeEquipmentAll_eq_map (es : List Equipment) :
    writeEquipmentAll es = es.map writeEquipment := by
  induction es with
  | nil => rfl
  | cons e rest ih => rw [writeEquipmentAll, ih, List.map_cons]

/-- The members of a piece with its contents. -/
def equipmentMembers (e : Equipment) : List (List (String × Json)) :=
  [member "name" e.name, memberUnless [] "tags" e.tags, memberUnless 1 "quantity" e.quantity,
    memberUnless .zero "weight" e.weight, member "equipped" e.equipped,
    memberUnless [] "features" e.features, memberUnless none "prereqs" e.prereqs,
    memberUnless [] "children" e.children, memberUnless .empty "replacements" e.replacements,
    memberUnless none "source" e.source]

theorem writeEquipment_eq (e : Equipment) : writeEquipment e = ofMembers (equipmentMembers e) := by
  obtain ⟨gear, children⟩ := e
  rw [writeEquipment, writeEquipmentAll_eq_map]
  cases children <;> rfl

/-- The fields of a piece are read back if its contents are. -/
theorem rereads_equipment {element : Reader Equipment} (helement : Rewrites element writeEquipment)
    {r : Record} {e : Equipment} (h : readEquipmentWith element r = .ok e) (he : Kept e) :
    Rereads r.scope.room (equipmentFields.map Field.name) (equipmentMembers e).flatten
      (readEquipmentWith element) e := by
  simp only [readEquipmentWith, bind_eq_ok, pure_eq_ok] at h
  obtain ⟨name, hname, tags, htags, quantity, hquantity, weight, hweight, equipped, hequipped,
    features, hfeatures, prereqs, hprereqs, children, hchildren, replacements, hreplacements,
    source, hsource, rfl⟩ := h
  obtain ⟨he, hkeptContent⟩ := List.forall_mem_append.1 he
  obtain ⟨he, hkeptPrereqs⟩ := List.forall_mem_append.1 he
  obtain ⟨he, hkeptFeatures⟩ := List.forall_mem_append.1 he
  obtain ⟨hkeptQuantity, hkeptWeight⟩ := List.forall_mem_append.1 he
  have hkeptChildren : Kept children := by
    intro m hm
    exact hkeptContent m (contentMeasures_eq children ▸ hm)
  exact (rereads_required hname (kept _)).bind <|
    (rereads_optional htags (kept _)).bind <|
    (rereads_optional hquantity hkeptQuantity).bind <|
    (rereads_optional hweight hkeptWeight).bind <|
    (rereads_member _ (kept _)).bind <|
    (rereads_optional hfeatures hkeptFeatures).bind <|
    (rereads_optional hprereqs hkeptPrereqs).bind <|
    (helement.list.rereads_optional hchildren hkeptChildren).bind <|
    (rereads_optional hreplacements (kept _)).bind <|
    (rereads_optional hsource (kept _)).bind <| .pure _ _

theorem rewrites_equipmentWithin (levels : Nat) :
    Rewrites (readEquipmentWithin levels) writeEquipment := by
  induction levels with
  | zero => exact fun _ _ _ h => nomatch h
  | succ levels ih =>
    have hwrite : writeEquipment = fun e => .object (equipmentMembers e).flatten :=
      funext writeEquipment_eq
    -- The contents of a piece have a level less than the piece.
    rw [readEquipmentWithin, hwrite]
    exact Rewrites.record fun r e h he => rereads_equipment ih h he

instance : LawfulDocument Equipment := ⟨.ofRoom rewrites_equipmentWithin⟩

/-! ### Settings, libraries and templates -/

instance : Measured SheetSettings := ⟨fun _ => []⟩

instance : LawfulDocument SheetSettings where
  rewrites := by
    refine Rewrites.record ?_
    intro r s hs _
    simp only [bind_eq_ok, pure_eq_ok] at hs
    obtain ⟨unit, hunit, half, hhalf, ruleOf20, hruleOf20, rfl⟩ := hs
    exact (rereads_optional hunit (kept _)).bind <|
      (rereads_optional hhalf (kept _)).bind <|
      (rereads_member _ (kept _)).bind <| .pure _ _

instance : Measured Library where
  measures l :=
    measures l.traits ++ measures l.skills ++ measures l.spells ++ measures l.equipment

instance : LawfulDocument Library where
  rewrites := by
    refine Rewrites.record ?_
    intro r l hl hkept
    simp only [bind_eq_ok, pure_eq_ok] at hl
    obtain ⟨name, hname, traits, htraits, skills, hskills, spells, hspells, equipment,
      hequipment, rfl⟩ := hl
    obtain ⟨hkept, hkeptEquipment⟩ := List.forall_mem_append.1 hkept
    obtain ⟨hkept, hkeptSpells⟩ := List.forall_mem_append.1 hkept
    obtain ⟨hkeptTraits, hkeptSkills⟩ := List.forall_mem_append.1 hkept
    exact (rereads_required hname (kept _)).bind <|
      (rereads_optional htraits hkeptTraits).bind <|
      (rereads_optional hskills hkeptSkills).bind <|
      (rereads_optional hspells hkeptSpells).bind <|
      (rereads_optional hequipment hkeptEquipment).bind <| .pure _ _

instance : Measured Template where
  measures t :=
    measures t.traits ++ measures t.skills ++ measures t.spells ++ measures t.equipment

instance : LawfulDocument Template where
  rewrites := by
    refine Rewrites.record ?_
    intro r t ht hkept
    simp only [bind_eq_ok, pure_eq_ok] at ht
    obtain ⟨name, hname, traits, htraits, skills, hskills, spells, hspells, equipment,
      hequipment, rfl⟩ := ht
    obtain ⟨hkept, hkeptEquipment⟩ := List.forall_mem_append.1 hkept
    obtain ⟨hkept, hkeptSpells⟩ := List.forall_mem_append.1 hkept
    obtain ⟨hkeptTraits, hkeptSkills⟩ := List.forall_mem_append.1 hkept
    exact (rereads_required hname (kept _)).bind <|
      (rereads_optional htraits hkeptTraits).bind <|
      (rereads_optional hskills hkeptSkills).bind <|
      (rereads_optional hspells hkeptSpells).bind <|
      (rereads_optional hequipment hkeptEquipment).bind <| .pure _ _

/-! ### Rewriting -/

section Rewriting

variable {α : Type} [Document α] [Measured α]

instance [DecidableEq α] (a : α) : Decidable (ReadsBack a) :=
  inferInstanceAs (Decidable (ofText (write a).text = .ok a))

instance : DecidablePred Measure.ReadsBack
  | .number a => inferInstanceAs (Decidable (ReadsBack a))
  | .weight w => inferInstanceAs (Decidable (ReadsBack w))

instance (a : α) : Decidable (Kept a) :=
  inferInstanceAs (Decidable (∀ m ∈ measures a, m.ReadsBack))

/-- The text of a document after it was read and written. -/
def rewritten (α : Type) [Document α] (text : String) : Except RuleError String :=
  (ofText text : Except RuleError α).map fun a => (write a).text

/-- What was read from a document is read back from the document that is written of it, so a
document that was rewritten once stays as it is. -/
def SurvivesRewriting (α : Type) [Document α] [Measured α] : Prop :=
  ∀ (text : String) (a : α), ofText text = .ok a → Kept a →
    ReadsBack a ∧ rewritten α (write a).text = .ok (write a).text

theorem readsBack_of_ofText [LawfulDocument α] {text : String} {a : α} (h : ofText text = .ok a)
    (hkept : Kept a) : ReadsBack a := by
  have hjson : ∃ j, read {} j = .ok a := by
    unfold ofText at h
    split at h
    · next j _ => exact ⟨j, mapError_eq_ok.1 h⟩
    · cases h
  obtain ⟨j, hj⟩ := hjson
  have hstable := LawfulDocument.rewrites {} j a hj hkept
  rw [ReadsBack, ofText, Json.parse?_text hstable.printable]
  -- The new text is a whole document too, with the room of the old one.
  exact mapError_eq_ok.2 (hstable.read {} rfl)

theorem survivesRewriting_of_lawful [LawfulDocument α] : SurvivesRewriting α := by
  intro text a h hkept
  have hback : ReadsBack a := readsBack_of_ofText h hkept
  exact ⟨hback, map_eq_ok.2 ⟨a, hback, rfl⟩⟩

end Rewriting

/-- **Documents survive a rewrite.** Whatever the text of a document of a rule object says and
however it is written, the value that was read from it is read back from the text that is written
of the value, if the numbers and weights in it are; and that text is rewritten as it is. -/
theorem survives_rewriting :
    SurvivesRewriting Feature ∧ SurvivesRewriting PrereqList ∧ SurvivesRewriting SheetSettings ∧
      SurvivesRewriting Trait ∧ SurvivesRewriting Skill ∧ SurvivesRewriting Spell ∧
      SurvivesRewriting Equipment ∧ SurvivesRewriting SkillDefault ∧ SurvivesRewriting Library ∧
      SurvivesRewriting Template := by
  refine ⟨?_, ?_, ?_, ?_, ?_, ?_, ?_, ?_, ?_, ?_⟩
  all_goals exact survivesRewriting_of_lawful

/-- A template with a difficulty that is not normalized, a quantity that is not whole and a weight
in kilograms. -/
def scoutText : String :=
  "\x7b\"name\":\"Scout\",\"skills\":[\x7b\"name\":\"Stealth\",\"difficulty\":\" DX/A\"\x7d]," ++
    "\"equipment\":[\x7b\"name\":\"Rope\",\"quantity\":2.5,\"weight\":\"5 kg\"\x7d]\x7d"

def scout : Template where
  name := "Scout"
  skills := [{ name := "Stealth", difficulty := ⟨"dx", .average⟩ }]
  equipment := [{ name := "Rope", quantity := 5 / 2, weight := ⟨10⟩ }]

theorem survives_rewriting_scout :
    ofText scoutText = .ok scout ∧ Kept scout ∧ ReadsBack scout ∧
      rewritten Template (write scout).text = .ok (write scout).text := by
  have hread : ofText scoutText = .ok scout := by decide +kernel
  have hkept : Kept scout := by decide +kernel
  obtain ⟨-, -, -, -, -, -, -, -, -, htemplate⟩ := survives_rewriting
  exact ⟨hread, hkept, htemplate scoutText scout hread hkept⟩

end CharacterSheet.Document
