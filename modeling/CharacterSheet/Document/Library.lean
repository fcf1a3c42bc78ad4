import CharacterSheet.Document.Item
import CharacterSheet.Library

/-!
# Documents of settings, libraries and templates
-/

namespace CharacterSheet.Document

instance : Document SheetSettings where
  read := Reader.record ["default_weight_units", "use_half_stat_defaults", "use_rule_of_20"]
    fun r => do
      return {
        weightUnit := ← r.optional "default_weight_units" .pound read
        halfStatDefaults := ← r.optional "use_half_stat_defaults" false read
        ruleOf20 := ← r.optional "use_rule_of_20" true read }
  write s :=
    ofMembers
      [memberUnless .pound "default_weight_units" s.weightUnit,
        memberUnless false "use_half_stat_defaults" s.halfStatDefaults,
        member "use_rule_of_20" s.ruleOf20]

instance : Document Library where
  read := Reader.record ["name", "traits", "skills", "spells", "equipment"] fun r => do
    return {
      name := ← r.required "name" read
      traits := ← r.optional "traits" .empty read
      skills := ← r.optional "skills" .empty read
      spells := ← r.optional "spells" .empty read
      equipment := ← r.optional "equipment" .empty read }
  write l :=
    ofMembers
      [member "name" l.name, memberUnless .empty "traits" l.traits,
        memberUnless .empty "skills" l.skills, memberUnless .empty "spells" l.spells,
        memberUnless .empty "equipment" l.equipment]

instance : Document Template where
  read := Reader.record ["name", "traits", "skills", "spells", "equipment"] fun r => do
    return {
      name := ← r.required "name" read
      traits := ← r.optional "traits" [] read
      skills := ← r.optional "skills" [] read
      spells := ← r.optional "spells" [] read
      equipment := ← r.optional "equipment" [] read }
  write t :=
    ofMembers
      [member "name" t.name, memberUnless [] "traits" t.traits, memberUnless [] "skills" t.skills,
        memberUnless [] "spells" t.spells, memberUnless [] "equipment" t.equipment]

end CharacterSheet.Document
