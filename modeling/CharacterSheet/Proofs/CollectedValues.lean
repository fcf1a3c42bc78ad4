import CharacterSheet.Proofs.PlaceholderTexts
import CharacterSheet.Proofs.SourceComparison
import CharacterSheet.Proofs.TokenGrammar

/-!
# Values that are collected

The values that are chosen for the tokens of an object are collected text by text, from all fields
and at every depth of it. This module shows that neither the order nor the number of the texts that
a token stands in makes a difference: what is collected for a token is the value chosen for it, or
else the token, `get?_collect`. So to collect from what was collected changes nothing.

Each piece of equipment collects for itself and what it contains. As every token gets the same
value everywhere, a piece in a container has what the container has for the tokens of the piece:
`collect_pointwise`.
-/

namespace CharacterSheet

/-- Maps that hold the same under every key are equal. -/
theorem KeyMap.ext_get? {α : Type} {m n : KeyMap α} (h : ∀ key, m.get? key = n.get? key) :
    m = n := by
  have hentries (m : KeyMap α) :
      m.entries = m.keys.filterMap fun key => (m.get? key).map (key, ·) := by
    rw [keys, List.filterMap_map]
    refine (List.filterMap_some.symm).trans (List.filterMap_congr fun e he => ?_)
    simp only [Function.comp_apply, get?_of_mem he, Option.map_some]
  have hkeys : m.keys = n.keys := keys_eq_of_mem_iff fun key => by
    rw [mem_keys, mem_keys, contains, contains, h]
  apply ext_entries
  rw [hentries m, hentries n, hkeys]
  simp only [h]

namespace HasPlaceholders

open Placeholder (tokens valueIn get?_collect mem_keys_collect keepNeeded IsTokenOf mem_tokens_iff)

variable {α β : Type} [HasPlaceholders α] [HasPlaceholders β]

/-- The keys do not depend on the values that are chosen. -/
theorem keys_collect (a : α) (chosen chosen' : Replacements) :
    (collect a chosen).keys = (collect a chosen').keys := by
  refine KeyMap.keys_eq_of_mem_iff fun key => ?_
  rw [mem_keys_collect, mem_keys_collect]

theorem get?_collect_of_mem {a : α} {chosen chosen' : Replacements} {key : String}
    (h : key ∈ (collect a chosen').keys) :
    (collect a chosen).get? key = some (valueIn chosen key) := by
  rw [get?_collect, if_pos (mem_keys_collect.1 h)]

/-- Objects with the same texts have the same tokens. -/
theorem collect_congr {a : α} {b : β} (h : texts a = texts b) (chosen : Replacements) :
    collect a chosen = collect b chosen := by
  rw [collect, fill, h]
  rfl

/-- What is collected has the chosen values, so that collecting from it gives the same. -/
theorem collect_collect (a : α) (chosen : Replacements) :
    collect a (collect a chosen) = collect a chosen := by
  apply KeyMap.ext_get?
  intro key
  rw [get?_collect a (collect a chosen), get?_collect a chosen]
  split
  · next htoken => rw [valueIn, get?_collect, if_pos htoken, Option.getD_some]
  · rfl

/-- An object whose texts are all in another one has of the values there those for its own
tokens. -/
theorem keepNeeded_collect {a : α} {b : β} (h : texts a ⊆ texts b) (chosen : Replacements) :
    keepNeeded (collect a .empty) (collect b chosen) = collect a chosen := by
  apply KeyMap.ext_get?
  intro key
  simp only [keepNeeded, KeyMap.get?_filterKeys, ← KeyMap.mem_keys, mem_keys_collect]
  rw [get?_collect a]
  split
  · next htoken =>
    obtain ⟨text, htext, hkey⟩ := htoken
    rw [get?_collect, if_pos ⟨text, h htext, hkey⟩]
  · rfl

end HasPlaceholders

/-! ### Pieces in containers -/

namespace Equipment

mutual

/-- The pieces of a rebuilt piece are the rebuilt pieces. -/
theorem pieces_rebuild (f : Equipment → Gear) :
    ∀ e : Equipment, pieces (rebuild f e) = (pieces e).map (rebuild f)
  | ⟨gear, children⟩ => by
      simp only [rebuild, pieces, List.map_cons, piecesAll_rebuildAll f children]

theorem piecesAll_rebuildAll (f : Equipment → Gear) :
    ∀ es : List Equipment, piecesAll (rebuildAll f es) = (piecesAll es).map (rebuild f)
  | [] => rfl
  | e :: rest => by
      simp only [rebuildAll, piecesAll, List.map_append, pieces_rebuild f e,
        piecesAll_rebuildAll f rest]

end

theorem rebuild_toGear (f : Equipment → Gear) (e : Equipment) : (rebuild f e).toGear = f e := by
  cases e
  rfl

/-- What a piece in a container contains is in the container. -/
theorem Within.pieces_subset {p e : Equipment} (h : p.Within e) : p.pieces ⊆ e.pieces := by
  induction h with
  | self => exact List.Subset.refl _
  | inside hmem _ ih =>
    intro x hx
    rw [pieces_eq]
    exact List.mem_cons_of_mem _ (List.mem_flatMap.2 ⟨_, hmem, ih hx⟩)

/-- A container has the texts of the pieces in it. -/
theorem texts_subset {p e : Equipment} (h : p ∈ e.pieces) : p.texts ⊆ e.texts := by
  intro text htext
  rw [texts_eq_flatMap] at htext ⊢
  obtain ⟨x, hx, hmem⟩ := List.mem_flatMap.1 htext
  exact List.mem_flatMap.2 ⟨x, (within_of_mem_pieces e h).pieces_subset hx, hmem⟩

/-- Choices leave the texts as they are. -/
theorem texts_withChoices (chosen : Replacements) (e : Equipment) :
    (LibraryItem.withChoices chosen e).texts = e.texts := by
  rw [texts_eq_flatMap, texts_eq_flatMap]
  show (rebuild _ e).pieces.flatMap _ = _
  rw [pieces_rebuild, List.flatMap_map]
  simp only [rebuild_toGear]
  rfl

/-- Each piece has the values chosen for the tokens of its own and of what it contains. -/
theorem replacements_withChoices {chosen : Replacements} {p e : Equipment}
    (h : p ∈ (LibraryItem.withChoices chosen e).pieces) :
    p.replacements = HasPlaceholders.collect p chosen := by
  change p ∈ (rebuild _ e).pieces at h
  rw [pieces_rebuild] at h
  obtain ⟨x, -, rfl⟩ := List.mem_map.1 h
  rw [rebuild_toGear]
  exact HasPlaceholders.collect_congr (texts_withChoices chosen x).symm chosen

/-- The values of a piece in a container are those of the container for the tokens of the piece. -/
theorem replacements_withChoices_eq_keepNeeded {chosen : Replacements} {p e : Equipment}
    (h : p ∈ (LibraryItem.withChoices chosen e).pieces) :
    p.replacements = Placeholder.keepNeeded (HasPlaceholders.collect p .empty)
      (LibraryItem.withChoices chosen e).replacements := by
  have hself : LibraryItem.withChoices chosen e ∈ (LibraryItem.withChoices chosen e).pieces := by
    rw [pieces_eq]
    exact List.mem_cons_self
  have hsubset : HasPlaceholders.texts p ⊆
      HasPlaceholders.texts (LibraryItem.withChoices chosen e) := texts_subset h
  rw [replacements_withChoices h, replacements_withChoices hself,
    HasPlaceholders.keepNeeded_collect hsubset]

end Equipment

namespace HasPlaceholders

open Placeholder (keepNeeded IsTokenOf mem_keys_collect mem_tokens_iff)

/-- **Values are collected token by token.** Whatever is chosen, the keys are the tokens of the
texts of an object of any kind, those without choices as well, and under each key is the value that
is chosen for it, or else the key; so to collect from what was collected gives the same. A
container with choices has what is collected for it and its contents, and each piece in it has, of
the values of the container, those for the tokens of the piece. -/
theorem collect_pointwise :
    (∀ (α : Type) [HasPlaceholders α] (a : α) (chosen : Replacements),
      (collect a chosen).keys = (collect a .empty).keys ∧
      (∀ key, key ∈ (collect a chosen).keys ↔ ∃ text ∈ texts a, IsTokenOf key text) ∧
      (∀ key ∈ (collect a .empty).keys,
        (collect a chosen).get? key = some ((chosen.get? key).getD key)) ∧
      collect a (collect a chosen) = collect a chosen) ∧
    ∀ (e : Equipment) (chosen : Replacements),
      (LibraryItem.withChoices chosen e).replacements = collect e chosen ∧
      ∀ p ∈ (LibraryItem.withChoices chosen e).pieces,
        p.replacements =
          keepNeeded (collect p .empty) (LibraryItem.withChoices chosen e).replacements := by
  refine ⟨fun α _ a chosen => ⟨keys_collect a chosen .empty, fun key => ?_, fun key hkey => ?_,
    collect_collect a chosen⟩, fun e chosen => ⟨?_, fun p hp => ?_⟩⟩
  · simp only [mem_keys_collect, mem_tokens_iff]
  · exact get?_collect_of_mem hkey
  · exact congrArg Gear.replacements (Equipment.rebuild_toGear _ e)
  · exact Equipment.replacements_withChoices_eq_keepNeeded hp

/-- A case of an owner with a weapon in it. -/
def weaponCase : Equipment :=
  { name := "@Weapon@ Case of @Owner@", children := [{ name := "@Weapon@" }] }

/-- Nothing is chosen for the owner, and what is chosen for the weapon is chosen for both
pieces. -/
theorem weaponCase_collect :
    (collect weaponCase rapier).get? "Owner" = some "Owner" ∧
      collect weaponCase (collect weaponCase rapier) = collect weaponCase rapier ∧
      ∀ p ∈ (LibraryItem.withChoices rapier weaponCase).pieces,
        p.replacements = keepNeeded (collect p .empty)
          (LibraryItem.withChoices rapier weaponCase).replacements := by
  obtain ⟨pointwise, restricted⟩ := collect_pointwise
  obtain ⟨-, -, values, stable⟩ := pointwise Equipment weaponCase rapier
  obtain ⟨-, pieces⟩ := restricted weaponCase rapier
  exact ⟨values "Owner" (by decide), stable, pieces⟩

end HasPlaceholders

end CharacterSheet
