import CharacterSheet.Proofs.Substitution

/-!
# Substitution in a text with values

A text that was substituted is expected to stay as it is when the same values are written again.
It does so exactly when no key is left between two markers of it, `substitute_substitute`. Each key
that is found takes its two markers with it, and no value brings any, so that a second run that
finds a key shortens the list of pieces.

The first run leaves no key behind that stood in the text from the start. A key that is left was
joined from a value and the pieces beside it after its turn, and so it has the value in it.
-/

namespace CharacterSheet

namespace Placeholder

/-! ### Pieces between two markers -/

/-- The pieces with markers on both sides. -/
def enclosed (ps : List (List Char)) : List (List Char) := ps.tail.dropLast

theorem enclosed_cons_cons (piece next : List Char) {rest : List (List Char)} (h : rest ≠ []) :
    enclosed (piece :: next :: rest) = next :: enclosed (next :: rest) :=
  List.dropLast_cons_of_ne_nil h

theorem enclosed_subset_cons (piece : List Char) (ps : List (List Char)) :
    enclosed ps ⊆ enclosed (piece :: ps) := by
  rcases ps with _ | ⟨next, _ | ⟨third, rest⟩⟩
  · exact List.Subset.refl _
  · exact List.Subset.refl _
  · rw [enclosed_cons_cons piece next (List.cons_ne_nil third rest)]
    exact List.subset_cons_self _ _

/-- A list that starts with a character is looked for behind what is free of this character. -/
theorem cons_infix_append_iff {c : Char} {cs : List Char} (h : c ∉ cs) (pattern rest : List Char) :
    c :: pattern <:+: cs ++ rest ↔ c :: pattern <:+: rest := by
  induction cs with
  | nil => rfl
  | cons d cs ih =>
      obtain ⟨hd, hcs⟩ := List.ne_and_not_mem_of_not_mem_cons h
      rw [List.cons_append, List.infix_cons_iff, ih hcs]
      exact or_iff_right fun hprefix => hd (List.cons_prefix_cons.1 hprefix).1

/-- A key stands between two markers of a text exactly when it is one of the pieces between two
markers. -/
theorem marked_infix_iff {key : String} (hkey : marker ∉ key.toList) {ps : List (List Char)}
    (h : ∀ p ∈ ps, marker ∉ p) :
    marked key <:+: [marker].intercalate ps ↔ key.toList ∈ enclosed ps := by
  induction ps with
  | nil => simp [marked, enclosed]
  | cons piece rest ih =>
      obtain ⟨hpiece, hrest⟩ := List.forall_mem_cons.1 h
      cases rest with
      | nil =>
          have hmiss := cons_infix_append_iff hpiece (key.toList ++ [marker]) []
          rw [List.append_nil] at hmiss
          simpa [marked, enclosed] using hmiss
      | cons next rest =>
          rw [List.intercalate_cons_cons, List.append_assoc, marked, List.cons_append,
            cons_infix_append_iff hpiece, List.singleton_append, List.infix_cons_iff,
            List.cons_prefix_cons, append_marker_prefix_iff hkey hrest, ← List.cons_append,
            ← marked, ih hrest]
          by_cases hbehind : rest = []
          · simp [hbehind, enclosed]
          · rw [enclosed_cons_cons piece next hbehind, List.mem_cons]
            simp [hbehind, eq_comm]

/-! ### One key -/

theorem length_merge_le (key value : List Char) (ps : List (List Char)) :
    (merge key value ps).length ≤ ps.length := by
  fun_induction merge key value ps with
  | case1 piece next rest hnext ih =>
      rw [length_glue _ (merge_ne_nil key value hnext.2), List.length_cons, List.length_cons]
      omega
  | case2 piece next rest hnext ih =>
      rw [List.length_cons, List.length_cons]
      omega
  | case3 | case4 => exact Nat.le_refl _

/-- A key that is found takes its markers with it. -/
theorem length_merge_lt {key : List Char} (value : List Char) {ps : List (List Char)}
    (h : key ∈ enclosed ps) : (merge key value ps).length < ps.length := by
  fun_induction merge key value ps with
  | case1 piece next rest hnext ih =>
      have hle := length_merge_le key value rest
      rw [length_glue _ (merge_ne_nil key value hnext.2), List.length_cons, List.length_cons]
      omega
  | case2 piece next rest hnext ih =>
      by_cases hrest : rest = []
      · simp [hrest, enclosed] at h
      · have hne : key ≠ next := fun heq => hnext ⟨heq.symm, hrest⟩
        rw [enclosed_cons_cons piece next hrest] at h
        exact Nat.succ_lt_succ (ih (List.mem_of_ne_of_mem hne h))
  | case3 | case4 => exact absurd h List.not_mem_nil

theorem merge_of_not_mem {key : List Char} (value : List Char) {ps : List (List Char)}
    (h : key ∉ enclosed ps) : merge key value ps = ps := by
  fun_induction merge key value ps with
  | case1 piece next rest hnext ih =>
      rw [enclosed_cons_cons piece next hnext.2, hnext.1] at h
      exact absurd List.mem_cons_self h
  | case2 piece next rest hnext ih =>
      rw [ih fun hmem => h (enclosed_subset_cons piece _ hmem)]
  | case3 | case4 => rfl

/-- The first piece keeps its place, and what is joined to it starts with a value. -/
theorem head_merge {key value piece first : List Char} {ps rest : List (List Char)}
    (h : merge key value (piece :: ps) = first :: rest) : first = piece ∨ value <:+: first := by
  cases ps with
  | nil => exact .inl (List.cons.inj h).1.symm
  | cons next ps =>
      rw [merge_cons_cons] at h
      split at h
      · obtain ⟨p, hp, hvalue⟩ := getElem?_glue_zero (piece ++ value) (merge key value ps)
        obtain rfl : first = p := by simpa [h] using hp
        exact .inr ((List.suffix_append piece value).isInfix.trans hvalue)
      · exact .inl (List.cons.inj h).1.symm

/-- Between two markers stands, once a key was replaced, what was joined around the value, or else
a piece that stood there before and is not the key. -/
theorem mem_enclosed_merge {key value p : List Char} {ps : List (List Char)}
    (h : p ∈ enclosed (merge key value ps)) : value <:+: p ∨ p ∈ enclosed ps ∧ p ≠ key := by
  fun_induction merge key value ps with
  | case1 piece next rest hnext ih =>
      have hp : p ∈ enclosed (merge key value rest) := by
        cases hmerge : merge key value rest with
        | nil => exact absurd hmerge (merge_ne_nil key value hnext.2)
        | cons first others => simpa [hmerge, glue, enclosed] using h
      refine (ih hp).imp_right (And.imp_left fun hmem => ?_)
      exact enclosed_subset_cons piece _ (enclosed_subset_cons next rest hmem)
  | case2 piece next rest hnext ih =>
      cases hmerge : merge key value (next :: rest) with
      | nil => exact absurd hmerge (merge_ne_nil key value (List.cons_ne_nil next rest))
      | cons first others =>
          by_cases hothers : others = []
          · simp [hmerge, hothers, enclosed] at h
          · rw [hmerge, enclosed_cons_cons piece first hothers, List.mem_cons] at h
            rcases h with rfl | h
            · rcases head_merge hmerge with rfl | hvalue
              · -- The next piece was not joined to anything, and so it is not the key.
                have hrest : rest ≠ [] := by
                  rintro rfl
                  exact hothers (List.cons.inj hmerge).2.symm
                rw [enclosed_cons_cons piece p hrest]
                exact .inr ⟨List.mem_cons_self, fun heq => hnext ⟨heq, hrest⟩⟩
              · exact .inl hvalue
            · exact (ih (hmerge ▸ h)).imp_right
                (And.imp_left fun hmem => enclosed_subset_cons piece _ hmem)
  | case3 | case4 => exact absurd h List.not_mem_nil

/-! ### All keys -/

theorem length_mergeAll_le (value : String → String) (keys : List String)
    (ps : List (List Char)) : (mergeAll value keys ps).length ≤ ps.length := by
  induction keys generalizing ps with
  | nil => exact Nat.le_refl _
  | cons key keys ih =>
      rw [mergeAll, List.foldl_cons, ← mergeAll]
      exact (ih _).trans (length_merge_le _ _ _)

/-- Substitution changes nothing exactly when none of the keys stands between two markers. -/
theorem mergeAll_eq_self_iff {value : String → String} {keys : List String}
    {ps : List (List Char)} :
    mergeAll value keys ps = ps ↔ ∀ key ∈ keys, key.toList ∉ enclosed ps := by
  induction keys with
  | nil => simp [mergeAll]
  | cons key keys ih =>
      rw [mergeAll, List.foldl_cons, ← mergeAll, List.forall_mem_cons]
      by_cases hmem : key.toList ∈ enclosed ps
      · have hlt := length_merge_lt (value key).toList hmem
        have hle := length_mergeAll_le value keys (merge key.toList (value key).toList ps)
        refine iff_of_false (fun heq => ?_) fun h => h.1 hmem
        rw [heq] at hle
        omega
      · rw [merge_of_not_mem _ hmem, ih]
        exact (and_iff_right hmem).symm

/-- A key that is left between two markers was joined around a value. -/
theorem mem_enclosed_mergeAll {value : String → String} {keys : List String} {p : List Char}
    {ps : List (List Char)} (h : p ∈ enclosed (mergeAll value keys ps)) :
    (∃ key ∈ keys, (value key).toList <:+: p) ∨
      p ∈ enclosed ps ∧ ∀ key ∈ keys, p ≠ key.toList := by
  induction keys generalizing ps with
  | nil => exact .inr ⟨h, fun key hkey => absurd hkey List.not_mem_nil⟩
  | cons key keys ih =>
      rw [mergeAll, List.foldl_cons, ← mergeAll] at h
      rcases ih h with ⟨other, hother, hvalue⟩ | ⟨hmem, hkeys⟩
      · exact .inl ⟨other, List.mem_cons_of_mem key hother, hvalue⟩
      · rcases mem_enclosed_merge hmem with hvalue | ⟨hmem, hne⟩
        · exact .inl ⟨key, List.mem_cons_self, hvalue⟩
        · exact .inr ⟨hmem, List.forall_mem_cons.2 ⟨hne, hkeys⟩⟩

/-! ### Substitution in the substituted text -/

/-- The keys of a map hold no marker. -/
def UnmarkedKeys (m : Replacements) : Prop := ∀ key ∈ m.keys, marker ∉ key.toList

instance (m : Replacements) : Decidable (UnmarkedKeys m) := List.decidableBAll _ _

section Unmarked

variable {m : Replacements} (hkeys : UnmarkedKeys m) (hvalues : UnmarkedValues m)
include hkeys hvalues

theorem marker_not_mem_of_mem_keys :
    ∀ key ∈ m.keys, marker ∉ key.toList ∧ marker ∉ (valueIn m key).toList :=
  fun key hkey => ⟨hkeys key hkey, hvalues.marker_not_mem (hkeys key hkey)⟩

/-- Substitution keeps a text exactly when no key stands between two markers of it. -/
theorem substitute_eq_self_iff (text : String) :
    substitute m text = text ↔ ∀ key ∈ m.keys, ¬ marked key <:+: text.toList := by
  have hfree := marker_not_mem_of_mem_keys hkeys hvalues
  have hsplit := isSplit_pieces text.toList
  have hmerged : IsSplit (mergeAll (valueIn m) m.keys (pieces text.toList)) :=
    isSplit_mergeAll (fun key hkey => (hfree key hkey).2) hsplit
  calc substitute m text = text
      ↔ [marker].intercalate (mergeAll (valueIn m) m.keys (pieces text.toList)) =
          [marker].intercalate (pieces text.toList) := by
        rw [substitute_eq_intercalate hfree text, intercalate_pieces, ← String.toList_inj,
          String.toList_ofList]
    _ ↔ mergeAll (valueIn m) m.keys (pieces text.toList) = pieces text.toList := by
        refine ⟨fun heq => ?_, fun heq => by rw [heq]⟩
        rw [← pieces_intercalate hmerged, heq, pieces_intercalate hsplit]
    _ ↔ ∀ key ∈ m.keys, key.toList ∉ enclosed (pieces text.toList) := mergeAll_eq_self_iff
    _ ↔ ∀ key ∈ m.keys, ¬ marked key <:+: text.toList := by
        refine forall₂_congr fun key hkey => not_congr ?_
        rw [← marked_infix_iff (hkeys key hkey) hsplit.marker_not_mem, intercalate_pieces]

/-- A key that substitution leaves between two markers has a value in it. -/
theorem exists_value_infix {text key : String} (hkey : key ∈ m.keys)
    (hmarked : marked key <:+: (substitute m text).toList) :
    ∃ e ∈ m.entries, e.2.toList <:+: key.toList := by
  have hfree := marker_not_mem_of_mem_keys hkeys hvalues
  have hmerged : IsSplit (mergeAll (valueIn m) m.keys (pieces text.toList)) :=
    isSplit_mergeAll (fun key hkey => (hfree key hkey).2) (isSplit_pieces text.toList)
  rw [substitute_eq_intercalate hfree text, String.toList_ofList,
    marked_infix_iff (hkeys key hkey) hmerged.marker_not_mem] at hmarked
  rcases mem_enclosed_mergeAll hmarked with ⟨other, hother, hvalue⟩ | ⟨-, hne⟩
  · obtain ⟨e, he, rfl⟩ := List.mem_map.1 hother
    exact ⟨e, he, valueIn_of_mem he ▸ hvalue⟩
  · exact absurd rfl (hne key hkey)

end Unmarked

/-- **Substitution in a text with values** changes nothing exactly when no key is left between two
markers. A key that is left has a value in it; so there is none if no value is part of a key. -/
theorem substitute_substitute {m : Replacements} (hkeys : UnmarkedKeys m)
    (hvalues : UnmarkedValues m) (text : String) :
    (substitute m (substitute m text) = substitute m text ↔
        ∀ key ∈ m.keys, ¬ marked key <:+: (substitute m text).toList) ∧
      ∀ key ∈ m.keys, marked key <:+: (substitute m text).toList →
        ∃ e ∈ m.entries, e.2.toList <:+: key.toList :=
  ⟨substitute_eq_self_iff hkeys hvalues (substitute m text), fun _ hkey hmarked =>
    exists_value_infix hkeys hvalues hkey hmarked⟩

/-- Values for a sword and for what stands between the parts of its name. -/
def swordValues : Replacements :=
  (KeyMap.empty.insert "Long-sword" "Rapier").insert "Size" "-"

theorem substitute_substitute_sword :
    UnmarkedKeys swordValues ∧ UnmarkedValues swordValues ∧
      substitute swordValues "@Long-sword@ (@Size@, @Style@)" = "Rapier (-, @Style@)" ∧
      substitute swordValues (substitute swordValues "@Long-sword@ (@Size@, @Style@)") =
        substitute swordValues "@Long-sword@ (@Size@, @Style@)" :=
  ⟨by decide, by decide, by decide,
    (substitute_substitute (by decide) (by decide) _).1.2
      (by simp only [← Text.occursIn_iff]; decide)⟩

/-- The size joins the parts of a name to a key that had its turn before; the second run finds it. -/
theorem joinedSword_substitute_substitute :
    UnmarkedKeys swordValues ∧ UnmarkedValues swordValues ∧
      substitute swordValues "@Long@Size@sword@" = "@Long-sword@" ∧
      substitute swordValues (substitute swordValues "@Long@Size@sword@") = "Rapier" := by
  decide

end Placeholder

end CharacterSheet
