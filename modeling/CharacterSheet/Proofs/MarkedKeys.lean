import CharacterSheet.Placeholder

/-!
# Marked keys

Substitution goes by the text alone: for one key after the other it looks for the key between two
markers, from left to right. This module says what it does to the pieces of the text,
`substitute_eq_intercalate`: where a piece is the key and has a marker on both sides, it and the
pieces beside it become one piece with the value in the middle (`merge`). Which of the pieces are
tokens makes no difference to it.
-/

namespace CharacterSheet

namespace Placeholder

/-! ### Pieces -/

/-- Puts a text in front of the first piece. -/
def glue (front : List Char) : List (List Char) → List (List Char)
  | [] => [front]
  | p :: rest => (front ++ p) :: rest

theorem glue_ne_nil (front : List Char) (ps : List (List Char)) : glue front ps ≠ [] := by
  cases ps <;> simp [glue]

theorem length_glue (front : List Char) {ps : List (List Char)} (h : ps ≠ []) :
    (glue front ps).length = ps.length := by
  cases ps with
  | nil => exact absurd rfl h
  | cons p rest => rfl

theorem glue_append (front : List Char) {ps : List (List Char)} (h : ps ≠ [])
    (qs : List (List Char)) : glue front (ps ++ qs) = glue front ps ++ qs := by
  cases ps with
  | nil => exact absurd rfl h
  | cons p rest => rfl

theorem intercalate_glue (front : List Char) {ps : List (List Char)} (h : ps ≠ []) :
    [marker].intercalate (glue front ps) = front ++ [marker].intercalate ps := by
  cases ps with
  | nil => exact absurd rfl h
  | cons p rest => cases rest <;> simp [glue, List.intercalate_cons_cons]

/-- What the pieces of a text are: there is one at least, and none holds a marker. -/
structure IsSplit (ps : List (List Char)) : Prop where
  ne_nil : ps ≠ []
  marker_not_mem : ∀ p ∈ ps, marker ∉ p

theorem isSplit_cons {p : List Char} {ps : List (List Char)} (hp : marker ∉ p)
    (h : ∀ q ∈ ps, marker ∉ q) : IsSplit (p :: ps) :=
  ⟨List.cons_ne_nil p ps, List.forall_mem_cons.2 ⟨hp, h⟩⟩

theorem isSplit_glue {front : List Char} {ps : List (List Char)} (hfront : marker ∉ front)
    (h : ∀ q ∈ ps, marker ∉ q) : IsSplit (glue front ps) := by
  cases ps with
  | nil => exact isSplit_cons hfront h
  | cons p rest =>
      obtain ⟨hp, hrest⟩ := List.forall_mem_cons.1 h
      exact isSplit_cons (by simp [hfront, hp]) hrest

/-- A marker ends a piece, and any other character belongs to the piece before the next
marker. -/
theorem pieces_cons (c : Char) (rest : List Char) :
    pieces (c :: rest) = if c = marker then [] :: pieces rest else glue [c] (pieces rest) := by
  rw [pieces]
  cases h : pieces rest with
  | nil => exact absurd h (pieces_ne_nil rest)
  | cons first others => rfl

theorem pieces_of_not_mem {cs : List Char} (h : marker ∉ cs) : pieces cs = [cs] := by
  induction cs with
  | nil => rfl
  | cons c rest ih =>
      obtain ⟨hc, hrest⟩ := List.ne_and_not_mem_of_not_mem_cons h
      rw [pieces_cons, if_neg hc.symm, ih hrest]
      rfl

/-- A marker cuts a text into two parts with pieces of their own. -/
theorem pieces_append_cons_marker (before behind : List Char) :
    pieces (before ++ marker :: behind) = pieces before ++ pieces behind := by
  induction before with
  | nil =>
      rw [List.nil_append, pieces_cons, if_pos rfl]
      rfl
  | cons c rest ih =>
      rw [List.cons_append, pieces_cons, pieces_cons, ih]
      split
      · rfl
      · exact glue_append [c] (pieces_ne_nil rest) (pieces behind)

/-- The first marker ends the first piece. -/
theorem pieces_append_marker {cs : List Char} (h : marker ∉ cs) (rest : List Char) :
    pieces (cs ++ marker :: rest) = cs :: pieces rest := by
  rw [pieces_append_cons_marker, pieces_of_not_mem h, List.singleton_append]

/-- Cutting a text at its markers finds the pieces that it was joined from. -/
theorem pieces_intercalate {ps : List (List Char)} (h : IsSplit ps) :
    pieces ([marker].intercalate ps) = ps := by
  obtain ⟨hne, hfree⟩ := h
  induction ps with
  | nil => exact absurd rfl hne
  | cons p rest ih =>
      obtain ⟨hp, hrest⟩ := List.forall_mem_cons.1 hfree
      cases rest with
      | nil => rw [List.intercalate_singleton, pieces_of_not_mem hp]
      | cons q rest =>
          rw [List.intercalate_cons_cons, List.append_assoc, List.singleton_append,
            pieces_append_marker hp, ih (List.cons_ne_nil q rest) hrest]

theorem isSplit_pieces (cs : List Char) : IsSplit (pieces cs) := by
  induction cs with
  | nil => exact isSplit_cons List.not_mem_nil fun _ h => absurd h List.not_mem_nil
  | cons c rest ih =>
      rw [pieces_cons]
      split
      · exact isSplit_cons List.not_mem_nil ih.marker_not_mem
      · next hc => exact isSplit_glue (by simpa using Ne.symm hc) ih.marker_not_mem

theorem length_pieces (cs : List Char) : (pieces cs).length = cs.count marker + 1 := by
  induction cs with
  | nil => rfl
  | cons c rest ih =>
      rw [pieces_cons]
      split
      · next hc => rw [hc, List.count_cons_self, List.length_cons, ih]
      · next hc => rw [length_glue _ (pieces_ne_nil rest), ih, List.count_cons_of_ne hc]

/-! ### One key on the pieces -/

/-- Writes a value for a key wherever a marker stands on both sides of it, from left to right. The
markers go with the key, and so the pieces beside it become one with the value. -/
def merge (key value : List Char) : List (List Char) → List (List Char)
  | piece :: next :: rest =>
      if next = key ∧ rest ≠ [] then glue (piece ++ value) (merge key value rest)
      else piece :: merge key value (next :: rest)
  | [piece] => [piece]
  | [] => []
termination_by structural ps => ps

theorem merge_cons_cons (key value piece next : List Char) (rest : List (List Char)) :
    merge key value (piece :: next :: rest) =
      if next = key ∧ rest ≠ [] then glue (piece ++ value) (merge key value rest)
      else piece :: merge key value (next :: rest) := rfl

theorem merge_ne_nil (key value : List Char) {ps : List (List Char)} (h : ps ≠ []) :
    merge key value ps ≠ [] := by
  fun_cases merge key value ps with
  | case1 => exact glue_ne_nil _ _
  | case2 => exact List.cons_ne_nil _ _
  | case3 | case4 => exact h

theorem marker_not_mem_merge (key : List Char) {value : List Char} (hvalue : marker ∉ value)
    {ps : List (List Char)} (h : ∀ p ∈ ps, marker ∉ p) : ∀ p ∈ merge key value ps, marker ∉ p := by
  fun_induction merge key value ps with
  | case1 piece next rest hkey ih =>
      simp only [List.forall_mem_cons] at h
      exact (isSplit_glue (by simp [h.1, hvalue]) (ih h.2.2)).marker_not_mem
  | case2 piece next rest hkey ih =>
      rw [List.forall_mem_cons] at h ⊢
      exact ⟨h.1, ih h.2⟩
  | case3 | case4 => exact h

theorem isSplit_merge (key : List Char) {value : List Char} (hvalue : marker ∉ value)
    {ps : List (List Char)} (h : IsSplit ps) : IsSplit (merge key value ps) :=
  ⟨merge_ne_nil key value h.ne_nil, marker_not_mem_merge key hvalue h.marker_not_mem⟩

end Placeholder

/-! ### One key in the text -/

namespace Text

@[simp] theorem replaceAll_nil (pattern value : List Char) : replaceAll pattern value [] = [] := rfl

/-- What is left of an occurrence is skipped. -/
theorem replaceFrom_append (pattern value cs rest : List Char) :
    replaceFrom pattern value cs.length (cs ++ rest) = replaceFrom pattern value 0 rest := by
  induction cs with
  | nil => rfl
  | cons c cs ih => exact ih

/-- An occurrence of the pattern is replaced, and reading goes on behind it. -/
theorem replaceAll_append_self (c : Char) (pattern value rest : List Char) :
    replaceAll (c :: pattern) value (c :: (pattern ++ rest)) =
      value ++ replaceAll (c :: pattern) value rest := by
  have hprefix : (c :: pattern).isPrefixOf (c :: (pattern ++ rest)) = true :=
    List.isPrefixOf_iff_prefix.2 (List.prefix_append (c :: pattern) rest)
  rw [replaceAll, replaceFrom, if_pos hprefix, List.length_cons, Nat.add_sub_cancel,
    replaceFrom_append, replaceAll]

/-- A character at which no occurrence starts is kept. -/
theorem replaceAll_cons_of_not_prefix {pattern : List Char} {c : Char} {rest : List Char}
    (h : ¬ pattern <+: c :: rest) (value : List Char) :
    replaceAll pattern value (c :: rest) = c :: replaceAll pattern value rest := by
  rw [replaceAll, replaceFrom, if_neg (mt List.isPrefixOf_iff_prefix.1 h), replaceAll]

/-- What comes before the first character of a pattern is kept. -/
theorem replaceAll_append_of_not_mem {c : Char} (pattern value : List Char) {cs : List Char}
    (h : c ∉ cs) (rest : List Char) :
    replaceAll (c :: pattern) value (cs ++ rest) =
      cs ++ replaceAll (c :: pattern) value rest := by
  induction cs with
  | nil => rfl
  | cons d cs ih =>
      obtain ⟨hd, hcs⟩ := List.ne_and_not_mem_of_not_mem_cons h
      have hmiss : ¬ (c :: pattern) <+: d :: (cs ++ rest) :=
        fun hprefix => hd (List.cons_prefix_cons.1 hprefix).1
      rw [List.cons_append, replaceAll_cons_of_not_prefix hmiss, ih hcs, List.cons_append]

end Text

namespace Placeholder

/-- A marker and the key behind it are found where the next piece is the key and a marker comes
behind it. -/
theorem append_marker_prefix_iff {key next : List Char} {rest : List (List Char)}
    (hkey : marker ∉ key) (h : ∀ p ∈ next :: rest, marker ∉ p) :
    key ++ [marker] <+: [marker].intercalate (next :: rest) ↔ next = key ∧ rest ≠ [] := by
  constructor
  · rintro ⟨behind, heq⟩
    have hpieces := pieces_intercalate ⟨List.cons_ne_nil next rest, h⟩
    rw [← heq, List.append_assoc, List.singleton_append, pieces_append_marker hkey] at hpieces
    obtain ⟨hnext, hrest⟩ := List.cons.inj hpieces
    exact ⟨hnext.symm, hrest ▸ pieces_ne_nil behind⟩
  · rintro ⟨rfl, hrest⟩
    rw [List.intercalate_cons_of_ne_nil hrest]
    exact List.prefix_append _ _

/-- Replacing a key between two markers throughout a text replaces it on the pieces. -/
theorem replaceAll_intercalate {key value : List Char} (hkey : marker ∉ key)
    {ps : List (List Char)} (h : ∀ p ∈ ps, marker ∉ p) :
    Text.replaceAll (marker :: (key ++ [marker])) value ([marker].intercalate ps) =
      [marker].intercalate (merge key value ps) := by
  fun_induction merge key value ps with
  | case1 piece next rest hnext ih =>
      obtain ⟨rfl, hrest⟩ := hnext
      simp only [List.forall_mem_cons] at h
      rw [List.intercalate_cons_cons, List.intercalate_cons_of_ne_nil hrest, List.append_assoc,
        Text.replaceAll_append_of_not_mem _ _ h.1, List.singleton_append,
        Text.replaceAll_append_self, ih h.2.2, intercalate_glue _ (merge_ne_nil _ _ hrest),
        List.append_assoc]
  | case2 piece next rest hnext ih =>
      rw [List.forall_mem_cons] at h
      have hmiss : ¬ marker :: (key ++ [marker]) <+:
          marker :: [marker].intercalate (next :: rest) := fun hprefix =>
        hnext ((append_marker_prefix_iff hkey h.2).1 (List.cons_prefix_cons.1 hprefix).2)
      have hne : merge key value (next :: rest) ≠ [] :=
        merge_ne_nil key value (List.cons_ne_nil next rest)
      rw [List.intercalate_cons_cons, List.append_assoc,
        Text.replaceAll_append_of_not_mem _ _ h.1, List.singleton_append,
        Text.replaceAll_cons_of_not_prefix hmiss, ih h.2, List.intercalate_cons_of_ne_nil hne,
        List.append_assoc, List.singleton_append]
  | case3 piece =>
      have hkept := Text.replaceAll_append_of_not_mem (key ++ [marker]) value
        (h piece List.mem_cons_self) []
      simpa only [List.append_nil, Text.replaceAll_nil, List.intercalate_singleton] using hkept
  | case4 => rfl

/-! ### All keys -/

/-- What substitution does to the pieces. -/
def mergeAll (value : String → String) (keys : List String) (ps : List (List Char)) :
    List (List Char) :=
  keys.foldl (fun ps key => merge key.toList (value key).toList ps) ps

theorem isSplit_mergeAll {value : String → String} {keys : List String}
    (h : ∀ key ∈ keys, marker ∉ (value key).toList) {ps : List (List Char)} (hps : IsSplit ps) :
    IsSplit (mergeAll value keys ps) := by
  induction keys generalizing ps with
  | nil => exact hps
  | cons key keys ih =>
      obtain ⟨hkey, hkeys⟩ := List.forall_mem_cons.1 h
      exact ih hkeys (isSplit_merge key.toList hkey hps)

theorem mergeAll_of_length_le_two (value : String → String) (keys : List String)
    {ps : List (List Char)} (h : ps.length ≤ 2) : mergeAll value keys ps = ps := by
  have hmerge (key : List Char) (v : List Char) : merge key v ps = ps := by
    rcases ps with _ | ⟨p, _ | ⟨q, _ | ⟨r, rest⟩⟩⟩
    · rfl
    · rfl
    · simp [merge]
    · simp at h
  induction keys with
  | nil => rfl
  | cons key keys ih => rw [mergeAll, List.foldl_cons, hmerge, ← mergeAll, ih]

/-- The value of a token; a token without one stands for itself. -/
def valueIn (m : Replacements) (token : String) : String := (m.get? token).getD token

theorem valueIn_of_mem {m : Replacements} {e : String × String} (h : e ∈ m.entries) :
    valueIn m e.1 = e.2 := by
  rw [valueIn, KeyMap.get?_of_mem h, Option.getD_some]

theorem map_keys_valueIn (m : Replacements) :
    m.keys.map (fun key => (key, valueIn m key)) = m.entries := by
  rw [KeyMap.keys, List.map_map]
  refine (List.map_congr_left fun e he => ?_).trans (List.map_id m.entries)
  rw [Function.comp, valueIn_of_mem he]
  rfl

/-- Replacing the marked keys one after the other throughout a text replaces them on the pieces. -/
theorem foldl_replaceAll_intercalate {value : String → String} {keys : List String}
    (h : ∀ key ∈ keys, marker ∉ key.toList ∧ marker ∉ (value key).toList)
    {ps : List (List Char)} (hps : IsSplit ps) :
    keys.foldl (fun cs key => Text.replaceAll (marked key) (value key).toList cs)
        ([marker].intercalate ps) =
      [marker].intercalate (mergeAll value keys ps) := by
  induction keys generalizing ps with
  | nil => rfl
  | cons key keys ih =>
      obtain ⟨⟨hkey, hvalue⟩, hrest⟩ := List.forall_mem_cons.1 h
      rw [List.foldl_cons, marked, List.cons_append,
        replaceAll_intercalate hkey hps.marker_not_mem,
        ih hrest (isSplit_merge key.toList hvalue hps)]
      rfl

/-- **Substitution on the pieces.** Values are written for the keys one after the other, wherever
markers stand on both sides of a key. -/
theorem substitute_eq_intercalate {m : Replacements}
    (hkeys : ∀ key ∈ m.keys, marker ∉ key.toList ∧ marker ∉ (valueIn m key).toList)
    (text : String) :
    substitute m text =
      String.ofList ([marker].intercalate (mergeAll (valueIn m) m.keys (pieces text.toList))) := by
  rw [substitute]
  split
  · next hcount =>
    have hlength : (pieces text.toList).length ≤ 2 := by
      rw [length_pieces]
      omega
    rw [mergeAll_of_length_le_two _ _ hlength, intercalate_pieces, String.ofList_toList]
  · have hall := foldl_replaceAll_intercalate hkeys (isSplit_pieces text.toList)
    rw [intercalate_pieces] at hall
    rw [← map_keys_valueIn, List.foldl_map, hall]

end Placeholder

end CharacterSheet
