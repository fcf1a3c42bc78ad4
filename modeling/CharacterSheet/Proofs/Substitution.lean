import Mathlib.Data.List.Sort
import CharacterSheet.Proofs.MarkedKeys

/-!
# Values in place of tokens

The tokens of a text are read off its pieces: every second one is a token. Substitution does not
see that. What stands between two tokens may be a key itself, and then the closing marker of the
first token and the opening marker of the second are taken for the markers of this key
(`crosses`); neither of the two tokens is found any more.

As long as this happens at no key, substitution writes the values of the tokens and keeps
everything else; where it happens, some value shows it: `substitute_extract`. The first half is an
induction on the keys, each of which leaves fewer tokens and the same text to write. For the
second half a long value is followed: it gets to a place behind a marker, from where no key takes
it away.
-/

namespace CharacterSheet

/-- Maps with the same keys list them in the same order. -/
theorem KeyMap.keys_eq_of_mem_iff {α β : Type} {m : KeyMap α} {n : KeyMap β}
    (h : ∀ key, key ∈ m.keys ↔ key ∈ n.keys) : m.keys = n.keys := by
  have hm : m.keys.Pairwise (· < ·) := List.pairwise_map.2 m.ascending
  have hn : n.keys.Pairwise (· < ·) := List.pairwise_map.2 n.ascending
  exact hm.eq_of_mem_iff hn h

namespace Placeholder

/-! ### Keys that are found at tokens only -/

/-- Writes a value for a key wherever the key is a token. -/
def settle (key value : List Char) : List (List Char) → List (List Char)
  | separator :: token :: rest =>
      if token = key ∧ rest ≠ [] then glue (separator ++ value) (settle key value rest)
      else separator :: token :: settle key value rest
  | [separator] => [separator]
  | [] => []
termination_by structural ps => ps

/-- Whether the first piece is the key, with a marker behind it. -/
def leads (key : List Char) : List (List Char) → Bool
  | piece :: _ :: _ => piece == key
  | _ => false

/-- Whether a piece behind another token is the key, with markers on both sides. -/
def crosses (key : List Char) : List (List Char) → Bool
  | _ :: token :: rest => (token != key && leads key rest) || crosses key rest
  | _ => false
termination_by structural ps => ps

theorem settle_ne_nil (key value : List Char) {ps : List (List Char)} (h : ps ≠ []) :
    settle key value ps ≠ [] := by
  fun_cases settle key value ps with
  | case1 => exact glue_ne_nil _ _
  | case2 => exact List.cons_ne_nil _ _
  | case3 | case4 => exact h

theorem leads_cons {key next : List Char} {rest : List (List Char)} :
    leads key (next :: rest) = true ↔ next = key ∧ rest ≠ [] := by
  cases rest <;> simp [leads]

/-- Where no key is found across tokens, it is found at tokens only. -/
theorem merge_eq_settle {key value : List Char} {ps : List (List Char)}
    (h : crosses key ps = false) : merge key value ps = settle key value ps := by
  fun_induction settle key value ps with
  | case1 separator token rest htoken ih =>
      simp only [crosses, Bool.or_eq_false_iff] at h
      rw [merge_cons_cons, if_pos htoken, ih h.2]
  | case2 separator token rest htoken ih =>
      simp only [crosses, Bool.or_eq_false_iff] at h
      rw [merge_cons_cons, if_neg htoken, ← ih h.2]
      cases rest with
      | nil => rfl
      | cons next rest =>
          -- The search goes on at the token; what it may find there is the separator behind it.
          have hne : token ≠ key := fun heq => htoken ⟨heq, List.cons_ne_nil next rest⟩
          have hnext : ¬ (next = key ∧ rest ≠ []) := by
            rw [← leads_cons]
            simpa [hne] using h.1
          rw [merge_cons_cons, if_neg hnext]
  | case3 | case4 => rfl

/-! ### The text with its values -/

/-- The text of pieces with the values of the tokens in place of the tokens and of the markers on
both sides. A last marker that has no partner is kept. -/
def written (value : String → String) : List (List Char) → List Char
  | separator :: token :: rest =>
      if rest = [] then separator ++ marker :: token
      else separator ++ (value (String.ofList token)).toList ++ written value rest
  | [separator] => separator
  | [] => []
termination_by structural ps => ps

theorem written_glue (value : String → String) (front : List Char) {ps : List (List Char)}
    (h : ps ≠ []) : written value (glue front ps) = front ++ written value ps := by
  rcases ps with _ | ⟨p, _ | ⟨q, rest⟩⟩
  · exact absurd rfl h
  · rfl
  · simp only [glue, written]
    split <;> simp only [List.append_assoc]

/-- Once a key is written for the token, what is left to write is the same. -/
theorem written_settle (value : String → String) (key : String) (ps : List (List Char)) :
    written value (settle key.toList (value key).toList ps) = written value ps := by
  fun_induction settle key.toList (value key).toList ps with
  | case1 separator token rest htoken ih =>
      obtain ⟨rfl, hrest⟩ := htoken
      rw [written_glue _ _ (settle_ne_nil _ _ hrest), ih, written, if_neg hrest,
        String.ofList_toList]
  | case2 separator token rest htoken ih =>
      rw [written, written, ih]
      by_cases hrest : rest = []
      · rw [hrest]
        rfl
      · rw [if_neg (settle_ne_nil _ _ hrest), if_neg hrest]
  | case3 | case4 => rfl

/-- The pieces that are tokens. -/
def tokenPieces (ps : List (List Char)) : List (List Char) := everySecond ps.dropLast

theorem tokenPieces_cons_cons (separator token : List Char) {rest : List (List Char)}
    (h : rest ≠ []) : tokenPieces (separator :: token :: rest) = token :: tokenPieces rest := by
  rw [tokenPieces, List.dropLast_cons_cons, List.dropLast_cons_of_ne_nil h, everySecond,
    tokenPieces]

theorem tokenPieces_glue (front : List Char) {ps : List (List Char)} (h : ps ≠ []) :
    tokenPieces (glue front ps) = tokenPieces ps := by
  rcases ps with _ | ⟨p, _ | ⟨q, _ | ⟨r, rest⟩⟩⟩ <;> first | exact absurd rfl h | rfl

/-- Once a key is written for the token, it is none of the tokens that are left. -/
theorem tokenPieces_settle (key value : List Char) (ps : List (List Char)) :
    tokenPieces (settle key value ps) = (tokenPieces ps).filter (· ≠ key) := by
  fun_induction settle key value ps with
  | case1 separator token rest htoken ih =>
      obtain ⟨rfl, hrest⟩ := htoken
      rw [tokenPieces_glue _ (settle_ne_nil _ _ hrest), ih, tokenPieces_cons_cons _ _ hrest]
      simp
  | case2 separator token rest htoken ih =>
      by_cases hrest : rest = []
      · rw [hrest]
        rfl
      · have hne : token ≠ key := fun heq => htoken ⟨heq, hrest⟩
        rw [tokenPieces_cons_cons _ _ (settle_ne_nil _ _ hrest), ih,
          tokenPieces_cons_cons _ _ hrest, List.filter_cons_of_pos (by simpa using hne)]
  | case3 | case4 => rfl

/-- Pieces without tokens are written as they are. -/
theorem written_of_tokenPieces_eq_nil (value : String → String) {ps : List (List Char)}
    (h : tokenPieces ps = []) : written value ps = [marker].intercalate ps := by
  rcases ps with _ | ⟨p, _ | ⟨q, _ | ⟨r, rest⟩⟩⟩
  · rfl
  · rw [List.intercalate_singleton, written]
  · simp [written]
  · rw [tokenPieces_cons_cons _ _ (List.cons_ne_nil r rest)] at h
    exact absurd h (List.cons_ne_nil _ _)

/-! ### All keys -/

/-- Whether each of the keys, when its turn comes, is found at tokens only. -/
def keepsApart (value : String → String) : List String → List (List Char) → Bool
  | [], _ => true
  | key :: keys, ps =>
      !crosses key.toList ps && keepsApart value keys (settle key.toList (value key).toList ps)

/-- If the keys are found at tokens only, and all tokens are keys, the values are written. -/
theorem intercalate_mergeAll (value : String → String) (keys : List String) :
    ∀ ps : List (List Char), (∀ token ∈ tokenPieces ps, String.ofList token ∈ keys) →
      keepsApart value keys ps = true →
      [marker].intercalate (mergeAll value keys ps) = written value ps := by
  induction keys with
  | nil =>
      intro ps htokens _
      refine (written_of_tokenPieces_eq_nil value (List.eq_nil_iff_forall_not_mem.2 ?_)).symm
      exact fun token htoken => List.not_mem_nil (htokens token htoken)
  | cons key keys ih =>
      intro ps htokens happart
      simp only [keepsApart, Bool.and_eq_true, Bool.not_eq_true'] at happart
      rw [mergeAll, List.foldl_cons, merge_eq_settle happart.1, ← mergeAll, ih _ ?_ happart.2,
        written_settle]
      intro token htoken
      rw [tokenPieces_settle, List.mem_filter] at htoken
      have hne : String.ofList token ≠ key := by
        rintro rfl
        simp at htoken
      exact List.mem_of_ne_of_mem hne (htokens token htoken.1)

/-! ### Keys that are found across tokens -/

/-- A piece that is no separator holds the text. -/
def HeldBehindMarker (v : List Char) (ps : List (List Char)) : Prop :=
  ∃ i p, ps[i]? = some p ∧ i % 2 = 1 ∧ v <:+: p

theorem getElem?_glue_zero (front : List Char) (ps : List (List Char)) :
    ∃ p, (glue front ps)[0]? = some p ∧ front <:+: p := by
  cases ps with
  | nil => exact ⟨front, rfl, List.infix_refl front⟩
  | cons p rest => exact ⟨front ++ p, rfl, (List.prefix_append front p).isInfix⟩

theorem getElem?_glue (front : List Char) {p : List Char} {ps : List (List Char)} {i : Nat}
    (h : ps[i]? = some p) : ∃ q, (glue front ps)[i]? = some q ∧ p <:+: q := by
  cases ps with
  | nil => simp at h
  | cons first rest =>
      cases i with
      | zero =>
          obtain rfl : first = p := by simpa using h
          exact ⟨front ++ first, rfl, (List.suffix_append front first).isInfix⟩
      | succ i => exact ⟨p, by simpa [glue] using h, List.infix_refl p⟩

/-- A text that is longer than the key stays in a piece. The pieces that are joined are two places
apart, and so it stays at a place of the same parity. -/
theorem exists_getElem?_merge {key v : List Char} (value : List Char)
    (hlong : key.length < v.length) {ps : List (List Char)} {i : Nat} {p : List Char}
    (hp : ps[i]? = some p) (hv : v <:+: p) :
    ∃ j q, (merge key value ps)[j]? = some q ∧ j % 2 = i % 2 ∧ v <:+: q := by
  fun_induction merge key value ps generalizing i with
  | case1 piece next rest hnext ih =>
      rcases i with _ | _ | i
      · obtain rfl : piece = p := by simpa using hp
        obtain ⟨q, hq, hinfix⟩ := getElem?_glue_zero (piece ++ value) (merge key value rest)
        have hpiece : piece <:+: piece ++ value := (List.prefix_append piece value).isInfix
        exact ⟨0, q, hq, rfl, hv.trans (hpiece.trans hinfix)⟩
      · obtain rfl : next = p := by simpa using hp
        exact absurd (hnext.1 ▸ hv.length_le) (Nat.not_le.2 hlong)
      · obtain ⟨j, q, hq, hparity, hinfix⟩ := ih (by simpa using hp)
        obtain ⟨q', hq', hglue⟩ := getElem?_glue (piece ++ value) hq
        exact ⟨j, q', hq', by omega, hinfix.trans hglue⟩
  | case2 piece next rest hnext ih =>
      cases i with
      | zero =>
          obtain rfl : piece = p := by simpa using hp
          exact ⟨0, piece, rfl, rfl, hv⟩
      | succ i =>
          obtain ⟨j, q, hq, hparity, hinfix⟩ := ih (by simpa using hp)
          exact ⟨j + 1, q, by simpa using hq, by omega, hinfix⟩
  | case3 | case4 => exact ⟨i, p, hp, rfl, hv⟩

theorem heldBehindMarker_mergeAll {v : List Char} {value : String → String} {keys : List String}
    (hlong : ∀ key ∈ keys, key.toList.length < v.length) {ps : List (List Char)}
    (h : HeldBehindMarker v ps) : HeldBehindMarker v (mergeAll value keys ps) := by
  induction keys generalizing ps with
  | nil => exact h
  | cons key keys ih =>
      obtain ⟨hkey, hkeys⟩ := List.forall_mem_cons.1 hlong
      obtain ⟨i, p, hp, hodd, hv⟩ := h
      obtain ⟨j, q, hq, hparity, hinfix⟩ :=
        exists_getElem?_merge (value key).toList hkey hp hv
      exact ih hkeys ⟨j, q, hq, by omega, hinfix⟩

/-- Where a key is found across two tokens, its value ends up between what is left of them. -/
theorem heldBehindMarker_merge_of_crosses {key : List Char} (value : List Char)
    {ps : List (List Char)} (h : crosses key ps = true) :
    HeldBehindMarker value (merge key value ps) := by
  fun_induction crosses key ps with
  | case1 separator token rest ih =>
      have hcases : token ≠ key ∧ leads key rest = true ∨ crosses key rest = true := by
        simpa using h
      by_cases hhit : token = key ∧ rest ≠ []
      · obtain ⟨i, p, hp, hodd, hv⟩ := ih (hcases.resolve_left fun hne => hne.1 hhit.1)
        obtain ⟨q, hq, hglue⟩ := getElem?_glue (separator ++ value) hp
        rw [merge_cons_cons, if_pos hhit]
        exact ⟨i, q, hq, hodd, hv.trans hglue⟩
      · rw [merge_cons_cons, if_neg hhit]
        cases rest with
        | nil => simp [leads, crosses] at hcases
        | cons next rest =>
            rw [merge_cons_cons]
            by_cases hnext : next = key ∧ rest ≠ []
            · obtain ⟨q, hq, hglue⟩ := getElem?_glue_zero (token ++ value) (merge key value rest)
              rw [if_pos hnext]
              exact ⟨1, q, hq, rfl, (List.suffix_append token value).isInfix.trans hglue⟩
            · obtain ⟨i, p, hp, hodd, hv⟩ :=
                ih (hcases.resolve_left fun hne => hnext (leads_cons.1 hne.2))
              rw [if_neg hnext]
              exact ⟨i + 2, p, by simpa using hp, by omega, hv⟩
  | case2 => exact absurd h Bool.false_ne_true

/-- If some key is found across tokens, a long value for this key shows it. -/
theorem exists_heldBehindMarker {value : String → String} {keys : List String}
    (hkeys : keys.Nodup) {v : String} (hlong : ∀ key ∈ keys, key.toList.length < v.toList.length)
    {ps : List (List Char)} (h : keepsApart value keys ps = false) :
    ∃ key ∈ keys, ∀ value' : String → String, value' key = v →
      (∀ other, other ≠ key → value' other = value other) →
      HeldBehindMarker v.toList (mergeAll value' keys ps) := by
  induction keys generalizing ps with
  | nil => simp [keepsApart] at h
  | cons key keys ih =>
      obtain ⟨hkey, hnodup⟩ := List.nodup_cons.1 hkeys
      have hrest := (List.forall_mem_cons.1 hlong).2
      cases hcrosses : crosses key.toList ps with
      | true =>
          -- The keys behind this one are too short to take the value away.
          refine ⟨key, List.mem_cons_self, fun value' hvalue _ => ?_⟩
          rw [mergeAll, List.foldl_cons, ← mergeAll, hvalue]
          exact heldBehindMarker_mergeAll hrest
            (heldBehindMarker_merge_of_crosses v.toList hcrosses)
      | false =>
          -- This key keeps its value, so that the pieces are the same when a later one crosses.
          simp only [keepsApart, hcrosses, Bool.not_false, Bool.true_and] at h
          obtain ⟨key', hmem, hheld⟩ := ih hnodup hrest h
          refine ⟨key', List.mem_cons_of_mem key hmem, fun value' hvalue hother => ?_⟩
          have hne : key ≠ key' := fun heq => hkey (heq ▸ hmem)
          rw [mergeAll, List.foldl_cons, ← mergeAll, hother key hne, merge_eq_settle hcrosses]
          exact hheld value' hvalue hother

/-- In a text with its values written, only the last piece of the text may stand behind a
marker. -/
theorem written_eq_append {value : String → String}
    (hvalue : ∀ token, marker ∉ token.toList → marker ∉ (value token).toList)
    {ps : List (List Char)} (h : ∀ p ∈ ps, marker ∉ p) :
    ∃ front, marker ∉ front ∧
      (written value ps = front ∨ ∃ last ∈ ps, written value ps = front ++ marker :: last) := by
  fun_induction written value ps with
  | case1 separator token =>
      exact ⟨separator, h separator List.mem_cons_self,
        .inr ⟨token, List.mem_cons_of_mem _ List.mem_cons_self, rfl⟩⟩
  | case2 separator token rest hrest ih =>
      simp only [List.forall_mem_cons] at h
      obtain ⟨front, hfront, hwritten⟩ := ih h.2.2
      have htoken : marker ∉ (value (String.ofList token)).toList :=
        hvalue _ (by simpa using h.2.1)
      refine ⟨separator ++ (value (String.ofList token)).toList ++ front,
        by simp [h.1, htoken, hfront], hwritten.imp (fun heq => by rw [heq]) ?_⟩
      rintro ⟨last, hlast, heq⟩
      exact ⟨last, List.mem_cons_of_mem _ (List.mem_cons_of_mem _ hlast), by
        rw [heq, List.append_assoc _ front]⟩
  | case3 separator => exact ⟨separator, h separator List.mem_cons_self, .inl rfl⟩
  | case4 => exact ⟨[], List.not_mem_nil, .inl rfl⟩

theorem not_heldBehindMarker_written {value : String → String}
    (hvalue : ∀ token, marker ∉ token.toList → marker ∉ (value token).toList)
    {ps : List (List Char)} (h : ∀ p ∈ ps, marker ∉ p) {v : List Char}
    (hlong : ∀ p ∈ ps, p.length < v.length) :
    ¬ HeldBehindMarker v (pieces (written value ps)) := by
  rintro ⟨i, p, hp, hodd, hv⟩
  obtain ⟨front, hfront, heq | ⟨last, hlast, heq⟩⟩ := written_eq_append hvalue h
  · rw [heq, pieces_of_not_mem hfront] at hp
    cases i with
    | zero => omega
    | succ i => simp at hp
  · rw [heq, pieces_append_marker hfront, pieces_of_not_mem (h last hlast)] at hp
    rcases i with _ | _ | i
    · omega
    · obtain rfl : last = p := by simpa using hp
      exact Nat.not_le.2 (hlong last hlast) hv.length_le
    · simp at hp

/-! ### The tokens of a text -/

/-- What `extract` stores under a key. -/
theorem get?_extract (text : String) (found chosen : Replacements) (key : String) :
    (extract text found chosen).get? key =
      if key ∈ tokens text then some (valueIn chosen key) else found.get? key := by
  unfold extract
  generalize tokens text = ts
  induction ts generalizing found with
  | nil => rfl
  | cons token ts ih =>
      rw [List.foldl_cons, ih, KeyMap.get?_insert]
      by_cases hts : key ∈ ts
      · simp [hts]
      · by_cases hkey : key = token
        · subst hkey
          simp [valueIn]
        · simp [hts, hkey]

theorem mem_keys_extract {text : String} {chosen : Replacements} {key : String} :
    key ∈ (extract text .empty chosen).keys ↔ key ∈ tokens text := by
  rw [KeyMap.mem_keys, KeyMap.contains, get?_extract]
  split <;> simp [*]

/-- The keys are the tokens, whatever their values are. -/
theorem keys_extract (text : String) (chosen chosen' : Replacements) :
    (extract text .empty chosen).keys = (extract text .empty chosen').keys := by
  refine KeyMap.keys_eq_of_mem_iff fun key => ?_
  rw [mem_keys_extract, mem_keys_extract]

theorem mem_of_mem_everySecond {α : Type} {x : α} {l : List α} (h : x ∈ everySecond l) : x ∈ l := by
  fun_induction everySecond l with
  | case1 a b rest ih =>
      rcases List.mem_cons.1 h with rfl | h
      · exact List.mem_cons_of_mem a List.mem_cons_self
      · exact List.mem_cons_of_mem a (List.mem_cons_of_mem b (ih h))
  | case2 => exact absurd h List.not_mem_nil

theorem toList_mem_pieces {text token : String} (h : token ∈ tokens text) :
    token.toList ∈ pieces text.toList := by
  obtain ⟨piece, hpiece, rfl⟩ := List.mem_map.1 h
  rw [String.toList_ofList]
  exact List.dropLast_subset _ (mem_of_mem_everySecond hpiece)

theorem length_le_of_mem_pieces {cs p : List Char} (h : p ∈ pieces cs) :
    p.length ≤ cs.length := by
  rw [← intercalate_pieces cs]
  generalize pieces cs = ps at h
  induction ps with
  | nil => exact absurd h List.not_mem_nil
  | cons q rest ih =>
      cases rest with
      | nil =>
          obtain rfl := List.mem_singleton.1 h
          rw [List.intercalate_singleton]
      | cons r rest =>
          rw [List.intercalate_cons_cons, List.length_append, List.length_append]
          rcases List.mem_cons.1 h with rfl | h
          · omega
          · have hle := ih h
            omega

/-! ### Substitution of the values of a text -/

/-- The text with each of its tokens, and the markers on both sides, replaced by the value of the
token, and everything else kept. -/
def filled (m : Replacements) (text : String) : String :=
  String.ofList (written (valueIn m) (pieces text.toList))

/-- Whether no key is found across tokens of the text. -/
def KeepsTokensApart (m : Replacements) (text : String) : Prop :=
  keepsApart (valueIn m) m.keys (pieces text.toList) = true

instance (m : Replacements) (text : String) : Decidable (KeepsTokensApart m text) :=
  inferInstanceAs (Decidable (_ = _))

theorem valueIn_extract (text : String) (chosen : Replacements) (token : String) :
    valueIn (extract text .empty chosen) token =
      if token ∈ tokens text then valueIn chosen token else token := by
  rw [valueIn, get?_extract]
  split <;> rfl

/-- The values of a map hold no marker. -/
def UnmarkedValues (m : Replacements) : Prop := ∀ e ∈ m.entries, marker ∉ e.2.toList

instance (m : Replacements) : Decidable (UnmarkedValues m) := List.decidableBAll _ _

theorem UnmarkedValues.insert {m : Replacements} (h : UnmarkedValues m) (token : String)
    {value : String} (hvalue : marker ∉ value.toList) : UnmarkedValues (m.insert token value) := by
  intro e he
  rcases KeyMap.mem_insertEntry he with rfl | he
  · exact hvalue
  · exact h e he

theorem UnmarkedValues.marker_not_mem {m : Replacements} (h : UnmarkedValues m)
    {token : String} (htoken : marker ∉ token.toList) : marker ∉ (valueIn m token).toList := by
  unfold valueIn
  cases hvalue : m.get? token with
  | none => exact htoken
  | some value =>
      obtain ⟨e, he, heq⟩ := List.exists_of_findSome?_eq_some hvalue
      by_cases hkey : e.1 = token
      · obtain rfl : e.2 = value := by simpa [hkey] using heq
        exact h e he
      · simp [hkey] at heq

theorem UnmarkedValues.marker_not_mem_extract {chosen : Replacements}
    (h : UnmarkedValues chosen) (text : String) {token : String}
    (htoken : marker ∉ token.toList) :
    marker ∉ (valueIn (extract text .empty chosen) token).toList := by
  rw [valueIn_extract]
  split
  · exact h.marker_not_mem htoken
  · exact htoken

section Extract

variable {text : String} {chosen : Replacements} (h : UnmarkedValues chosen)
include h

theorem marker_not_mem_of_mem_keys_extract (text : String) :
    ∀ key ∈ (extract text .empty chosen).keys,
      marker ∉ key.toList ∧ marker ∉ (valueIn (extract text .empty chosen) key).toList := by
  intro key hkey
  have hfree : marker ∉ key.toList :=
    (isSplit_pieces text.toList).marker_not_mem _ (toList_mem_pieces (mem_keys_extract.1 hkey))
  exact ⟨hfree, h.marker_not_mem_extract text hfree⟩

/-- If the values are written for the tokens, no long text stands behind a marker. -/
theorem not_heldBehindMarker_of_substitute_eq_filled {v : List Char}
    (hlong : ∀ p ∈ pieces text.toList, p.length < v.length)
    (heq : substitute (extract text .empty chosen) text =
      filled (extract text .empty chosen) text) :
    ¬ HeldBehindMarker v (mergeAll (valueIn (extract text .empty chosen))
      (extract text .empty chosen).keys (pieces text.toList)) := by
  have hsplit := isSplit_pieces text.toList
  have hkeys := marker_not_mem_of_mem_keys_extract h text
  have hmerged := isSplit_mergeAll (fun key hkey => (hkeys key hkey).2) hsplit
  rw [substitute_eq_intercalate hkeys, filled, String.ofList_inj] at heq
  rw [← pieces_intercalate hmerged, heq]
  exact not_heldBehindMarker_written (fun _ => h.marker_not_mem_extract text)
    hsplit.marker_not_mem hlong

/-- If a key is found across tokens, there is a value for a token of the text with which
substitution gives something else. -/
theorem exists_substitute_ne_filled
    (hcrosses : ¬ KeepsTokensApart (extract text .empty chosen) text) :
    ∃ token ∈ tokens text, ∃ value : String, marker ∉ value.toList ∧
      substitute (extract text .empty (chosen.insert token value)) text ≠
        filled (extract text .empty (chosen.insert token value)) text := by
  -- A value that is longer than the text is in none of its keys and pieces.
  obtain ⟨value, hvalue, hlong⟩ : ∃ value : String, marker ∉ value.toList ∧
      ∀ p ∈ pieces text.toList, p.length < value.toList.length := by
    refine ⟨String.ofList (List.replicate (text.toList.length + 1) 'x'), by simp [marker],
      fun p hp => ?_⟩
    rw [String.toList_ofList, List.length_replicate]
    exact Nat.lt_succ_of_le (length_le_of_mem_pieces hp)
  obtain ⟨token, htoken, hheld⟩ := exists_heldBehindMarker
    (KeyMap.nodup_keys (extract text .empty chosen))
    (fun key hkey => hlong _ (toList_mem_pieces (mem_keys_extract.1 hkey)))
    (Bool.not_eq_true _ ▸ hcrosses)
  rw [mem_keys_extract] at htoken
  refine ⟨token, htoken, value, hvalue, fun heq => ?_⟩
  refine not_heldBehindMarker_of_substitute_eq_filled (h.insert token hvalue) hlong heq ?_
  rw [keys_extract text (chosen.insert token value) chosen]
  apply hheld
  · rw [valueIn_extract, if_pos htoken, valueIn, KeyMap.get?_insert_self, Option.getD_some]
  · intro other hother
    rw [valueIn_extract, valueIn_extract, valueIn, KeyMap.get?_insert_of_ne _ _ hother, valueIn]

end Extract

/-- **Extraction and substitution.** If no key is found across tokens of a text, the values of its
tokens are written in place of the tokens and their markers, and everything else is kept. If some
key is, this fails for some value. -/
theorem substitute_extract (text : String) (chosen : Replacements) (h : UnmarkedValues chosen) :
    (KeepsTokensApart (extract text .empty chosen) text →
        substitute (extract text .empty chosen) text =
          filled (extract text .empty chosen) text) ∧
      (¬ KeepsTokensApart (extract text .empty chosen) text →
        ∃ token ∈ tokens text, ∃ value : String, marker ∉ value.toList ∧
          substitute (extract text .empty (chosen.insert token value)) text ≠
            filled (extract text .empty (chosen.insert token value)) text) := by
  refine ⟨fun happart => ?_, exists_substitute_ne_filled h⟩
  rw [substitute_eq_intercalate (marker_not_mem_of_mem_keys_extract h text), filled,
    intercalate_mergeAll _ _ _ ?_ happart]
  exact fun piece hpiece => mem_keys_extract.2 (List.mem_map_of_mem hpiece)

/-- The last of three markers has no partner and is kept. -/
example : filled (extract "@A@ and @B" .empty (KeyMap.empty.insert "A" "x")) "@A@ and @B" =
    "x and @B" := by
  decide

/-- Values for a weapon and for a style. -/
def weaponValues : Replacements :=
  (KeyMap.empty.insert "Weapon" "Axe").insert "Style" "Viking"

theorem substitute_extract_weapon :
    UnmarkedValues weaponValues ∧
      KeepsTokensApart (extract "@Weapon@ (@Style@)" .empty weaponValues) "@Weapon@ (@Style@)" ∧
      substitute (extract "@Weapon@ (@Style@)" .empty weaponValues) "@Weapon@ (@Style@)" =
        filled (extract "@Weapon@ (@Style@)" .empty weaponValues) "@Weapon@ (@Style@)" ∧
      filled (extract "@Weapon@ (@Style@)" .empty weaponValues) "@Weapon@ (@Style@)" =
        "Axe (Viking)" :=
  ⟨by decide, by decide, (substitute_extract "@Weapon@ (@Style@)" weaponValues (by decide)).1
    (by decide), by decide⟩

/-- A text with a slash as a token, and with a slash between two other tokens. -/
def slashText : String := "@Left@/@Right@ (@/@)"

/-- Values for the tokens of `slashText`. -/
def slashValues : Replacements :=
  ((KeyMap.empty.insert "Left" "Sword").insert "Right" "Shield").insert "/" "or"

/-- The slash comes first and is found across the other two tokens, which are then lost. -/
theorem slashText_substitute_extract :
    UnmarkedValues slashValues ∧
      filled (extract slashText .empty slashValues) slashText = "Sword/Shield (or)" ∧
      substitute (extract slashText .empty slashValues) slashText = "@LeftorRight@ (or)" := by
  decide

end Placeholder

end CharacterSheet
