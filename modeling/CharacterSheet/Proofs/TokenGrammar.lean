import CharacterSheet.Proofs.Substitution

/-!
# The grammar of tokens

A token of a text stands between two markers, with no marker in it, and opens with the first,
third, fifth, … marker of the text: `IsTokenOf`. Extraction does not read the text like that. It
cuts the text at all markers and takes every second piece but a last one, which has no marker
behind it. Both come to the same tokens, `mem_tokens_iff`, and so extraction stores the tokens of
the grammar and leaves what is stored under other keys, `get?_extract_eq_some_iff`.
-/

namespace CharacterSheet

namespace Placeholder

/-- A token of a text has no marker in it and stands between two markers, with an even number of
markers before them. -/
def IsTokenOf (token text : String) : Prop :=
  marker ∉ token.toList ∧
    ∃ before behind : String,
      text = before ++ "@" ++ token ++ "@" ++ behind ∧ before.toList.count marker % 2 = 0

/-! ### Every second piece -/

theorem mem_everySecond_iff {α : Type} {x : α} {l : List α} :
    x ∈ everySecond l ↔ ∃ front back, l = front ++ x :: back ∧ front.length % 2 = 1 := by
  fun_induction everySecond l with
  | case1 a b rest ih =>
      rw [List.mem_cons, ih]
      constructor
      · rintro (rfl | ⟨front, back, rfl, hodd⟩)
        · exact ⟨[a], rest, rfl, rfl⟩
        · refine ⟨a :: b :: front, back, rfl, ?_⟩
          rw [List.length_cons, List.length_cons]
          omega
      · rintro ⟨front, back, heq, hodd⟩
        rcases front with _ | ⟨a', _ | ⟨b', front⟩⟩
        · exact absurd hodd (by simp)
        · simp only [List.singleton_append, List.cons.injEq] at heq
          exact .inl heq.2.1.symm
        · simp only [List.cons_append, List.cons.injEq] at heq
          rw [List.length_cons, List.length_cons] at hodd
          exact .inr ⟨front, back, heq.2.2, by omega⟩
  | case2 l hshort =>
      constructor
      · intro h
        exact absurd h List.not_mem_nil
      · rintro ⟨front, back, rfl, hodd⟩
        rcases front with _ | ⟨a, _ | ⟨b, front⟩⟩
        · exact absurd hodd (by simp)
        · exact absurd rfl (hshort a x back)
        · exact absurd rfl (hshort a b (front ++ x :: back))

/-- The pieces that are tokens have an odd number of pieces before them and some behind them. -/
theorem mem_tokenPieces_iff {piece : List Char} {ps : List (List Char)} :
    piece ∈ tokenPieces ps ↔
      ∃ front back, ps = front ++ piece :: back ∧ front.length % 2 = 1 ∧ back ≠ [] := by
  rw [tokenPieces, mem_everySecond_iff]
  constructor
  · rintro ⟨front, back, heq, hodd⟩
    have hne : ps ≠ [] := by
      rintro rfl
      simp at heq
    refine ⟨front, back ++ [ps.getLast hne], ?_, hodd, by simp⟩
    rw [← List.cons_append, ← List.append_assoc, ← heq, List.dropLast_concat_getLast hne]
  · rintro ⟨front, back, rfl, hodd, hback⟩
    refine ⟨front, back.dropLast, ?_, hodd⟩
    rw [List.dropLast_append_of_ne_nil (List.cons_ne_nil piece back),
      List.dropLast_cons_of_ne_nil hback]

theorem intercalate_append {front back : List (List Char)} (hfront : front ≠ [])
    (hback : back ≠ []) :
    [marker].intercalate (front ++ back) =
      [marker].intercalate front ++ marker :: [marker].intercalate back := by
  induction front with
  | nil => exact absurd rfl hfront
  | cons p rest ih =>
      cases rest with
      | nil =>
          rw [List.singleton_append, List.intercalate_cons_of_ne_nil hback,
            List.intercalate_singleton, List.append_assoc, List.singleton_append]
      | cons q rest =>
          simp only [List.cons_append, List.intercalate_cons_cons, List.append_assoc] at ih ⊢
          rw [ih (List.cons_ne_nil q rest)]

/-! ### Tokens -/

/-- A text without markers is a token exactly if it stands between two markers somewhere, with an
even number of markers before them. -/
theorem mem_tokenPieces_pieces_iff {piece text : List Char} :
    piece ∈ tokenPieces (pieces text) ↔
      marker ∉ piece ∧ ∃ before behind,
        text = before ++ marker :: (piece ++ marker :: behind) ∧ before.count marker % 2 = 0 := by
  rw [mem_tokenPieces_iff]
  constructor
  · rintro ⟨front, back, hpieces, hodd, hback⟩
    have hsplit := isSplit_pieces text
    rw [hpieces] at hsplit
    have hfront : front ≠ [] := by
      rintro rfl
      simp at hodd
    have hbefore : IsSplit front :=
      ⟨hfront, fun p hp => hsplit.marker_not_mem p (List.mem_append_left _ hp)⟩
    refine ⟨hsplit.marker_not_mem piece (by simp), [marker].intercalate front,
      [marker].intercalate back, ?_, ?_⟩
    · rw [← intercalate_pieces text, hpieces,
        intercalate_append hfront (List.cons_ne_nil piece back),
        List.intercalate_cons_of_ne_nil hback, List.append_assoc, List.singleton_append]
    · have hlength := length_pieces ([marker].intercalate front)
      rw [pieces_intercalate hbefore] at hlength
      omega
  · rintro ⟨hpiece, before, behind, rfl, heven⟩
    refine ⟨pieces before, pieces behind, ?_, ?_, pieces_ne_nil behind⟩
    · rw [pieces_append_cons_marker, pieces_append_marker hpiece]
    · rw [length_pieces]
      omega

/-- The tokens of a text are those of the grammar. -/
theorem mem_tokens_iff {token text : String} : token ∈ tokens text ↔ IsTokenOf token text := by
  have hpiece : token ∈ tokens text ↔ token.toList ∈ tokenPieces (pieces text.toList) := by
    simp only [tokens, tokenPieces, List.mem_map]
    constructor
    · rintro ⟨piece, hmem, rfl⟩
      rwa [String.toList_ofList]
    · intro hmem
      exact ⟨token.toList, hmem, String.ofList_toList⟩
  rw [hpiece, mem_tokenPieces_pieces_iff, IsTokenOf]
  refine and_congr_right fun _ => ⟨?_, ?_⟩
  · rintro ⟨before, behind, htext, heven⟩
    refine ⟨String.ofList before, String.ofList behind, ?_, ?_⟩
    · rw [← String.toList_inj, htext]
      simp [marker]
    · rwa [String.toList_ofList]
  · rintro ⟨before, behind, rfl, heven⟩
    refine ⟨before.toList, behind.toList, ?_, heven⟩
    simp [marker]

/-- **Extraction stores the tokens of the grammar.** After extraction the value under a key is the
one chosen for it, or else the key itself, if the key is a token of the text, and is the value that
was there before if it is none. -/
theorem get?_extract_eq_some_iff (text : String) (found chosen : Replacements)
    (key value : String) :
    (extract text found chosen).get? key = some value ↔
      (IsTokenOf key text ∧ value = (chosen.get? key).getD key) ∨
        (¬ IsTokenOf key text ∧ found.get? key = some value) := by
  rw [get?_extract]
  split
  · next htoken =>
    have hgrammar : IsTokenOf key text := mem_tokens_iff.1 htoken
    simp [hgrammar, valueIn, eq_comm]
  · next htoken =>
    have hgrammar : ¬ IsTokenOf key text := fun h => htoken (mem_tokens_iff.2 h)
    simp [hgrammar]

/-- Of three markers the last opens no token, and two markers side by side have the empty token
between them. -/
example : tokens "@A@ and @B" = ["A"] ∧ tokens "@@ or @A@" = ["", "A"] := by decide

end Placeholder

end CharacterSheet
