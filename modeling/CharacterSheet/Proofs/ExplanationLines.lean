import CharacterSheet.Proofs.Verdicts

/-!
# The lines of an explanation

Why a tree of prerequisites is not met is explained line by line: one line for its root and, below
a list, the lines of its members that are not met. Evaluation passes the start of a line down the
tree and changes it at every list. It is simpler to say at which depth each line stands,
`Prereq.unmetLines`, and how a line starts at a depth, `leadAt`; `Prereq.evaluate_eq_unmetLines`
states verdict and explanation of a tree of any shape in these terms.
-/

namespace CharacterSheet

/-- A line of an explanation: the depth of what it is about, and what it says. -/
structure ExplanationLine where
  depth : Nat
  text : String
deriving DecidableEq, Repr

/-- What a line at a depth starts with. The root's line starts with `lead`; every other one starts
with a line break, two blanks for each level, and `lead` without its line breaks in front. -/
def leadAt (lead : String) : (depth : Nat) → String
  | 0 => lead
  | depth + 1 =>
    String.ofList
      ('\n' :: List.replicate (2 * (depth + 1)) ' ' ++ lead.toList.dropWhile (· == '\n'))

/-- A line as it is written. -/
def ExplanationLine.written (lead : String) (l : ExplanationLine) : String :=
  leadAt lead l.depth ++ l.text

namespace Prereq

mutual

/-- The lines that explain a tree which is not met: one for its root, at `depth`, and below a list
those of its members that are not met, in the order of the members. -/
def unmetLines (s : Sheet) (excluded : Option ItemId) :
    (depth : Nat) → Prereq → List ExplanationLine
  | depth, leaf r => [⟨depth, r.line s⟩]
  | depth, list all _ members =>
    ⟨depth, heading all⟩ :: memberLines s excluded (depth + 1) members
termination_by structural _ p => p

def memberLines (s : Sheet) (excluded : Option ItemId) :
    (depth : Nat) → List Prereq → List ExplanationLine
  | _, [] => []
  | depth, p :: rest =>
    (if holds s excluded p then [] else unmetLines s excluded depth p) ++
      memberLines s excluded depth rest
termination_by structural _ ps => ps

end

/-- The members of a list stand one level below it. -/
theorem indent_leadAt (lead : String) (depth : Nat) :
    indent (leadAt lead depth) = leadAt lead (depth + 1) := by
  cases depth with
  | zero => simp [indent, leadAt, ← String.toList_inj]
  | succ depth =>
      -- Behind the line break of the list, which is dropped, stands a blank.
      have hblanks (n : Nat) :
          List.replicate (2 * (n + 1)) ' ' = ' ' :: ' ' :: List.replicate (2 * n) ' ' := rfl
      have hblank : (' ' == '\n') = false := rfl
      rw [indent, leadAt, leadAt, String.toList_ofList, ← String.toList_inj, hblanks (depth + 1),
        hblanks depth]
      simp [hblank]

mutual

/-- The explanation of a tree is what its lines say, one behind the other. -/
theorem explanation_eq_join (s : Sheet) (excluded : Option ItemId) (lead : String) :
    ∀ (p : Prereq) (depth : Nat),
      p.explanation s excluded (leadAt lead depth) =
        String.join ((unmetLines s excluded depth p).map (ExplanationLine.written lead))
  | leaf r, depth => by
      rw [explanation, unmetLines, List.map_singleton, String.join_cons, String.join_nil,
        String.append_empty, ExplanationLine.written]
  | list all whenTl members, depth => by
      rw [explanation, indent_leadAt, memberExplanations_eq_join s excluded lead members,
        unmetLines, List.map_cons, String.join_cons, ExplanationLine.written]

theorem memberExplanations_eq_join (s : Sheet) (excluded : Option ItemId) (lead : String) :
    ∀ (ps : List Prereq) (depth : Nat),
      memberExplanations s excluded ps (leadAt lead depth) =
        String.join ((memberLines s excluded depth ps).map (ExplanationLine.written lead))
  | [], depth => rfl
  | p :: rest, depth => by
      rw [memberExplanations, memberLines, memberExplanations_eq_join s excluded lead rest,
        explanation_eq_join s excluded lead p, List.map_append, String.join_append]
      cases p.holds s excluded with
      | true => rfl
      | false => rfl

end

/-- **Verdict and explanation.** A tree is judged by its Boolean reading, with and without a
tooltip. If it is met, the tooltip stays as it is, and if not, the lines for its root and for
everything below that is not met are written at its end. -/
theorem evaluate_eq_unmetLines (s : Sheet) (excluded : Option ItemId) (p : Prereq)
    (lead : String) :
    p.evaluate s excluded none lead = (p.holds s excluded, none) ∧
      ∀ tooltip : String,
        p.evaluate s excluded (some tooltip) lead =
          (p.holds s excluded,
            some (if p.holds s excluded then tooltip
              else tooltip ++
                String.join ((p.unmetLines s excluded 0).map (ExplanationLine.written lead)))) := by
  have hlines := explanation_eq_join s excluded lead p 0
  rw [leadAt] at hlines
  refine ⟨?_, fun tooltip => ?_⟩
  · rw [evaluate_eq, Option.map_none, ite_self]
  · rw [evaluate_eq, hlines]
    cases p.holds s excluded with
    | true => rfl
    | false => rfl

/-- A list within a list, on a sheet with nothing on it: the negated leaf is met and is not
explained. -/
example :
    (unmetLines {} none 0 <|
        list true .any [
          leaf (.ofTrait ⟨false, .is "Blind", .any, .any⟩),
          list false .any [leaf (.ofSkill ⟨true, .is "Bow", .any, .any⟩)]]).map
        (ExplanationLine.written "\n- ") =
      ["\n- Requires all of:", "\n  - Requires at least one of:",
        "\n    - has a skill whose name is \"Bow\""] := by
  decide

end Prereq

end CharacterSheet
