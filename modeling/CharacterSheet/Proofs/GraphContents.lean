import CharacterSheet.Proofs.ReportedLoops

/-!
# What a graph holds

Whatever nodes and edges are added to a graph, in which order and how often, it holds the ids that
were mentioned, each at one index of its own, and for each of them the targets that were added,
each once, `contents_ofAdditions`. The target whose edge was new last comes first.

An index never changes: what is kept at it stays there (`index?_add`). So the indices given for ids
along the way are those of the graph in the end, where they belong to one id each.
-/

namespace CharacterSheet.DefaultGraph

variable {g : DefaultGraph} {additions : List Addition} {id x : ItemId} {i : Nat}

/-! ### Indices -/

/-- The ids that additions look up or enter, one after the other, each with the index given for
it. -/
def indicesGiven (g : DefaultGraph) : List Addition → List (ItemId × Nat)
  | [] => []
  | .node id :: rest => (id, g.indexOf id) :: indicesGiven (g.addNode id) rest
  | .edge source target :: rest =>
    (source, g.indexOf source) :: (target, (g.addNode source).indexOf target) ::
      indicesGiven (g.addEdge source target) rest

theorem map_fst_indicesGiven (g : DefaultGraph) (additions : List Addition) :
    (indicesGiven g additions).map (·.1) = additions.flatMap Addition.ends := by
  induction additions generalizing g with
  | nil => rfl
  | cons a rest ih =>
      cases a with
      | node id => simp [indicesGiven, Addition.ends, ih]
      | edge source target => simp [indicesGiven, Addition.ends, ih]

/-- An addition keeps the indices of all nodes. -/
theorem index?_add (h : g.index? x = some i) (a : Addition) : (g.add a).index? x = some i := by
  rw [index?_eq_some_iff] at h ⊢
  cases a with
  | node id => exact getElem?_addNode h
  | edge source target =>
      rw [add, nodes_addEdge]
      exact getElem?_addNode (getElem?_addNode h)

theorem index?_foldl_add (h : g.index? x = some i) (additions : List Addition) :
    (additions.foldl add g).index? x = some i := by
  induction additions generalizing g with
  | nil => exact h
  | cons a rest ih => exact ih (index?_add h a)

/-- The indices that are given for the ends of an edge are theirs when it has been added. -/
theorem index?_ends_addEdge (g : DefaultGraph) (source target : ItemId) :
    (g.addEdge source target).index? source = some (g.indexOf source) ∧
      (g.addEdge source target).index? target = some ((g.addNode source).indexOf target) := by
  rw [index?_eq_some_iff, index?_eq_some_iff, nodes_addEdge]
  exact ⟨g.getElem?_indexOf_source source target, (g.addNode source).getElem?_indexOf target⟩

/-- The indices that are given on the way are those of the nodes in the end. -/
theorem index?_of_mem_indicesGiven {p : ItemId × Nat} (hp : p ∈ indicesGiven g additions) :
    (additions.foldl add g).index? p.1 = some p.2 := by
  induction additions generalizing g with
  | nil => exact absurd hp List.not_mem_nil
  | cons a rest ih =>
      rw [List.foldl_cons]
      cases a with
      | node id =>
          rcases List.mem_cons.1 hp with rfl | hp
          · exact index?_foldl_add (index?_eq_some_iff.2 (g.getElem?_indexOf id)) rest
          · exact ih hp
      | edge source target =>
          obtain ⟨hsource, htarget⟩ := g.index?_ends_addEdge source target
          rcases List.mem_cons.1 hp with rfl | hp
          · exact index?_foldl_add hsource rest
          · rcases List.mem_cons.1 hp with rfl | hp
            · exact index?_foldl_add htarget rest
            · exact ih hp

/-! ### Targets -/

/-- The target of an added edge from a node. -/
def Addition.targetFrom? (id : ItemId) : Addition → Option ItemId
  | node _ => none
  | edge source target => if source = id then some target else none

/-- The targets of the edges from a node, as often as they were added and in that order. -/
def targetsAdded (additions : List Addition) (id : ItemId) : List ItemId :=
  additions.filterMap (Addition.targetFrom? id)

theorem targetsAdded_concat (additions : List Addition) (a : Addition) (id : ItemId) :
    targetsAdded (additions ++ [a]) id =
      targetsAdded additions id ++ (a.targetFrom? id).toList := by
  rw [targetsAdded, List.filterMap_append, List.filterMap_cons, List.filterMap_nil]
  cases a.targetFrom? id <;> rfl

theorem targets_add_of_none {a : Addition} (h : a.targetFrom? id = none) :
    (g.add a).targets id = g.targets id := by
  cases a with
  | node x => rw [add, targets_eq, targets_eq, edges_addNode]
  | edge source target =>
      have hsource : source ≠ id := by simpa [Addition.targetFrom?] using h
      simp only [add, targets_eq, edges_addEdge]
      split
      · rfl
      · simp [hsource]

/-- A target that is new is put before the others. -/
theorem targets_add_of_some {a : Addition} (h : a.targetFrom? id = some x) :
    (g.add a).targets id = if x ∈ g.targets id then g.targets id else x :: g.targets id := by
  cases a with
  | node _ => exact nomatch h
  | edge source target =>
      obtain ⟨rfl, rfl⟩ : source = id ∧ target = x := by simpa [Addition.targetFrom?] using h
      rw [add, targets_eq, edges_addEdge]
      by_cases hedge : (source, target) ∈ g.edges
      · rw [if_pos hedge, if_pos (mem_targets.2 hedge), targets_eq]
      · rw [if_neg hedge, if_neg (mt mem_targets.1 hedge), targets_eq]
        simp

theorem eraseDups_concat (l : List ItemId) (x : ItemId) :
    (l ++ [x]).eraseDups = if x ∈ l then l.eraseDups else l.eraseDups ++ [x] := by
  rw [List.eraseDups_append]
  by_cases h : x ∈ l <;> simp [List.removeAll, List.eraseDups_cons, h]

/-- The targets of a node are those that were added, the one that was new last first. -/
theorem targets_ofAdditions (additions : List Addition) (id : ItemId) :
    (ofAdditions additions).targets id = (targetsAdded additions id).eraseDups.reverse := by
  induction additions using List.reverseRecOn with
  | nil => rfl
  | append_singleton before a ih =>
      have hadd : ofAdditions (before ++ [a]) = (ofAdditions before).add a := List.foldl_concat ..
      rw [hadd, targetsAdded_concat]
      cases ha : a.targetFrom? id with
      | none => rw [targets_add_of_none ha, ih, Option.toList_none, List.append_nil]
      | some target =>
          rw [targets_add_of_some ha, ih, Option.toList_some, eraseDups_concat]
          by_cases htarget : target ∈ targetsAdded before id <;> simp [htarget]

/-! ### The contents as a whole -/

theorem contains_iff : g.contains id = true ↔ id ∈ g.nodes := mem_nodes_iff.symm

/-- **A graph holds what was added**, whatever that was. Its ids are those that were mentioned. Each
mention was given an index, the same for equal ids and different ones for different ids. The targets
of an id are those that were added for it, each once, and the one that was new last comes first. -/
theorem contents_ofAdditions (additions : List Addition) :
    (∀ id, (ofAdditions additions).contains id = true ↔ ∃ a ∈ additions, id ∈ a.ends) ∧
      (indicesGiven empty additions).map (·.1) = additions.flatMap Addition.ends ∧
      (∀ p ∈ indicesGiven empty additions, ∀ q ∈ indicesGiven empty additions,
        p.1 = q.1 ↔ p.2 = q.2) ∧
      ∀ id, ((ofAdditions additions).targets id).Nodup ∧
        (∀ x, x ∈ (ofAdditions additions).targets id ↔ Adds additions id x) ∧
        (ofAdditions additions).targets id = (targetsAdded additions id).eraseDups.reverse := by
  refine ⟨fun id => contains_iff.trans mem_nodes_ofAdditions,
    map_fst_indicesGiven empty additions, fun p hp q hq => ?_,
    fun id => ⟨nodup_targets _ id, fun x => ?_, targets_ofAdditions additions id⟩⟩
  · have hp' := index?_of_mem_indicesGiven hp
    have hq' := index?_of_mem_indicesGiven hq
    constructor
    · intro hid
      rw [hid, hq', Option.some.injEq] at hp'
      exact hp'.symm
    · intro hindex
      rw [index?_eq_some_iff] at hp' hq'
      rw [hindex, hq', Option.some.injEq] at hp'
      exact hp'.symm
  · rw [mem_targets, ← hasEdge_ofAdditions]
    rfl

/-- Additions with an edge from a node to itself, edges added again, and nodes that come with an
edge before or after they are added themselves. -/
def mixedAdditions : List Addition :=
  [.edge ⟨7⟩ ⟨7⟩, .node ⟨2⟩, .edge ⟨7⟩ ⟨2⟩, .edge ⟨3⟩ ⟨7⟩, .edge ⟨7⟩ ⟨7⟩, .node ⟨3⟩,
    .edge ⟨7⟩ ⟨5⟩, .edge ⟨7⟩ ⟨2⟩]

theorem contents_of_mixedAdditions :
    ((⟨7⟩, 0) ∈ indicesGiven empty mixedAdditions ∧ (⟨3⟩, 2) ∈ indicesGiven empty mixedAdditions ∧
        ((⟨7⟩ : ItemId) = ⟨3⟩ ↔ 0 = 2)) ∧
      (ofAdditions mixedAdditions).targets ⟨7⟩ = [⟨5⟩, ⟨2⟩, ⟨7⟩] := by
  have hfirst : (⟨7⟩, 0) ∈ indicesGiven empty mixedAdditions := by decide
  have hthird : (⟨3⟩, 2) ∈ indicesGiven empty mixedAdditions := by decide
  obtain ⟨-, -, hindices, htargets⟩ := contents_ofAdditions mixedAdditions
  refine ⟨⟨hfirst, hthird, hindices _ hfirst _ hthird⟩, (htargets ⟨7⟩).2.2.trans ?_⟩
  decide

end CharacterSheet.DefaultGraph
