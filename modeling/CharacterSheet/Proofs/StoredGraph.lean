import Mathlib.Data.List.Nodup
import CharacterSheet.DefaultGraph

/-!
# Nodes and edges of a graph

A graph keeps its nodes by index and its edges as pairs of indices. Its theory is about edges
between nodes, `edges`. As every node has one index only, each edge is listed once there, too, and
the lists of targets are read off it, `targets_eq`.
-/

namespace CharacterSheet.DefaultGraph

/-- The nodes at the ends of an edge. -/
def ends? (g : DefaultGraph) (l : Nat × Nat) : Option (ItemId × ItemId) :=
  g.nodes[l.1]?.bind fun source => g.nodes[l.2]?.map fun target => (source, target)

/-- The edges as pairs of nodes, the one added last first. -/
def edges (g : DefaultGraph) : List (ItemId × ItemId) := g.links.filterMap g.ends?

theorem ends?_eq_some_iff {g : DefaultGraph} {l : Nat × Nat} {e : ItemId × ItemId} :
    g.ends? l = some e ↔ g.nodes[l.1]? = some e.1 ∧ g.nodes[l.2]? = some e.2 := by
  obtain ⟨source, target⟩ := e
  simp [ends?, Option.bind_eq_some_iff, Option.map_eq_some_iff]

/-- Every edge has its ends. -/
theorem exists_ends? (g : DefaultGraph) {l : Nat × Nat} (hl : l ∈ g.links) :
    ∃ e, g.ends? l = some e := by
  obtain ⟨hsource, htarget⟩ := g.links_lt l hl
  exact ⟨(g.nodes[l.1], g.nodes[l.2]), ends?_eq_some_iff.2
    ⟨List.getElem?_eq_getElem hsource, List.getElem?_eq_getElem htarget⟩⟩

/-- The ends of an edge say which edge it is. -/
theorem eq_of_ends? {g : DefaultGraph} {l l' : Nat × Nat} {e : ItemId × ItemId}
    (h : g.ends? l = some e) (h' : g.ends? l' = some e) : l = l' := by
  rw [ends?_eq_some_iff, ← index?_eq_some_iff, ← index?_eq_some_iff] at h h'
  exact Prod.ext (Option.some.inj (h.1.symm.trans h'.1)) (Option.some.inj (h.2.symm.trans h'.2))

theorem mem_edges_iff {g : DefaultGraph} {l : Nat × Nat} {e : ItemId × ItemId}
    (h : g.ends? l = some e) : e ∈ g.edges ↔ l ∈ g.links := by
  rw [edges, List.mem_filterMap]
  exact ⟨fun ⟨l', hl', h'⟩ => eq_of_ends? h h' ▸ hl', fun hl => ⟨l, hl, h⟩⟩

/-- No node is kept at two indices. -/
theorem nodes_nodup (g : DefaultGraph) : g.nodes.Nodup := by
  refine List.nodup_iff_getElem?_ne_getElem?.2 fun i j hij hj heq => ?_
  have hnode : g.nodes[j]? = some g.nodes[j] := List.getElem?_eq_getElem hj
  have hindex := index?_eq_some_iff.2 hnode
  rw [index?_eq_some_iff.2 (heq.trans hnode), Option.some.injEq] at hindex
  exact Nat.ne_of_lt hij hindex

theorem edges_nodup (g : DefaultGraph) : g.edges.Nodup := by
  rw [edges]
  exact g.links_nodup.filterMap fun _ _ _ h h' => eq_of_ends? h h'

/-- The ends of every edge are nodes. -/
theorem ends_mem (g : DefaultGraph) : ∀ e ∈ g.edges, e.1 ∈ g.nodes ∧ e.2 ∈ g.nodes := by
  intro e he
  rw [edges] at he
  obtain ⟨l, -, hends⟩ := List.mem_filterMap.1 he
  obtain ⟨hsource, htarget⟩ := ends?_eq_some_iff.1 hends
  exact ⟨List.mem_of_getElem? hsource, List.mem_of_getElem? htarget⟩

@[simp] theorem edges_addNode {g : DefaultGraph} {id : ItemId} :
    (g.addNode id).edges = g.edges := by
  rw [edges, edges, links_addNode]
  refine List.filterMap_congr fun l hl => ?_
  obtain ⟨e, he⟩ := g.exists_ends? hl
  rw [he, ends?_eq_some_iff]
  exact (ends?_eq_some_iff.1 he).imp getElem?_addNode getElem?_addNode

/-- An edge that is new is put before the others. -/
theorem edges_addEdge (g : DefaultGraph) (source target : ItemId) :
    (g.addEdge source target).edges =
      if (source, target) ∈ g.edges then g.edges else (source, target) :: g.edges := by
  have hends : ((g.addNode source).addNode target).ends?
      (g.indexOf source, (g.addNode source).indexOf target) = some (source, target) :=
    ends?_eq_some_iff.2
      ⟨g.getElem?_indexOf_source source target, (g.addNode source).getElem?_indexOf target⟩
  have hmem := mem_edges_iff hends
  have hedges : ((g.addNode source).addNode target).edges = g.edges := by
    rw [edges_addNode, edges_addNode]
  rw [hedges] at hmem
  simp only [addEdge]
  split
  · next h => rw [if_pos (hmem.2 h), hedges]
  · next h =>
    rw [if_neg (mt hmem.1 h), ← hedges, edges, edges]
    exact List.filterMap_cons_some hends

/-- The edges after an edge was added. -/
theorem mem_edges_addEdge {g : DefaultGraph} {source target : ItemId} {e : ItemId × ItemId} :
    e ∈ (g.addEdge source target).edges ↔ e = (source, target) ∨ e ∈ g.edges := by
  rw [edges_addEdge]
  split
  · next h => exact ⟨.inr, fun he => he.elim (fun heq => heq ▸ h) (·)⟩
  · exact List.mem_cons

/-- The targets of a node are read off the edges. -/
theorem targets_eq (g : DefaultGraph) (id : ItemId) :
    g.targets id = (g.edges.filter fun e => e.1 == id).map (·.2) := by
  -- An edge leads from the node exactly if its first index is that of the node.
  have hlink : ∀ l ∈ g.links, ((g.ends? l).filter fun e => e.1 == id).map (·.2) =
      if g.index? id = some l.1 then g.nodes[l.2]? else none := by
    intro l hl
    obtain ⟨⟨source, target⟩, hends⟩ := g.exists_ends? hl
    obtain ⟨hsource, htarget⟩ := ends?_eq_some_iff.1 hends
    have hindex : g.index? id = some l.1 ↔ source = id := by
      rw [index?_eq_some_iff, hsource, Option.some.injEq]
    rw [hends, htarget]
    by_cases hid : source = id <;> simp [hindex, hid]
  rw [edges, List.filter_filterMap, List.map_filterMap, List.filterMap_congr hlink, targets]
  cases g.index? id with
  | none => simp
  | some i =>
    refine List.filterMap_filter.trans (List.filterMap_congr fun l _ => ?_)
    by_cases hl : l.1 = i
    · simp [hl]
    · simp [hl, Ne.symm hl]

theorem mem_targets {g : DefaultGraph} {id x : ItemId} : x ∈ g.targets id ↔ (id, x) ∈ g.edges := by
  simp [targets_eq]

end CharacterSheet.DefaultGraph
