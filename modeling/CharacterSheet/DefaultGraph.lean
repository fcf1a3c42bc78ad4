import CharacterSheet.Sheet

/-!
# The graph of skill defaults

The skills of a sheet are nodes; an edge leads from a skill to every skill that one of
its skill-based defaults names. Levels are computed without this graph, but loops in it
are worth reporting to whoever wrote the defaults.

`cycles` walks the graph depth first and reports a loop for every edge that leads back
to a node on the current path.
-/

namespace CharacterSheet

/-- A directed graph on item ids. Every node has an index, the nodes are kept by their indices and
the indices are found by the ids of the nodes. Every edge is listed once, and its ends are indices
of nodes. -/
structure DefaultGraph where
  /-- The node at each index, in the order in which nodes were added. -/
  nodes : List ItemId := []
  /-- The index of each node under its id. -/
  indices : List (ItemId × Nat) := []
  /-- The edges between indices, the one added last first. -/
  links : List (Nat × Nat) := []
  /-- An id leads to the index at which it is kept, and to no other. -/
  lookup_indices : ∀ id i, indices.lookup id = some i ↔ nodes[i]? = some id := by simp
  links_nodup : links.Nodup := by exact List.nodup_nil
  links_lt : ∀ l ∈ links, l.1 < nodes.length ∧ l.2 < nodes.length := by
    exact fun _ h => absurd h List.not_mem_nil
deriving Repr

namespace DefaultGraph

/-- The graph without nodes. -/
def empty : DefaultGraph := {}

instance : Inhabited DefaultGraph := ⟨empty⟩

/-! ### Nodes and their indices -/

/-- The index of a node. -/
def index? (g : DefaultGraph) (id : ItemId) : Option Nat := g.indices.lookup id

theorem index?_eq_some_iff {g : DefaultGraph} {id : ItemId} {i : Nat} :
    g.index? id = some i ↔ g.nodes[i]? = some id :=
  g.lookup_indices id i

theorem mem_nodes_iff {g : DefaultGraph} {id : ItemId} :
    id ∈ g.nodes ↔ (g.index? id).isSome = true := by
  simp only [List.mem_iff_getElem?, Option.isSome_iff_exists, index?_eq_some_iff]

theorem getElem?_concat (nodes : List ItemId) (id : ItemId) (i : Nat) :
    (nodes ++ [id])[i]? = if i = nodes.length then some id else nodes[i]? := by
  split
  · next h => rw [h, List.getElem?_concat_length]
  · next h =>
    rcases Nat.lt_or_gt_of_ne h with hlt | hgt
    · exact List.getElem?_append_left hlt
    · have hbeyond : (nodes ++ [id]).length ≤ i := by
        rw [List.length_append, List.length_singleton]
        exact hgt
      rw [List.getElem?_eq_none hbeyond, List.getElem?_eq_none (Nat.le_of_lt hgt)]

/-- A node without an index can be kept at the next index. -/
theorem lookup_indices_cons {g : DefaultGraph} {id : ItemId} (h : g.indices.lookup id = none)
    (x : ItemId) (i : Nat) :
    ((id, g.nodes.length) :: g.indices).lookup x = some i ↔ (g.nodes ++ [id])[i]? = some x := by
  have hlookup : ((id, g.nodes.length) :: g.indices).lookup x =
      if x = id then some g.nodes.length else g.indices.lookup x := by
    rw [List.lookup_cons]
    by_cases hx : x = id
    · simp [hx]
    · simp [hx, beq_eq_false_iff_ne.2 hx]
  have hold := g.lookup_indices x i
  rw [hlookup, getElem?_concat]
  by_cases hx : x = id
  · subst hx
    rw [h] at hold
    by_cases hi : i = g.nodes.length
    · simp [hi]
    · simp [hi, ← hold, Ne.symm hi]
  · rw [if_neg hx, hold]
    split
    · next hi => simp [hi, Ne.symm hx]
    · rfl

/-- Looks up the index of a node. A node that is new gets the next index. -/
def enter (g : DefaultGraph) (id : ItemId) : DefaultGraph × Nat :=
  match h : g.indices.lookup id with
  | some i => (g, i)
  | none =>
    ({ g with
      nodes := g.nodes ++ [id]
      indices := (id, g.nodes.length) :: g.indices
      lookup_indices := lookup_indices_cons h
      links_lt := fun l hl => by
        rw [List.length_append]
        exact (g.links_lt l hl).imp (Nat.lt_add_right 1) (Nat.lt_add_right 1) },
      g.nodes.length)

/-- Adds a node, if it is new. -/
def addNode (g : DefaultGraph) (id : ItemId) : DefaultGraph := (g.enter id).1

/-- The index that a node has, or gets when it is added. -/
def indexOf (g : DefaultGraph) (id : ItemId) : Nat := (g.enter id).2

def contains (g : DefaultGraph) (id : ItemId) : Bool := (g.index? id).isSome

/-- A node that is known is left as it is; another one is put behind the others. -/
theorem enter_cases (g : DefaultGraph) (id : ItemId) :
    (g.index? id = some (g.indexOf id) ∧ g.addNode id = g) ∨
      (g.index? id = none ∧ g.indexOf id = g.nodes.length ∧
        (g.addNode id).nodes = g.nodes ++ [id] ∧ (g.addNode id).links = g.links) := by
  unfold indexOf addNode enter
  split
  · next i h => exact .inl ⟨h, rfl⟩
  · next h => exact .inr ⟨h, rfl, rfl, rfl⟩

@[simp] theorem links_addNode {g : DefaultGraph} {id : ItemId} :
    (g.addNode id).links = g.links := by
  rcases g.enter_cases id with ⟨-, h⟩ | ⟨-, -, -, h⟩
  · rw [h]
  · exact h

theorem nodes_prefix_addNode (g : DefaultGraph) (id : ItemId) :
    g.nodes <+: (g.addNode id).nodes := by
  rcases g.enter_cases id with ⟨-, h⟩ | ⟨-, -, h, -⟩
  · exact ⟨[], by rw [h, List.append_nil]⟩
  · exact ⟨[id], h.symm⟩

/-- An added node is kept at its index. -/
theorem getElem?_indexOf (g : DefaultGraph) (id : ItemId) :
    (g.addNode id).nodes[g.indexOf id]? = some id := by
  rcases g.enter_cases id with ⟨hindex, h⟩ | ⟨-, hindex, h, -⟩
  · rw [h]
    exact index?_eq_some_iff.1 hindex
  · rw [h, hindex, List.getElem?_concat_length]

/-- The nodes after a node was added. -/
theorem mem_nodes_addNode {g : DefaultGraph} {id x : ItemId} :
    x ∈ (g.addNode id).nodes ↔ x ∈ g.nodes ∨ x = id := by
  rcases g.enter_cases id with ⟨hindex, h⟩ | ⟨-, -, h, -⟩
  · rw [h]
    refine ⟨.inl, fun hx => hx.elim (·) fun heq => ?_⟩
    rw [heq, mem_nodes_iff, hindex]
    rfl
  · rw [h, List.mem_append, List.mem_singleton]

/-- What is kept at an index stays there. -/
theorem getElem?_addNode {g : DefaultGraph} {id x : ItemId} {i : Nat}
    (h : g.nodes[i]? = some x) : (g.addNode id).nodes[i]? = some x := by
  obtain ⟨behind, heq⟩ := g.nodes_prefix_addNode id
  rw [← heq, List.getElem?_append_left (List.getElem?_eq_some_iff.1 h).1, h]

/-! ### Edges -/

/-- The first end of an edge is still kept at its index when the second one has been added. -/
theorem getElem?_indexOf_source (g : DefaultGraph) (source target : ItemId) :
    ((g.addNode source).addNode target).nodes[g.indexOf source]? = some source :=
  getElem?_addNode (g.getElem?_indexOf source)

/-- Adds an edge with its ends, as far as they are new. -/
def addEdge (g : DefaultGraph) (source target : ItemId) : DefaultGraph :=
  let g' := g.addNode source
  let link := (g.indexOf source, g'.indexOf target)
  let g' := g'.addNode target
  if h : link ∈ g'.links then g'
  else
    { g' with
      links := link :: g'.links
      links_nodup := List.nodup_cons.2 ⟨h, g'.links_nodup⟩
      links_lt := fun l hl => by
        rcases List.mem_cons.1 hl with rfl | hl
        · have hsource := g.getElem?_indexOf_source source target
          have htarget := (g.addNode source).getElem?_indexOf target
          exact ⟨(List.getElem?_eq_some_iff.1 hsource).1, (List.getElem?_eq_some_iff.1 htarget).1⟩
        · exact g'.links_lt l hl }

theorem nodes_addEdge (g : DefaultGraph) (source target : ItemId) :
    (g.addEdge source target).nodes = ((g.addNode source).addNode target).nodes := by
  simp only [addEdge]
  split <;> rfl

/-- The nodes after an edge was added. -/
theorem mem_nodes_addEdge {g : DefaultGraph} {source target x : ItemId} :
    x ∈ (g.addEdge source target).nodes ↔ x ∈ g.nodes ∨ x = source ∨ x = target := by
  rw [nodes_addEdge, mem_nodes_addNode, mem_nodes_addNode, or_assoc]

/-- The targets of the edges from a node, the one added last first. -/
def targets (g : DefaultGraph) (id : ItemId) : List ItemId :=
  match g.index? id with
  | some i => (g.links.filter fun l => l.1 == i).filterMap fun l => g.nodes[l.2]?
  | none => []

/-! ### Loops -/

/-- The state of a walk: the nodes visited and the loops found, each the last one first. -/
structure Walk where
  visited : List ItemId := []
  found : List (List ItemId) := []
deriving DecidableEq, Repr

/-- The loop that an edge back to `node` closes, where `path` leads to the source of the
edge and has its last node first. -/
def loopTo (node : ItemId) (path : List ItemId) : List ItemId :=
  node :: (path.takeWhile (· != node)).reverse ++ [node]

/-- Visits a node and, depth first, the nodes that it leads to. `path` leads to the node
and has its last node first; no path is longer than `depth`. -/
def visit (g : DefaultGraph) : (depth : Nat) → (path : List ItemId) → Walk → ItemId → Walk
  | 0, _, w, _ => w
  | depth + 1, path, w, node =>
    (g.targets node).foldl
      (fun w next =>
        if next ∈ node :: path then { w with found := loopTo next (node :: path) :: w.found }
        else if next ∈ w.visited then w
        else visit g depth (node :: path) w next)
      { w with visited := node :: w.visited }

/-- Walks the whole graph, from the nodes in the order in which they were added. -/
def walk (g : DefaultGraph) : Walk :=
  g.nodes.foldl
    (fun w node => if node ∈ w.visited then w else g.visit g.nodes.length [] w node) {}

/-- The loops of the graph: each a path from a node back to it. -/
def cycles (g : DefaultGraph) : List (List ItemId) := g.walk.found.reverse

/-! ### The graph of a sheet -/

/-- Adds a skill and its edges. -/
def addSkill (s : Sheet) (g : DefaultGraph) (k : Skill) : DefaultGraph :=
  (k.defaults.filter SkillDefault.isSkillBased).foldl
    (fun g d =>
      (s.skillsNamed (d.nameWith k.replacements) (d.specializationWith k.replacements) false
        .empty).foldl (fun g target => g.addEdge k.id target.id) g)
    (g.addNode k.id)

/-- The graph of the defaults of the skills on a sheet. -/
def ofSheet (s : Sheet) : DefaultGraph := s.skills.foldl (addSkill s) empty

end DefaultGraph

end CharacterSheet
