import Mathlib.Logic.Relation
import Mathlib.Order.Antisymmetrization
import Mathlib.Order.WellFounded
import CharacterSheet.Proofs.GraphWalk

/-!
# The loops that are reported

A graph is built by adding nodes and edges, `ofAdditions`. Its report holds loops only, one for
each edge that closes one, `cycles_ofAdditions`; and of every strongly connected component that has
loops it holds one at least, `exists_loop_in_component`.

The second part rests on what the walk leaves: without the closing edges no path comes back to
where it started. So a path that does so takes a closing edge, and the loop that was reported for
this edge stays in the component of the path.
-/

namespace CharacterSheet.DefaultGraph

open Relation (TransGen ReflTransGen)

/-! ### Graphs and what was added to them -/

/-- What can be added to a graph: a node, or an edge with its ends. -/
inductive Addition where
  | node (id : ItemId)
  | edge (source target : ItemId)
deriving DecidableEq, Repr

/-- The nodes that an addition mentions. -/
def Addition.ends : Addition → List ItemId
  | node id => [id]
  | edge source target => [source, target]

def add (g : DefaultGraph) : Addition → DefaultGraph
  | .node id => g.addNode id
  | .edge source target => g.addEdge source target

/-- The graph that additions lead to. -/
def ofAdditions (additions : List Addition) : DefaultGraph := additions.foldl add empty

/-- An edge between two nodes is among the additions. -/
def Adds (additions : List Addition) (source target : ItemId) : Prop :=
  .edge source target ∈ additions

theorem mem_nodes_add {g : DefaultGraph} {a : Addition} {x : ItemId} :
    x ∈ (g.add a).nodes ↔ x ∈ g.nodes ∨ x ∈ a.ends := by
  cases a with
  | node id => simp [add, mem_nodes_addNode, Addition.ends]
  | edge source target => simp [add, mem_nodes_addEdge, Addition.ends]

theorem hasEdge_add {g : DefaultGraph} {a : Addition} {x y : ItemId} :
    (g.add a).HasEdge x y ↔ g.HasEdge x y ∨ a = .edge x y := by
  cases a with
  | node id => simp [add, HasEdge]
  | edge source target =>
      rw [add, HasEdge, mem_edges_addEdge, or_comm, HasEdge]
      simp [eq_comm]

/-- The nodes of a graph are those that were mentioned. -/
theorem mem_nodes_ofAdditions {additions : List Addition} {x : ItemId} :
    x ∈ (ofAdditions additions).nodes ↔ ∃ a ∈ additions, x ∈ a.ends := by
  have hnodes := foldl_iff (x ∈ ·.nodes) add (fun _ _ => mem_nodes_add) additions empty
  exact hnodes.trans (or_iff_right List.not_mem_nil)

/-- The edges of a graph are those that were added. -/
theorem hasEdge_ofAdditions (additions : List Addition) :
    (ofAdditions additions).HasEdge = Adds additions := by
  funext x y
  have hedges := foldl_iff (·.HasEdge x y) add (fun _ _ => hasEdge_add) additions empty
  rw [exists_eq_right] at hedges
  exact propext (hedges.trans (or_iff_right List.not_mem_nil))

/-! ### Loops and components -/

/-- Two nodes can be reached from each other. -/
def StronglyConnected (edge : ItemId → ItemId → Prop) : ItemId → ItemId → Prop :=
  AntisymmRel (ReflTransGen edge)

/-- The strongly connected component of a node holds a loop: it has another node, or the node has
an edge to itself. -/
def InLoopingComponent (edge : ItemId → ItemId → Prop) (x : ItemId) : Prop :=
  (∃ y, y ≠ x ∧ StronglyConnected edge x y) ∨ edge x x

variable {edge : ItemId → ItemId → Prop} {l : List ItemId} {x y : ItemId}

theorem InLoopingComponent.transGen (h : InLoopingComponent edge x) : TransGen edge x x := by
  rcases h with ⟨y, hne, hxy, hyx⟩ | hself
  · have hxy' := (Relation.reflTransGen_iff_eq_or_transGen.1 hxy).resolve_left hne
    exact hxy'.trans_left hyx
  · exact .single hself

/-- From every node on a loop a path leads to every other one, and to itself. -/
theorem IsLoop.transGen (h : IsLoop edge l) (hx : x ∈ l) (hy : y ∈ l) : TransGen edge x y := by
  have hpairwise : l.Pairwise (TransGen edge) :=
    List.isChain_iff_pairwise.1 (h.chain.imp fun _ _ => .single)
  -- The loop is read once without its first node and once without its last, which are the same.
  obtain ⟨front, last, rfl⟩ : ∃ front last, l = front ++ [last] :=
    ⟨_, _, (List.dropLast_concat_getLast (List.ne_nil_of_mem hx)).symm⟩
  have hends := h.ends
  have hlength := h.two_le_length
  rcases front with _ | ⟨first, front⟩
  · simp at hlength
  obtain rfl : first = last := by simpa [List.getLast?_cons] using hends
  have hto : ∀ z ∈ first :: front, TransGen edge z first := fun z hz =>
    (List.pairwise_append.1 hpairwise).2.2 z hz first (List.mem_singleton_self first)
  have hfrom : ∀ z ∈ front ++ [first], TransGen edge first z :=
    (List.pairwise_cons.1 hpairwise).1
  have hloop : TransGen edge first first := hto first List.mem_cons_self
  have hto' : TransGen edge x first := by
    rcases List.mem_append.1 hx with hx | hx
    · exact hto x hx
    · exact List.mem_singleton.1 hx ▸ hloop
  have hfrom' : TransGen edge first y := by
    rcases List.mem_cons.1 hy with rfl | hy
    · exact hloop
    · exact hfrom y hy
  exact hto'.trans hfrom'

/-! ### What is reported -/

variable {g : DefaultGraph}

theorem isLoop_of_mem_cycles (h : l ∈ g.cycles) : IsLoop g.HasEdge l :=
  (walking_walk g).1.isLoop l (List.mem_reverse.1 h)

theorem map_rtake_cycles (g : DefaultGraph) :
    g.cycles.map (·.rtake 2) = g.walk.closing.reverse :=
  List.map_reverse

/-- A path within a component whose edges close no reported loop is a path of such edges. -/
theorem transGen_unclosed
    (h : ∀ a b, ReflTransGen g.HasEdge x a → g.HasEdge a b → ReflTransGen g.HasEdge b x →
      [a, b] ∉ g.walk.closing)
    (hy : TransGen g.HasEdge x y) (hback : ReflTransGen g.HasEdge y x) :
    TransGen (fun a b => g.HasEdge a b ∧ [a, b] ∉ g.walk.closing) x y := by
  induction hy with
  | single hedge => exact .single ⟨hedge, h _ _ .refl hedge hback⟩
  | tail hpath hedge ih =>
      have hopen := h _ _ hpath.to_reflTransGen hedge hback
      exact (ih (hback.head hedge)).tail ⟨hedge, hopen⟩

/-- The loop that was reported for an edge within a component stays in the component. -/
theorem exists_mem_cycles_of_mem_closing {a b : ItemId} (hxb : ReflTransGen g.HasEdge x b)
    (hbx : ReflTransGen g.HasEdge b x) (hclosed : [a, b] ∈ g.walk.closing) :
    ∃ l ∈ g.cycles, ∀ y ∈ l, StronglyConnected g.HasEdge x y := by
  obtain ⟨l, hl, hrtake⟩ := List.mem_map.1 hclosed
  have hcycle : l ∈ g.cycles := List.mem_reverse.2 hl
  have hb : b ∈ l := List.mem_of_mem_drop (hrtake ▸ List.mem_cons_of_mem a List.mem_cons_self)
  have hloop := isLoop_of_mem_cycles hcycle
  refine ⟨l, hcycle, fun y hy => ⟨?_, ?_⟩⟩
  · exact hxb.trans (hloop.transGen hb hy).to_reflTransGen
  · exact (hloop.transGen hy hb).to_reflTransGen.trans hbx

/-- A node that a path leads back to has a reported loop in its component. -/
theorem exists_mem_cycles_of_transGen (h : TransGen g.HasEdge x x) :
    ∃ l ∈ g.cycles, ∀ y ∈ l, StronglyConnected g.HasEdge x y := by
  by_contra hnone
  have hunclosed : TransGen (fun a b => g.HasEdge a b ∧ [a, b] ∉ g.walk.closing) x x := by
    refine transGen_unclosed (fun a b hxa hedge hbx hclosed => hnone ?_) h .refl
    exact exists_mem_cycles_of_mem_closing (hxa.tail hedge) hbx hclosed
  rw [← Relation.transGen_swap] at hunclosed
  exact (wellFounded_unclosed g).transGen.irrefl.irrefl x hunclosed

/-- **Every component with a loop is reported**: for some loop of the report, all of its nodes are
in the component. So nothing is reported exactly when no path leads back to where it started. -/
theorem exists_loop_in_component (additions : List Addition) :
    (∀ x, InLoopingComponent (Adds additions) x →
        ∃ l ∈ (ofAdditions additions).cycles, l ≠ [] ∧
          ∀ y ∈ l, StronglyConnected (Adds additions) x y) ∧
      ((ofAdditions additions).cycles = [] ↔ ∀ x, ¬ TransGen (Adds additions) x x) := by
  rw [← hasEdge_ofAdditions]
  refine ⟨fun x hx => ?_, fun hnil x hx => ?_, fun hnone => ?_⟩
  · obtain ⟨l, hl, hcomponent⟩ := exists_mem_cycles_of_transGen hx.transGen
    have hlength := (isLoop_of_mem_cycles hl).two_le_length
    exact ⟨l, hl, List.ne_nil_of_length_pos (by omega), hcomponent⟩
  · obtain ⟨l, hl, -⟩ := exists_mem_cycles_of_transGen hx
    rw [hnil] at hl
    exact List.not_mem_nil hl
  · refine List.eq_nil_iff_forall_not_mem.2 fun l hl => ?_
    have hloop := isLoop_of_mem_cycles hl
    have hlength := hloop.two_le_length
    obtain ⟨x, hx⟩ := List.exists_mem_of_length_pos (l := l) (by omega)
    exact hnone x (hloop.transGen hx hx)

/-- **What is reported** are loops along added edges, each with a closing edge of its own, found on
a walk that visits each node once. -/
theorem cycles_ofAdditions (additions : List Addition) :
    (∀ l ∈ (ofAdditions additions).cycles, IsLoop (Adds additions) l) ∧
      ((ofAdditions additions).cycles.map (·.rtake 2)).Nodup ∧
      (ofAdditions additions).walk.visited.Nodup ∧
      ∀ x, x ∈ (ofAdditions additions).walk.visited ↔ ∃ a ∈ additions, x ∈ a.ends := by
  obtain ⟨hwalking, hall⟩ := walking_walk (ofAdditions additions)
  rw [← hasEdge_ofAdditions, map_rtake_cycles, List.nodup_reverse]
  refine ⟨fun l hl => isLoop_of_mem_cycles hl, hwalking.closing_nodup, hwalking.visited_nodup,
    fun x => ?_⟩
  rw [← mem_nodes_ofAdditions]
  exact ⟨fun hx => hwalking.visited_nodes hx, fun hx => (hall x hx).1⟩

/-- A loop of three nodes with a node that leads to it, and a node with an edge to itself. -/
example :
    (ofAdditions [.edge ⟨9⟩ ⟨1⟩, .edge ⟨1⟩ ⟨2⟩, .edge ⟨2⟩ ⟨3⟩, .edge ⟨3⟩ ⟨1⟩,
      .edge ⟨5⟩ ⟨5⟩]).cycles = [[⟨1⟩, ⟨2⟩, ⟨3⟩, ⟨1⟩], [⟨5⟩, ⟨5⟩]] := by
  decide

end CharacterSheet.DefaultGraph
