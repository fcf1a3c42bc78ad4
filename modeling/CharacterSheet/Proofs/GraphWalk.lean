import Mathlib.Data.List.Chain
import Mathlib.Data.List.DropRight
import Mathlib.Data.List.Nodup
import Mathlib.Data.List.Perm.Subperm
import CharacterSheet.Proofs.StoredGraph

/-!
# Walks through the graph of defaults

The walk that looks for loops visits every node once and reports a loop for every edge that leads
back to the current path. This module proves what holds all along the walk, `Walking`, and from it
that it overlooks nothing: without the edges that close the reported loops there is no endless path
of edges, `wellFounded_unclosed`. If no loop is reported, there is none at all,
`wellFounded_of_cycles_eq_nil`.

The heart of the invariant is that a node which was visited is on the current path or settled,
which means that no endless path starts from it that leaves the closing edges out. A node leaves
the current path after all of its edges were followed. An edge to the path closes a loop, and all
others lead to settled nodes, so that the node is settled, too.
-/

namespace CharacterSheet.DefaultGraph

variable {g : DefaultGraph} {depth : Nat} {path : List ItemId} {w : Walk} {node next x : ItemId}

/-- A property that steps can only make true holds in the end if it held at the start or some step
made it true. -/
theorem foldl_iff {β : Type} (p : DefaultGraph → Prop) (step : DefaultGraph → β → DefaultGraph)
    {added : β → Prop} (h : ∀ g b, p (step g b) ↔ p g ∨ added b) (bs : List β)
    (g : DefaultGraph) : p (bs.foldl step g) ↔ p g ∨ ∃ b ∈ bs, added b := by
  induction bs generalizing g with
  | nil => simp
  | cons b rest ih => rw [List.foldl_cons, ih, h, List.exists_mem_cons_iff, or_assoc]

/-- There is an edge from a node to another. -/
def HasEdge (g : DefaultGraph) (source target : ItemId) : Prop := (source, target) ∈ g.edges

theorem nodup_targets (g : DefaultGraph) (id : ItemId) : (g.targets id).Nodup := by
  rw [targets_eq]
  refine (g.edges_nodup.filter _).map_on fun e he e' he' heq => ?_
  have hid : e.1 = id := by simpa using (List.mem_filter.1 he).2
  have hid' : e'.1 = id := by simpa using (List.mem_filter.1 he').2
  exact Prod.ext (hid.trans hid'.symm) heq

/-! ### Loops -/

/-- A loop: a path along edges that comes back to its first node and to no other. -/
structure IsLoop (edge : ItemId → ItemId → Prop) (l : List ItemId) : Prop where
  two_le_length : 2 ≤ l.length
  ends : l.head? = l.getLast?
  nodup : l.dropLast.Nodup
  chain : l.IsChain edge

/-- What is reported for an edge from the end of a path back to the path is a loop. -/
theorem isLoop_loopTo {edge : ItemId → ItemId → Prop} (hmem : next ∈ path) (hnodup : path.Nodup)
    (hchain : path.IsChain fun b a => edge a b) (hedge : ∀ a ∈ path.head?, edge a next) :
    IsLoop edge (loopTo next path) := by
  obtain ⟨front, behind, rfl, hfront⟩ := List.eq_append_cons_of_mem hmem
  have htake : (front ++ next :: behind).takeWhile (· != next) = front := by
    have hne : ∀ a ∈ front, (a != next) = true := fun a ha =>
      bne_iff_ne.2 fun heq => hfront (heq ▸ ha)
    rw [List.takeWhile_append_of_pos hne]
    simp
  have hback : (next :: front.reverse).IsChain edge := by
    rw [← List.reverse_concat, List.isChain_reverse]
    refine hchain.prefix ⟨behind, ?_⟩
    rw [List.append_assoc, List.singleton_append]
  rw [loopTo, htake]
  refine ⟨by simp, ?_, ?_, ?_⟩
  · rw [List.getLast?_concat]
    rfl
  · rw [List.dropLast_concat, List.nodup_cons, List.mem_reverse, List.nodup_reverse]
    exact ⟨hfront, hnodup.of_append_left⟩
  · refine List.isChain_append.2 ⟨hback, List.isChain_singleton next, fun a ha b hb => ?_⟩
    obtain rfl : next = b := by simpa using hb
    refine hedge a ?_
    rw [← List.reverse_concat, List.getLast?_reverse] at ha
    cases front <;> simpa using ha

/-- The edges that close the loops which were found: the last two nodes of each. -/
def Walk.closing (w : Walk) : List (List ItemId) := w.found.map (·.rtake 2)

theorem rtake_loopTo (next node : ItemId) (path : List ItemId) :
    (loopTo next (node :: path)).rtake 2 = [node, next] := by
  rw [loopTo, List.rtake_concat_succ]
  by_cases h : node = next
  · subst h
    simp [List.rtake]
  · rw [List.takeWhile_cons_of_pos (by simpa using h), List.reverse_cons, ← List.cons_append,
      List.rtake_concat_succ, List.rtake_zero]
    rfl

/-! ### Steps of the walk -/

/-- Follows an edge from the end of a path: to a node on the path it closes a loop, and a node
that was not visited is visited. -/
def follow (g : DefaultGraph) (depth : Nat) (path : List ItemId) (w : Walk) (next : ItemId) :
    Walk :=
  if next ∈ path then { w with found := loopTo next path :: w.found }
  else if next ∈ w.visited then w
  else g.visit depth path w next

theorem visit_succ (depth : Nat) (path : List ItemId) (w : Walk) (node : ItemId) :
    g.visit (depth + 1) path w node =
      (g.targets node).foldl (g.follow depth (node :: path))
        { w with visited := node :: w.visited } := rfl

/-- The whole walk follows imagined edges to all nodes. -/
theorem walk_eq : g.walk = g.nodes.foldl (g.follow g.nodes.length []) {} := by
  have hstep : (fun (w : Walk) node =>
      if node ∈ w.visited then w else g.visit g.nodes.length [] w node) =
        g.follow g.nodes.length [] := by
    funext w node
    rw [follow, if_neg List.not_mem_nil]
  rw [walk, hstep]

/-! ### What a walk keeps -/

/-- A later state of a walk: nothing that was visited or found is lost, and of the nodes that were
visited before, only the one at the end of the path has closed further loops. -/
structure Continues (path : List ItemId) (w w' : Walk) : Prop where
  visited : w.visited ⊆ w'.visited
  found : w.found <:+ w'.found
  closing : ∀ a ∈ w.visited, a ∉ path.head? → ∀ b, [a, b] ∈ w'.closing → [a, b] ∈ w.closing

theorem Continues.refl (path : List ItemId) (w : Walk) : Continues path w w :=
  ⟨List.Subset.refl _, List.suffix_refl _, fun _ _ _ _ h => h⟩

theorem Continues.trans {w₁ w₂ w₃ : Walk} (h : Continues path w₁ w₂) (h' : Continues path w₂ w₃) :
    Continues path w₁ w₃ :=
  ⟨List.Subset.trans h.visited h'.visited, h.found.trans h'.found, fun a ha hend b hb =>
    h.closing a ha hend b (h'.closing a (h.visited ha) hend b hb)⟩

theorem Continues.closing_subset {w' : Walk} (h : Continues path w w') :
    w.closing ⊆ w'.closing :=
  List.map_subset _ h.found.subset

theorem continues_follow (h : next ∉ w.visited → Continues [] w (g.visit depth path w next)) :
    Continues path w (g.follow depth path w next) := by
  unfold follow
  split
  · next hpath =>
    refine ⟨List.Subset.refl _, List.suffix_cons _ _, fun a ha hend b hb => ?_⟩
    cases path with
    | nil => exact absurd hpath List.not_mem_nil
    | cons node path =>
        rw [Walk.closing, List.map_cons, rtake_loopTo, List.mem_cons] at hb
        refine hb.resolve_left fun heq => hend ?_
        simp [(List.cons.inj heq).1]
  · split
    · exact .refl path w
    · next hfresh =>
      have hvisit := h hfresh
      exact ⟨hvisit.visited, hvisit.found, fun a ha _ => hvisit.closing a ha (by simp)⟩

theorem continues_foldl_follow
    (h : ∀ w x, x ∉ w.visited → Continues [] w (g.visit depth path w x)) (nexts : List ItemId)
    (w : Walk) : Continues path w (nexts.foldl (g.follow depth path) w) := by
  induction nexts generalizing w with
  | nil => exact .refl path w
  | cons next rest ih => exact (continues_follow (h w next)).trans (ih _)

/-- A visit closes loops from nodes only that it visits. -/
theorem continues_visit (hfresh : node ∉ w.visited) :
    Continues [] w (g.visit depth path w node) := by
  induction depth generalizing path w node with
  | zero => exact .refl [] w
  | succ depth ih =>
      have hfold : Continues (node :: path) { w with visited := node :: w.visited }
          (g.visit (depth + 1) path w node) :=
        continues_foldl_follow (fun _ _ hx => ih hx) (g.targets node) _
      refine ⟨List.Subset.trans (List.subset_cons_self _ _) hfold.visited, hfold.found,
        fun a ha _ b hb => hfold.closing a (List.mem_cons_of_mem node ha) ?_ b hb⟩
      rintro ⟨rfl⟩
      exact hfresh ha

/-! ### The invariant -/

/-- No endless path of edges starts from a node that leaves out the edges which close the loops
that were found. -/
def Settled (g : DefaultGraph) (w : Walk) (x : ItemId) : Prop :=
  Acc (fun b a => g.HasEdge a b ∧ [a, b] ∉ w.closing) x

theorem Settled.mono {w' : Walk} (hx : g.Settled w x) (h : w.closing ⊆ w'.closing) :
    g.Settled w' x :=
  Subrelation.accessible (fun hedge => ⟨hedge.1, fun hmem => hedge.2 (h hmem)⟩) hx

/-- An edge from the end of a path is done with: it closes a loop, or leads to a settled node. -/
def Followed (g : DefaultGraph) (path : List ItemId) (w : Walk) (x : ItemId) : Prop :=
  (∃ a ∈ path.head?, [a, x] ∈ w.closing) ∨ g.Settled w x

theorem Followed.mono {w' : Walk} (hx : g.Followed path w x) (h : w.closing ⊆ w'.closing) :
    g.Followed path w' x :=
  hx.imp (fun ⟨a, ha, hmem⟩ => ⟨a, ha, h hmem⟩) fun hsettled => hsettled.mono h

/-- A node is settled when all of its edges are done with. -/
theorem settled_of_followed (h : ∀ x ∈ g.targets node, g.Followed (node :: path) w x) :
    g.Settled w node := by
  refine Acc.intro node fun y ⟨hedge, hopen⟩ => ?_
  rcases h y (mem_targets.2 hedge) with ⟨a, ha, hclosed⟩ | hsettled
  · obtain rfl : node = a := by simpa using ha
    exact absurd hclosed hopen
  · exact hsettled

/-- What holds all along a walk. The current path has its last node first. -/
structure Walking (g : DefaultGraph) (path : List ItemId) (w : Walk) : Prop where
  path_nodup : path.Nodup
  path_chain : path.IsChain fun b a => g.HasEdge a b
  path_visited : path ⊆ w.visited
  visited_nodup : w.visited.Nodup
  visited_nodes : w.visited ⊆ g.nodes
  isLoop : ∀ l ∈ w.found, IsLoop g.HasEdge l
  closing_nodup : w.closing.Nodup
  closing_visited : ∀ a b, [a, b] ∈ w.closing → a ∈ w.visited
  settled : ∀ x ∈ w.visited, x ∈ path ∨ g.Settled w x

theorem walking_start : g.Walking [] {} where
  path_nodup := .nil
  path_chain := .nil
  path_visited := List.nil_subset _
  visited_nodup := .nil
  visited_nodes := List.nil_subset _
  isLoop _ h := absurd h List.not_mem_nil
  closing_nodup := .nil
  closing_visited _ _ h := absurd h List.not_mem_nil
  settled _ h := absurd h List.not_mem_nil

/-- A node that was not visited is put at the end of the path. -/
theorem Walking.enter (h : g.Walking path w) (hnode : node ∈ g.nodes) (hfresh : node ∉ w.visited)
    (hedge : ∀ a ∈ path.head?, g.HasEdge a node) :
    g.Walking (node :: path) { w with visited := node :: w.visited } where
  path_nodup := List.nodup_cons.2 ⟨fun hmem => hfresh (h.path_visited hmem), h.path_nodup⟩
  path_chain := List.isChain_cons.2 ⟨hedge, h.path_chain⟩
  path_visited := List.cons_subset_cons node h.path_visited
  visited_nodup := List.nodup_cons.2 ⟨hfresh, h.visited_nodup⟩
  visited_nodes := List.cons_subset.2 ⟨hnode, h.visited_nodes⟩
  isLoop := h.isLoop
  closing_nodup := h.closing_nodup
  closing_visited a b hmem := List.mem_cons_of_mem node (h.closing_visited a b hmem)
  settled x hx := by
    rcases List.mem_cons.1 hx with rfl | hx
    · exact .inl List.mem_cons_self
    · exact (h.settled x hx).imp (List.mem_cons_of_mem node) id

/-- An edge back to the path closes a loop, which is reported. -/
theorem Walking.report (h : g.Walking (node :: path) w) (hmem : next ∈ node :: path)
    (hedge : g.HasEdge node next) (hnew : [node, next] ∉ w.closing) :
    g.Walking (node :: path) { w with found := loopTo next (node :: path) :: w.found } := by
  have hclosing : ({ w with found := loopTo next (node :: path) :: w.found } : Walk).closing =
      [node, next] :: w.closing := by
    rw [Walk.closing, List.map_cons, rtake_loopTo, Walk.closing]
  have hend : ∀ a ∈ (node :: path).head?, g.HasEdge a next := by
    rintro a ⟨rfl⟩
    exact hedge
  refine { h with
    isLoop := List.forall_mem_cons.2
      ⟨isLoop_loopTo hmem h.path_nodup h.path_chain hend, h.isLoop⟩
    closing_nodup := hclosing ▸ List.nodup_cons.2 ⟨hnew, h.closing_nodup⟩
    closing_visited := fun a b hclosed => ?_
    settled := fun x hx => (h.settled x hx).imp_right fun hsettled =>
      hsettled.mono (hclosing ▸ List.subset_cons_self _ _) }
  rw [hclosing, List.mem_cons] at hclosed
  rcases hclosed with heq | hclosed
  · rw [(List.cons.inj heq).1]
    exact h.path_visited List.mem_cons_self
  · exact h.closing_visited a b hclosed

/-- A settled node is taken off the path. -/
theorem Walking.leave (h : g.Walking (node :: path) w) (hsettled : g.Settled w node) :
    g.Walking path w :=
  { h with
    path_nodup := h.path_nodup.of_cons
    path_chain := h.path_chain.tail
    path_visited := fun x hx => h.path_visited (List.mem_cons_of_mem node hx)
    settled := fun x hx => by
      rcases h.settled x hx with hmem | hx
      · rcases List.mem_cons.1 hmem with rfl | hmem
        · exact .inr hsettled
        · exact .inl hmem
      · exact .inr hx }

/-! ### The whole walk -/

/-- What the visit to a new node comes to. -/
structure VisitDone (g : DefaultGraph) (path : List ItemId) (w' : Walk) (node : ItemId) : Prop where
  walking : g.Walking path w'
  visited : node ∈ w'.visited
  settled : g.Settled w' node

/-- Following an edge that has not closed a loop before keeps the invariant. -/
theorem Walking.follow (h : g.Walking path w)
    (hvisit : next ∉ w.visited → g.VisitDone path (g.visit depth path w next) next)
    (hedge : ∀ a ∈ path.head?, g.HasEdge a next ∧ [a, next] ∉ w.closing) :
    g.Walking path (g.follow depth path w next) ∧
      next ∈ (g.follow depth path w next).visited ∧
      g.Followed path (g.follow depth path w next) next := by
  unfold DefaultGraph.follow
  split
  · next hpath =>
    cases path with
    | nil => exact absurd hpath List.not_mem_nil
    | cons node path =>
        obtain ⟨hnode, hnew⟩ := hedge node rfl
        refine ⟨h.report hpath hnode hnew, h.path_visited hpath, .inl ⟨node, rfl, ?_⟩⟩
        rw [Walk.closing, List.map_cons, rtake_loopTo]
        exact List.mem_cons_self
  · next hpath =>
    split
    · next hvisited => exact ⟨h, hvisited, .inr ((h.settled next hvisited).resolve_left hpath)⟩
    · next hfresh =>
      have hdone := hvisit hfresh
      exact ⟨hdone.walking, hdone.visited, .inr hdone.settled⟩

/-- Following an edge closes no loop with another edge from the end of the path. -/
theorem Walking.closing_follow (h : g.Walking path w) (hne : x ≠ next) {a : ItemId}
    (ha : a ∈ path.head?) (hmem : [a, x] ∈ (g.follow depth path w next).closing) :
    [a, x] ∈ w.closing := by
  unfold DefaultGraph.follow at hmem
  split at hmem
  · cases path with
    | nil => simp at ha
    | cons node path =>
        rw [Walk.closing, List.map_cons, rtake_loopTo, List.mem_cons] at hmem
        exact hmem.resolve_left fun heq => hne (by simpa using (List.cons.inj heq).2)
  · split at hmem
    · exact hmem
    · next hfresh =>
      exact (continues_visit hfresh).closing a (h.path_visited (List.mem_of_mem_head? ha))
        (by simp) x hmem

/-- Following all edges from the end of the path keeps the invariant. -/
theorem Walking.foldl_follow
    (hvisit : ∀ w x, g.Walking path w → x ∈ g.nodes → x ∉ w.visited →
      (∀ a ∈ path.head?, g.HasEdge a x) → g.VisitDone path (g.visit depth path w x) x)
    {nexts : List ItemId} (hnodup : nexts.Nodup) (hnodes : nexts ⊆ g.nodes)
    (h : g.Walking path w)
    (hedges : ∀ x ∈ nexts, ∀ a ∈ path.head?, g.HasEdge a x ∧ [a, x] ∉ w.closing) :
    g.Walking path (nexts.foldl (g.follow depth path) w) ∧
      ∀ x ∈ nexts, x ∈ (nexts.foldl (g.follow depth path) w).visited ∧
        g.Followed path (nexts.foldl (g.follow depth path) w) x := by
  induction nexts generalizing w with
  | nil => exact ⟨h, fun x hx => absurd hx List.not_mem_nil⟩
  | cons next rest ih =>
      obtain ⟨hnext, hnodup⟩ := List.nodup_cons.1 hnodup
      obtain ⟨hnode, hnodes⟩ := List.cons_subset.1 hnodes
      obtain ⟨hedge, hedges⟩ := List.forall_mem_cons.1 hedges
      obtain ⟨hstep, hvisited, hfollowed⟩ := h.follow
        (fun hfresh => hvisit w next h hnode hfresh fun a ha => (hedge a ha).1) hedge
      have hrest : ∀ x ∈ rest, ∀ a ∈ path.head?,
          g.HasEdge a x ∧ [a, x] ∉ (g.follow depth path w next).closing := by
        intro x hx a ha
        have hne : x ≠ next := fun heq => hnext (heq ▸ hx)
        exact (hedges x hx a ha).imp_right fun hopen hmem => hopen (h.closing_follow hne ha hmem)
      obtain ⟨hwalking, hdone⟩ := ih hnodup hnodes hstep hrest
      have hcontinues : Continues path (g.follow depth path w next)
          (rest.foldl (g.follow depth path) (g.follow depth path w next)) :=
        continues_foldl_follow (fun _ _ hfresh => continues_visit hfresh) rest _
      refine ⟨hwalking, List.forall_mem_cons.2 ⟨⟨?_, ?_⟩, hdone⟩⟩
      · exact hcontinues.visited hvisited
      · exact hfollowed.mono hcontinues.closing_subset

/-- Visiting a new node keeps the invariant and settles the node, if the budget suffices for every
path without repetitions. -/
theorem Walking.visit (h : g.Walking path w) (hnode : node ∈ g.nodes) (hfresh : node ∉ w.visited)
    (hedge : ∀ a ∈ path.head?, g.HasEdge a node)
    (hdepth : g.nodes.length ≤ path.length + depth) :
    g.VisitDone path (g.visit depth path w node) node := by
  have hentered := h.enter hnode hfresh hedge
  induction depth generalizing path w node with
  | zero =>
      -- The path with the node behind it would be longer than there are nodes.
      have hsubset : node :: path ⊆ g.nodes := List.Subset.trans hentered.path_visited hentered.visited_nodes
      have hlength := (List.subperm_of_subset hentered.path_nodup hsubset).length_le
      rw [List.length_cons] at hlength
      omega
  | succ depth ih =>
      have htargets : g.targets node ⊆ g.nodes := fun x hx =>
        (g.ends_mem (node, x) (mem_targets.1 hx)).2
      have hedges : ∀ x ∈ g.targets node, ∀ a ∈ (node :: path).head?,
          g.HasEdge a x ∧ [a, x] ∉ ({ w with visited := node :: w.visited } : Walk).closing := by
        rintro x hx a ⟨rfl⟩
        exact ⟨mem_targets.1 hx, fun hmem => hfresh (h.closing_visited node x hmem)⟩
      have hdepth' : g.nodes.length ≤ (node :: path).length + depth := by
        rw [List.length_cons]
        omega
      obtain ⟨hwalking, hdone⟩ := Walking.foldl_follow
        (fun w' x hw' hx hfresh' hedge' =>
          ih hw' hx hfresh' hedge' hdepth' (hw'.enter hx hfresh' hedge'))
        (g.nodup_targets node) htargets hentered hedges
      have hsettled := settled_of_followed fun x hx => (hdone x hx).2
      rw [visit_succ]
      exact ⟨hwalking.leave hsettled, hwalking.path_visited List.mem_cons_self, hsettled⟩

/-- **The walk** comes to every node and settles it. -/
theorem walking_walk (g : DefaultGraph) :
    g.Walking [] g.walk ∧ ∀ x ∈ g.nodes, x ∈ g.walk.visited ∧ g.Settled g.walk x := by
  have hvisit (w : Walk) (x : ItemId) (hw : g.Walking [] w) (hx : x ∈ g.nodes)
      (hfresh : x ∉ w.visited) (hedge : ∀ a ∈ ([] : List ItemId).head?, g.HasEdge a x) :
      g.VisitDone [] (g.visit g.nodes.length [] w x) x :=
    hw.visit hx hfresh hedge (Nat.le_add_left _ _)
  obtain ⟨hwalking, hdone⟩ := Walking.foldl_follow hvisit g.nodes_nodup (List.Subset.refl _)
    walking_start (by simp)
  rw [← walk_eq] at hwalking hdone
  refine ⟨hwalking, fun x hx => (hdone x hx).imp_right fun hfollowed => ?_⟩
  exact hfollowed.resolve_left (by simp)

/-- **The reported loops are enough.** Without the edges that close them there is no endless
path. -/
theorem wellFounded_unclosed (g : DefaultGraph) :
    WellFounded fun b a => g.HasEdge a b ∧ [a, b] ∉ g.walk.closing := by
  refine ⟨fun x => ?_⟩
  by_cases hx : x ∈ g.nodes
  · exact ((walking_walk g).2 x hx).2
  · exact Acc.intro x fun y ⟨hedge, _⟩ => absurd (g.ends_mem _ hedge).1 hx

/-- **A walk that finds no loop has overlooked none**: then there is no endless path. -/
theorem wellFounded_of_cycles_eq_nil (h : g.cycles = []) :
    WellFounded fun b a => (a, b) ∈ g.edges := by
  have hclosing : g.walk.closing = [] := by
    rw [Walk.closing, List.reverse_eq_nil_iff.1 h, List.map_nil]
  have hwf := wellFounded_unclosed g
  simpa only [HasEdge, hclosing, List.not_mem_nil, not_false_eq_true, and_true] using hwf

end CharacterSheet.DefaultGraph
