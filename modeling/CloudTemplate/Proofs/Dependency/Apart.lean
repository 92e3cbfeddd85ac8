import CloudTemplate.Proofs.Dependency.Reported

/-!
# Circles that keep apart

In general the search reports some of the circles of a graph: where circles share vertices, which of
them it closes depends on the order in which it follows the edges.  Where no vertex lies on two
circles, it reports all of them, each once, and the order decides only how they are told
(`paths_are_circles_of_apart`).

Every vertex of a circle leads on to a vertex of it, so a search that was not cut short has found a
circle through one of them (`exists_circle_of_leading_on`).  If there is only one circle through
that vertex, it is the circle in question.
-/

namespace CloudTemplate

namespace DependencyGraph

/-- No name lies on two circles, unless one is a rotation of the other. -/
def CirclesApart (g : DependencyGraph) : Prop :=
  ∀ circle other, g.IsCircle circle → g.IsCircle other → ∀ id, id ∈ circle → id ∈ other →
    circle.dropLast ~r other.dropLast

/-! ## Listing the circles

A circle has its names among those of the vertices and meets each once, so that the circles of a
graph can be listed and whether they keep apart can be decided. -/

instance (g : DependencyGraph) (path : List String) : Decidable (g.IsCircle path) :=
  decidable_of_iff (2 ≤ path.length ∧ path.head? = path.getLast? ∧ path.IsChain g.Edge ∧
      path.dropLast.Nodup)
    ⟨fun ⟨hlength, hclosed, hlinked, hsimple⟩ => ⟨hlength, hclosed, hlinked, hsimple⟩,
      fun h => ⟨h.two_le_length, h.closed, h.linked, h.simple⟩⟩

/-- The circles of a graph, each told from every one of its vertices. -/
def circles (g : DependencyGraph) : List (List String) :=
  ((g.keys.sublists.flatMap List.permutations').map closedPath).filter (g.IsCircle ·)

lemma mem_circles_iff {g : DependencyGraph} {path : List String} :
    path ∈ g.circles ↔ g.IsCircle path := by
  rw [circles, List.mem_filter, decide_eq_true_eq]
  refine ⟨fun h => h.2, fun h => ⟨?_, h⟩⟩
  obtain ⟨first, rest, rfl⟩ := h.exists_closedPath
  have hkeys : first :: rest ⊆ g.keys := by
    intro a ha
    obtain ⟨b, -, hedge⟩ := h.exists_edge (mem_closed_iff.mpr ha)
    exact CycleSearch.mem_keys_of_edge hedge
  have hnodup : (first :: rest).Nodup := by
    have hsimple := h.simple
    rwa [List.dropLast_concat] at hsimple
  obtain ⟨chosen, hperm, hsublist⟩ := hnodup.subperm hkeys
  rw [List.mem_map]
  refine ⟨first :: rest, List.mem_flatMap.mpr ⟨chosen, ?_, ?_⟩, closedPath_cons first rest⟩
  · exact List.mem_sublists.mpr hsublist
  · exact List.mem_permutations'.mpr hperm.symm

instance (g : DependencyGraph) : Decidable g.CirclesApart :=
  decidable_of_iff (∀ circle ∈ g.circles, ∀ other ∈ g.circles, ∀ id ∈ circle, id ∈ other →
      circle.dropLast ~r other.dropLast) <| by
    simp only [mem_circles_iff, CirclesApart]
    exact ⟨fun h circle other hcircle hother => h circle hcircle other hother,
      fun h circle hcircle other hother => h circle other hcircle hother⟩

/-- Two graphs have the same edges if each has those that start from the vertices of the other. -/
lemma edge_iff_of_subset {g other : DependencyGraph}
    (h : ∀ id ∈ g.keys, g.targets id ⊆ other.targets id)
    (h' : ∀ id ∈ other.keys, other.targets id ⊆ g.targets id) (a b : String) :
    other.Edge a b ↔ g.Edge a b :=
  ⟨fun hedge => h' a (CycleSearch.mem_keys_of_edge hedge) hedge,
    fun hedge => h a (CycleSearch.mem_keys_of_edge hedge) hedge⟩

end DependencyGraph

/-! ## What is reported of them -/

namespace CycleSearch

variable {g : DependencyGraph} {limit : Nat}

/-- The reported rotations of a circle are counted by how the circle is told from its least name. -/
lemma countP_paths_eq_count (circle : List String) :
    (findCycles g limit).paths.countP (fun path => path.dropLast ~r circle) =
      ((outcome g limit).circles.map fromLeast).count (fromLeast circle) := by
  rw [findCycles_paths, List.countP_map, List.count, List.countP_map]
  refine List.countP_congr fun found hfound => ?_
  have hnodup := ((sound_outcome g limit).circles found hfound).simple
  rw [dropLast_closedPath] at hnodup
  simp only [Function.comp_apply, dropLast_closedPath, decide_eq_true_eq, beq_iff_eq]
  exact (fromLeast_eq_iff hnodup).symm

/-- Of the rotations of a circle no more than one is reported, and one is if some is. -/
lemma countP_paths_eq_one {circle : List String}
    (h : ∃ path ∈ (findCycles g limit).paths, path.dropLast ~r circle) :
    (findCycles g limit).paths.countP (fun path => path.dropLast ~r circle) = 1 := by
  have hpos : 0 < (findCycles g limit).paths.countP (fun path => path.dropLast ~r circle) := by
    simpa [List.countP_pos_iff] using h
  rw [countP_paths_eq_count] at hpos ⊢
  exact List.count_eq_one_of_mem (sound_outcome g limit).apart (List.count_pos_iff.mp hpos)

/-- If the search was not cut short, every circle shares a vertex with a reported one. -/
lemma exists_path_meeting (hwhole : (findCycles g limit).truncated = false) {circle : List String}
    (hcircle : g.IsCircle circle) :
    ∃ path ∈ (findCycles g limit).paths, ∃ id ∈ path, id ∈ circle := by
  rw [findCycles_truncated] at hwhole
  rw [findCycles_paths]
  obtain ⟨first, rest, hclosed⟩ := hcircle.exists_closedPath
  have hfirst : first ∈ circle := hclosed ▸ List.mem_cons_self
  obtain ⟨found, hfound, id, hid, hon⟩ :=
    exists_circle_of_leading_on hwhole (fun _ hon => hcircle.exists_edge hon) hfirst
  exact ⟨closedPath found, List.mem_map_of_mem hfound, id, List.mem_append_left _ hid, hon⟩

/-- Suppose that no name lies on two circles of a graph.  Then a search that is not cut short, of
that graph or of one with the same edges in any order and told any number of times, reports circles
only, and of the rotations of each circle exactly one. -/
theorem paths_are_circles_of_apart (g arranged : DependencyGraph) (limit : Nat)
    (hapart : g.CirclesApart) (hedges : ∀ a b, arranged.Edge a b ↔ g.Edge a b)
    (hwhole : (findCycles arranged limit).truncated = false) :
    (∀ path ∈ (findCycles arranged limit).paths, g.IsCircle path) ∧
      ∀ circle, g.IsCircle circle →
        (findCycles arranged limit).paths.countP
          (fun path => path.dropLast ~r circle.dropLast) = 1 := by
  have hcircles : ∀ path ∈ (findCycles arranged limit).paths, g.IsCircle path := fun path hpath =>
    (isCircle_of_mem_paths hpath).mono fun a b => (hedges a b).mp
  refine ⟨hcircles, fun circle hcircle => countP_paths_eq_one ?_⟩
  obtain ⟨path, hpath, id, hid, hon⟩ :=
    exists_path_meeting hwhole (hcircle.mono fun a b => (hedges a b).mpr)
  exact ⟨path, hpath, hapart path circle (hcircles path hpath) hcircle id hid hon⟩

/-- A circle of two and one of three, and an edge from one to the other. -/
def chainedLoops : DependencyGraph :=
  .ofList [("A", ["B"]), ("B", ["A", "C"]), ("C", ["D"]), ("D", ["E"]), ("E", ["C"])]

/-- The same edges, in another order and some of them told twice. -/
def chainedLoopsBackwards : DependencyGraph :=
  .ofList [("E", ["C"]), ("D", ["E", "E"]), ("B", ["C", "A", "C"]), ("C", ["D"]), ("A", ["B"])]

/-- Both circles are reported in the other order as well, each once. -/
theorem paths_are_circles_of_apart_chainedLoops :
    chainedLoops.CirclesApart ∧ (findCycles chainedLoopsBackwards 5).truncated = false ∧
      (findCycles chainedLoopsBackwards 5).paths.countP (fun path => path.dropLast ~r ["A", "B"]) =
        1 ∧
      (findCycles chainedLoopsBackwards 5).paths.countP
        (fun path => path.dropLast ~r ["C", "D", "E"]) = 1 := by
  have hapart : chainedLoops.CirclesApart := by decide +kernel
  have hwhole : (findCycles chainedLoopsBackwards 5).truncated = false := by decide
  have hreported := (paths_are_circles_of_apart chainedLoops chainedLoopsBackwards 5 hapart
    (DependencyGraph.edge_iff_of_subset (by decide) (by decide)) hwhole).2
  exact ⟨hapart, hwhole, hreported ["A", "B", "A"] (by decide),
    hreported ["C", "D", "E", "C"] (by decide)⟩

end CycleSearch

end CloudTemplate
