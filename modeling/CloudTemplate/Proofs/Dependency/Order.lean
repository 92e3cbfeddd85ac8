import CloudTemplate.Proofs.Dependency.Limit
import CloudTemplate.Proofs.Dependency.Reported

/-!
# Orders of a graph without circles

A graph without circles can be listed so that every edge leads to a vertex that stands earlier, and
a graph that can be listed so has no circles.  The search decides between the two
(`paths_eq_nil_iff_exists_order`), if its limit is not less than the number of vertices and no edge
leads off them: then the graph has no other names, and the search is not cut short.

The order is the one in which the search leaves the vertices.  For the other direction any measure
that every edge lessens will do (`paths_eq_nil_of_edge_lt`), whatever the limit.
-/

namespace CloudTemplate

/-- The vertices are listed, each behind those to which its edges lead. -/
def DependencyGraph.IsOrder (g : DependencyGraph) (order : List String) : Prop :=
  order.Perm g.keys ∧ ∀ a b, g.Edge a b → order.idxOf b < order.idxOf a

namespace CycleSearch

variable {g : DependencyGraph} {limit : Nat}

/-! ## Searches that are not cut short -/

lemma truncated_outcome_eq_false (hclosed : ∀ a b, g.Edge a b → b ∈ g.keys)
    (hlimit : g.size ≤ limit) : (outcome g limit).truncated = false := by
  have hsubset : names g ⊆ g.keys.toFinset := by
    intro id hid
    rw [names, List.mem_toFinset, List.mem_append] at hid
    rw [List.mem_toFinset]
    rcases hid with hkey | htarget
    · exact hkey
    · obtain ⟨a, hedge⟩ := mem_flatten_values_iff.mp htarget
      exact hclosed a id hedge
  refine truncated_outcome_eq_false_of_card_names_le ?_
  calc (names g).card ≤ g.keys.toFinset.card := Finset.card_le_card hsubset
    _ ≤ g.keys.length := List.toFinset_card_le _
    _ = g.size := Table.length_keys g
    _ ≤ limit := hlimit

/-! ## Orders -/

/-- The vertices in the order in which the search leaves them. -/
def leavingOrder (g : DependencyGraph) (limit : Nat) : List String :=
  ((outcome g limit).finished.filter (· ∈ g.keys)).reverse

lemma leavingOrder_perm (g : DependencyGraph) (limit : Nat) :
    (leavingOrder g limit).Perm g.keys := by
  have hnodup : (outcome g limit).finished.Nodup := (sound_outcome g limit).distinct.of_append_right
  refine (List.reverse_perm _).trans ?_
  rw [List.perm_ext_iff_of_nodup (hnodup.filter _) g.nodup_keys]
  intro id
  rw [List.mem_filter, decide_eq_true_eq]
  exact ⟨fun h => h.2, fun h => ⟨mem_finished_outcome limit h, h⟩⟩

/-- What was left earlier stands earlier. -/
lemma idxOf_leavingOrder_lt {id next : String} {earlier : List String}
    (hsuffix : id :: earlier <:+ (outcome g limit).finished) (hid : id ∈ g.keys)
    (hnext : next ∈ earlier) (hkey : next ∈ g.keys) :
    (leavingOrder g limit).idxOf next < (leavingOrder g limit).idxOf id := by
  have hnodup := (leavingOrder_perm g limit).nodup_iff.mpr g.nodup_keys
  obtain ⟨later, hlater⟩ := hsuffix
  have hsplit : leavingOrder g limit = (earlier.filter (· ∈ g.keys)).reverse ++
      (id :: (later.filter (· ∈ g.keys)).reverse) := by
    rw [leavingOrder, ← hlater]
    simp [hid]
  rw [hsplit] at hnodup ⊢
  have hmem : next ∈ (earlier.filter (· ∈ g.keys)).reverse := by simp [hnext, hkey]
  have hnot : id ∉ (earlier.filter (· ∈ g.keys)).reverse := fun h =>
    (List.nodup_append.mp hnodup).2.2 id h id List.mem_cons_self rfl
  rw [List.idxOf_append_of_mem hmem, List.idxOf_append_of_notMem hnot]
  have := List.idxOf_lt_length_of_mem hmem
  omega

/-- If every edge lessens some measure, nothing is reported. -/
lemma paths_eq_nil_of_edge_lt (measure : String → Nat)
    (h : ∀ a b, g.Edge a b → measure b < measure a) : (findCycles g limit).paths = [] := by
  rw [List.eq_nil_iff_forall_not_mem]
  intro path hpath
  have hcircle := isCircle_of_mem_paths hpath
  obtain ⟨first, rest, rfl⟩ := hcircle.exists_closedPath
  have hloop : Relation.TransGen g.Edge first first :=
    hcircle.transGen List.mem_cons_self
  have hless : Relation.TransGen (· > ·) (measure first) (measure first) := hloop.lift measure h
  rw [Relation.transGen_eq_self] at hless
  exact lt_irrefl _ hless

/-- Nothing is reported exactly if the vertices can be listed so that every edge leads to a vertex
that stands earlier. -/
lemma paths_eq_nil_iff_exists_order (hclosed : ∀ a b, g.Edge a b → b ∈ g.keys)
    (hlimit : g.size ≤ limit) :
    (findCycles g limit).paths = [] ↔ ∃ order, g.IsOrder order := by
  constructor
  · intro hnil
    rw [findCycles_paths, List.map_eq_nil_iff] at hnil
    refine ⟨leavingOrder g limit, leavingOrder_perm g limit, fun a b hedge => ?_⟩
    have ha := mem_keys_of_edge hedge
    obtain ⟨later, earlier, hsplit⟩ := List.append_of_mem (mem_finished_outcome limit ha)
    have hsuffix : a :: earlier <:+ (outcome g limit).finished := ⟨later, hsplit.symm⟩
    have hsettled := (accounted_outcome g limit).left a earlier hsuffix b hedge
    rw [Settled, hnil, truncated_outcome_eq_false hclosed hlimit] at hsettled
    have hearlier : b ∈ earlier := by simpa using hsettled
    exact idxOf_leavingOrder_lt hsuffix ha hearlier (hclosed a b hedge)
  · rintro ⟨order, -, horder⟩
    exact paths_eq_nil_of_edge_lt order.idxOf horder

end CycleSearch

end CloudTemplate
