import CloudTemplate.Generation.Surroundings
import Mathlib.Tactic.Lemma

/-!
# The network of a node

A node lies in the network that it names.  If it names none, it lies in the only network of the
drawing, and networks with one id count as one (`vpcOf?_ofNodes_eq_some_iff`).
-/

namespace CloudTemplate

variable {nodes : List Node} {n : Node} {id : String}

lemma vpcOf?_of_text? (htext : n.text? "vpcId" = some id) (s : Surroundings) :
    s.vpcOf? n = some id := by
  rw [Surroundings.vpcOf?, htext]

/-- The network of a node that names none is the one whose id all networks have. -/
lemma vpcOf?_ofNodes_eq_some_iff (htext : n.text? "vpcId" = none) :
    (Surroundings.ofNodes nodes).vpcOf? n = some id ↔
      (∃ v ∈ nodes, v.kind = .vpc ∧ v.id = id) ∧ ∀ v ∈ nodes, v.kind = .vpc → v.id = id := by
  have hids : ∀ id, id ∈ (Surroundings.ofNodes nodes).vpcIds ↔
      ∃ v ∈ nodes, v.kind = .vpc ∧ v.id = id := by
    simp [Surroundings.ofNodes, distinctNames, mem_pushAllNew, and_assoc]
  have hall : (∀ v ∈ nodes, v.kind = .vpc → v.id = id) ↔
      ∀ other ∈ (Surroundings.ofNodes nodes).vpcIds, other = id := by
    constructor
    · intro h other hmem
      obtain ⟨v, hv, hvpc, rfl⟩ := (hids other).mp hmem
      exact h v hv hvpc
    · exact fun h v hv hvpc => h v.id ((hids v.id).mpr ⟨v, hv, hvpc, rfl⟩)
  have hdistinct : (Surroundings.ofNodes nodes).vpcIds.Nodup := nodup_pushAllNew .nil _
  rw [← hids, hall]
  unfold Surroundings.vpcOf?
  rw [htext]
  generalize (Surroundings.ofNodes nodes).vpcIds = ids at hdistinct
  rcases ids with _ | ⟨first, _ | ⟨second, more⟩⟩
  · simp
  · simp [eq_comm]
  · -- Among several networks with different ids, none is chosen.
    refine iff_of_false (by simp) ?_
    rintro ⟨-, hsame⟩
    have hfirst := hsame first List.mem_cons_self
    have hsecond := hsame second (List.mem_cons_of_mem _ List.mem_cons_self)
    exact (List.nodup_cons.mp hdistinct).1 (by simp [hfirst, hsecond])

end CloudTemplate
