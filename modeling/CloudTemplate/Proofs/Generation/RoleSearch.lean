import CloudTemplate.Proofs.Generation.Entries
import Mathlib.Logic.Function.Iterate

/-!
# The search for the name of a role

The generator looks at one candidate after the other.  It stops at the first that neither a node nor
a resource has, and otherwise it raises the counter that numbers the candidates.  `RoleSearch` is
that search, with one candidate looked at in a step, and nothing in it says that it comes to an end.

It does, and with the name that a role is given (`roleSearch_ends_with_first_free`): the candidates
passed over are distinct names in use, so there are no more of them than there are such names.  The
counter has 32 bits, and it is not used up on the way if it can number that many candidates.
-/

namespace CloudTemplate

/-- How far the search for a name has come. -/
inductive RoleSearch where
  /-- The candidate with this number is looked at next. -/
  | looking (number : Nat)
  /-- The search has come to its end with a name. -/
  | ended (name : String)
  /-- The counter cannot be raised further. -/
  | exhausted

/-- The greatest number of the counter, a signed number of 32 bits. -/
def counterLimit : Nat := 2 ^ 31 - 1

/-- The ids of the nodes and of the resources, each once. -/
def namesInUse (s : Surroundings) (t : Template) : Finset String :=
  (s.ids ++ t.resources.keys).toFinset

/-- The candidate with a number is the first that neither a node nor a resource has. -/
structure FirstFree (s : Surroundings) (t : Template) (id : String) (k : Nat) : Prop where
  pos : 1 ≤ k
  notDrawn : roleCandidate id k ∉ s.ids
  notPut : roleCandidate id k ∉ t.resources.keys
  earlier : ∀ j, 1 ≤ j → j < k →
    roleCandidate id j ∈ s.ids ∨ roleCandidate id j ∈ t.resources.keys

variable {s : Surroundings} {t : Template} {id : String} {k : Nat}

namespace RoleSearch

/-- One step, in which one candidate is looked at; a search that has come to its end stays there. -/
def step (s : Surroundings) (t : Template) (id : String) : RoleSearch → RoleSearch
  | .looking k =>
    if s.ids.contains (roleCandidate id k) || t.resources.contains (roleCandidate id k) then
      if k < counterLimit then .looking (k + 1) else .exhausted
    else .ended (roleCandidate id k)
  | search => search

/-! ## One step -/

lemma inUse_iff (name : String) : (s.ids.contains name || t.resources.contains name) = true ↔
    name ∈ s.ids ∨ name ∈ t.resources.keys := by
  rw [Bool.or_eq_true, List.contains_iff_mem, Table.contains_eq_true_iff]

lemma step_looking_of_inUse (hk : k < counterLimit)
    (h : roleCandidate id k ∈ s.ids ∨ roleCandidate id k ∈ t.resources.keys) :
    step s t id (.looking k) = .looking (k + 1) := by
  rw [step, if_pos ((inUse_iff _).mpr h), if_pos hk]

lemma step_looking_of_firstFree (h : FirstFree s t id k) :
    step s t id (.looking k) = .ended (roleCandidate id k) := by
  rw [step, if_neg]
  rw [inUse_iff]
  exact not_or.mpr ⟨h.notDrawn, h.notPut⟩

/-! ## A run -/

/-- Up to the first free candidate the search goes on. -/
lemma iterate_step_of_lt (h : FirstFree s t id k) (hk : k ≤ counterLimit) {m : Nat} (hm : m < k) :
    (step s t id)^[m] (.looking 1) = .looking (m + 1) := by
  induction m with
  | zero => rfl
  | succ m ih =>
    rw [Function.iterate_succ_apply', ih (by omega)]
    exact step_looking_of_inUse (by omega) (h.earlier (m + 1) (by omega) hm)

/-- With the first free candidate the search ends. -/
lemma iterate_step_of_le (h : FirstFree s t id k) (hk : k ≤ counterLimit) {m : Nat} (hm : k ≤ m) :
    (step s t id)^[m] (.looking 1) = .ended (roleCandidate id k) := by
  induction m, hm using Nat.le_induction with
  | base =>
    obtain ⟨j, rfl⟩ := Nat.exists_eq_add_of_le' h.pos
    rw [Function.iterate_succ_apply', iterate_step_of_lt h hk (Nat.lt_succ_self j)]
    exact step_looking_of_firstFree h
  | succ m hm ih =>
    rw [Function.iterate_succ_apply', ih]
    rfl

end RoleSearch

/-! ## The first free candidate -/

lemma FirstFree.le_card (h : FirstFree s t id k) : k ≤ (namesInUse s t).card + 1 := by
  refine le_card_of_forall_mem id fun j hj hlt => ?_
  rw [namesInUse, List.mem_toFinset, List.mem_append]
  exact h.earlier j hj hlt

lemma exists_firstFree (s : Surroundings) (t : Template) (n : Node) :
    ∃ k, FirstFree s t n.id k ∧ roleIdFor s t n = roleCandidate n.id k := by
  obtain ⟨k, hk, heq, hfree, hused⟩ :=
    firstFreeRole_spec (s.ids ++ t.resources.keys) n.id (Nat.le_refl 1)
  rw [List.mem_append, not_or] at hfree
  exact ⟨k, ⟨hk, hfree.1, hfree.2, fun j hj hlt => List.mem_append.mp (hused j hj hlt)⟩, heq⟩

/-- With fewer names in use than the counter can number, the search for the name of a role ends.  It
ends at the first candidate that neither a node nor a resource has, which is the name that the role
is given, and looks at no more than one candidate more than there are names in use. -/
theorem roleSearch_ends_with_first_free (s : Surroundings) (t : Template) (n : Node)
    (hfew : (namesInUse s t).card < 2 ^ 31 - 2) :
    ∃ k, FirstFree s t n.id k ∧ k ≤ (namesInUse s t).card + 1 ∧
      roleIdFor s t n = roleCandidate n.id k ∧
      ∀ m, (RoleSearch.step s t n.id)^[m] (.looking 1) =
        if m < k then .looking (m + 1) else .ended (roleIdFor s t n) := by
  obtain ⟨k, hfirst, hname⟩ := exists_firstFree s t n
  have hsoon := hfirst.le_card
  have hcounter : k ≤ counterLimit := by
    rw [counterLimit]
    omega
  refine ⟨k, hfirst, hsoon, hname, fun m => ?_⟩
  split
  · next hm => exact RoleSearch.iterate_step_of_lt hfirst hcounter hm
  · next hm =>
    rw [hname]
    exact RoleSearch.iterate_step_of_le hfirst hcounter (Nat.le_of_not_lt hm)

/-- A template to which a role has been added already. -/
def roleTemplate : Template := (Template.withDescription "").putResource "fnRole3" executionRole

/-- Two candidates are ids of nodes and the third is the id of a resource. -/
theorem roleSearch_ends_with_first_free_crowdedNodes :
    (namesInUse (.ofNodes crowdedNodes) roleTemplate).card < 2 ^ 31 - 2 ∧
      (RoleSearch.step (.ofNodes crowdedNodes) roleTemplate "fn")^[4] (.looking 1) =
        .ended "fnRole4" := by
  have hcard : (namesInUse (.ofNodes crowdedNodes) roleTemplate).card = 6 := by decide
  have hfew : (namesInUse (.ofNodes crowdedNodes) roleTemplate).card < 2 ^ 31 - 2 := by
    rw [hcard]
    omega
  obtain ⟨k, hfirst, -, hname, hrun⟩ := roleSearch_ends_with_first_free (.ofNodes crowdedNodes)
    roleTemplate ⟨"fn", .lambda, .empty⟩ hfew
  have hfourth : roleIdFor (.ofNodes crowdedNodes) roleTemplate ⟨"fn", .lambda, .empty⟩ =
      roleCandidate "fn" 4 := by
    decide +kernel
  have hk : k = 4 :=
    roleCandidate_injOn "fn" hfirst.pos (by decide : 1 ≤ 4) (hname.symm.trans hfourth)
  rw [hk, hfourth] at hrun
  exact ⟨hfew, hrun 4⟩

end CloudTemplate
