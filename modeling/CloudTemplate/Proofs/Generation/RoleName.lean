import CloudTemplate.Generation.RoleName
import CloudTemplate.Proofs.Number.Numeral
import CloudTemplate.Validation.Structure
import Mathlib.Order.Interval.Finset.Nat

/-!
# The names of generated roles

The candidates are distinct, so that the search may strike those that it finds in use.  It ends with
the first that is free (`firstFreeRole_spec`), which stands behind no more candidates than there are
names in use (`le_card_of_forall_mem`), and if the id of the function is a logical id then so is
every candidate (`isLogicalId_roleCandidate`).
-/

namespace CloudTemplate

lemma roleCandidate_ne (id : String) {n m : Nat} (hn : 1 ≤ n) (hlt : n < m) :
    roleCandidate id n ≠ roleCandidate id m := by
  intro h
  rw [roleCandidate, roleCandidate, if_neg (by omega : ¬ m ≤ 1)] at h
  have hlists := congrArg String.toList h
  split at hlists
  · simp only [String.toList_append, List.self_eq_append_right] at hlists
    rw [Nat.toString_eq_repr, Nat.toList_repr] at hlists
    exact Nat.toDigits_ne_nil hlists
  · simp only [String.toList_append, List.append_cancel_left_eq] at hlists
    rw [Nat.toString_eq_repr, Nat.toString_eq_repr, Nat.toList_repr, Nat.toList_repr] at hlists
    have hvalues := congrArg digitsValue hlists
    rw [digitsValue_toDigits, digitsValue_toDigits] at hvalues
    omega

lemma roleCandidate_injOn (id : String) : Set.InjOn (roleCandidate id) {k | 1 ≤ k} := by
  intro k hk m hm hsame
  rcases Nat.lt_trichotomy k m with hlt | heq | hlt
  · exact absurd hsame (roleCandidate_ne id hk hlt)
  · exact heq
  · exact absurd hsame.symm (roleCandidate_ne id hm hlt)

/-- No name is a candidate twice. -/
lemma card_candidates_le (id : String) (names : Finset String) (k : Nat) :
    {j ∈ Finset.Ico 1 k | roleCandidate id j ∈ names}.card ≤ names.card := by
  refine Finset.card_le_card_of_injOn (roleCandidate id) ?_ ?_
  · exact fun j hj => (Finset.mem_filter.mp hj).2
  · refine (roleCandidate_injOn id).mono fun j hj => ?_
    exact (Finset.mem_Ico.mp (Finset.mem_filter.mp hj).1).1

lemma le_card_of_forall_mem (id : String) {names : Finset String} {k : Nat}
    (h : ∀ j, 1 ≤ j → j < k → roleCandidate id j ∈ names) : k ≤ names.card + 1 := by
  have hall : {j ∈ Finset.Ico 1 k | roleCandidate id j ∈ names} = Finset.Ico 1 k := by
    refine Finset.filter_true_of_mem fun j hj => ?_
    obtain ⟨hj, hlt⟩ := Finset.mem_Ico.mp hj
    exact h j hj hlt
  have hcard := card_candidates_le id names k
  rw [hall, Nat.card_Ico] at hcard
  omega

/-- The search ends with the first candidate that is not in use. -/
lemma firstFreeRole_spec (used : List String) (id : String) {n : Nat} (hn : 1 ≤ n) :
    ∃ m, n ≤ m ∧ firstFreeRole used id n = roleCandidate id m ∧ roleCandidate id m ∉ used ∧
      ∀ k, n ≤ k → k < m → roleCandidate id k ∈ used := by
  fun_induction firstFreeRole used id n with
  | case1 used n taken ih =>
    obtain ⟨m, hle, heq, hfree, hused⟩ := ih (by omega)
    refine ⟨m, by omega, heq, ?_, fun k hk hlt => ?_⟩
    · have hne := roleCandidate_ne id hn (by omega : n < m)
      rwa [List.mem_erase_of_ne hne.symm] at hfree
    · rcases Nat.eq_or_lt_of_le hk with rfl | hk
      · exact taken
      · exact List.mem_of_mem_erase (hused k hk hlt)
  | case2 used n free =>
    exact ⟨n, Nat.le_refl n, rfl, free, fun k hk hlt => absurd hlt (by omega)⟩

lemma freeRoleId_not_mem (used : List String) (id : String) : freeRoleId used id ∉ used := by
  obtain ⟨m, -, heq, hfree, -⟩ := firstFreeRole_spec used id (Nat.le_refl 1)
  rw [freeRoleId, heq]
  exact hfree

lemma exists_roleCandidate (used : List String) (id : String) :
    ∃ m, freeRoleId used id = roleCandidate id m := by
  obtain ⟨m, -, heq, -⟩ := firstFreeRole_spec used id (Nat.le_refl 1)
  exact ⟨m, heq⟩

/-! ## Different ids -/

/-- Behind the id and `Role` a candidate has digits alone. -/
lemma exists_toList_roleCandidate (id : String) (n : Nat) :
    ∃ ds, (roleCandidate id n).toList = (id ++ "Role").toList ++ ds ∧
      ∀ c ∈ ds, isDigit c = true := by
  unfold roleCandidate
  by_cases h : n ≤ 1
  · refine ⟨[], ?_, by simp⟩
    rw [if_pos h, List.append_nil]
  · refine ⟨Nat.toDigits 10 n, ?_, fun c hc => isDigit_of_mem_toDigits hc⟩
    rw [if_neg h, String.toList_append, Nat.toString_eq_repr, Nat.toList_repr]

/-- The id can be read off a candidate: cut off the digits at the end, and then `Role`. -/
lemma eq_of_roleCandidate_eq {id other : String} {n m : Nat}
    (h : roleCandidate id n = roleCandidate other m) : id = other := by
  have hcut : ∀ (id : String) (n : Nat),
      (roleCandidate id n).toList.reverse.dropWhile isDigit = (id ++ "Role").toList.reverse := by
    intro id n
    obtain ⟨ds, hds, hdigits⟩ := exists_toList_roleCandidate id n
    rw [hds, List.reverse_append, List.dropWhile_append_of_pos (by simpa using hdigits),
      String.toList_append, List.reverse_append]
    -- The last letter of `Role` is no digit.
    rfl
  have hstem : (id ++ "Role").toList.reverse = (other ++ "Role").toList.reverse := by
    rw [← hcut id n, ← hcut other m, h]
  have hroles : id ++ "Role" = other ++ "Role" := String.toList_inj.mp (List.reverse_inj.mp hstem)
  apply String.toList_inj.mp
  have hlists := congrArg String.toList hroles
  rw [String.toList_append, String.toList_append] at hlists
  exact List.append_cancel_right hlists

/-- Names that are no candidates do not matter to the search. -/
lemma freeRoleId_congr {used others : List String} {id : String}
    (h : ∀ n, roleCandidate id n ∈ used ↔ roleCandidate id n ∈ others) :
    freeRoleId used id = freeRoleId others id := by
  obtain ⟨m, hm, heq, hfree, hused⟩ := firstFreeRole_spec used id (Nat.le_refl 1)
  obtain ⟨k, hk, heq', hfree', hused'⟩ := firstFreeRole_spec others id (Nat.le_refl 1)
  rw [freeRoleId, freeRoleId, heq, heq']
  rcases Nat.lt_trichotomy m k with hlt | rfl | hlt
  · exact absurd ((h m).mpr (hused' m hm hlt)) hfree
  · rfl
  · exact absurd ((h k).mp (hused k hk hlt)) hfree'

/-- The search ends at the same name if more names are in use, and that one is not among them. -/
lemma freeRoleId_eq_of_subset {used others : List String} {id : String} (h : used ⊆ others)
    (hfree : freeRoleId used id ∉ others) : freeRoleId others id = freeRoleId used id := by
  obtain ⟨m, hm, heq, -, hused⟩ := firstFreeRole_spec used id (Nat.le_refl 1)
  obtain ⟨k, hk, heq', hfree', hused'⟩ := firstFreeRole_spec others id (Nat.le_refl 1)
  rw [freeRoleId, heq] at hfree
  rw [freeRoleId, freeRoleId, heq, heq']
  rcases Nat.lt_trichotomy m k with hlt | rfl | hlt
  · exact absurd (hused' m hm hlt) hfree
  · rfl
  · exact absurd (h (hused k hk hlt)) hfree'

/-! ## Logical ids -/

lemma isLogicalIdShape_append {front back : List Char} (h : isLogicalIdShape front = true)
    (hback : (back.all fun c => isLetter c || isDigit c) = true) :
    isLogicalIdShape (front ++ back) = true := by
  cases front with
  | nil => exact absurd h Bool.false_ne_true
  | cons first more =>
    simp only [isLogicalIdShape, List.cons_append, Bool.and_eq_true, List.all_append] at h ⊢
    exact ⟨h.1, h.2, hback⟩

lemma isLogicalId_roleCandidate {id : String} (h : isLogicalId id = true) (n : Nat) :
    isLogicalId (roleCandidate id n) = true := by
  have hrole : isLogicalIdShape (id ++ "Role").toList = true := by
    rw [String.toList_append]
    exact isLogicalIdShape_append h (by decide)
  unfold isLogicalId roleCandidate
  split
  · exact hrole
  · rw [String.toList_append, Nat.toString_eq_repr, Nat.toList_repr]
    refine isLogicalIdShape_append hrole (List.all_eq_true.mpr fun c hc => ?_)
    rw [isDigit_of_mem_toDigits hc, Bool.or_true]

end CloudTemplate
