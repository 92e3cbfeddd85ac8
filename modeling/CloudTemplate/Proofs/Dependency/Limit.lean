import CloudTemplate.Proofs.Dependency.Search

/-!
# The limit of the search

The limit keeps the path of the search short, and it costs nothing where the graph is small.  A step
that would make the path too long is not made (`length_path_le_of_move`), so no run ever has a
longer one.  Where the search says that it was cut short, a path of the graph longer than the limit
is there to show for it (`Long`).  Such a path takes more names than the limit, so a graph with
fewer is searched whole (`truncated_outcome_eq_false_of_card_names_le`).
-/

namespace CloudTemplate

namespace CycleSearch

variable {g : DependencyGraph} {limit : Nat}

/-- A root is taken up whatever the limit; beyond it the path only grows while it is shorter than
the limit. -/
lemma length_path_le_of_move {s s' : CycleSearch} (hmove : Move g limit s s')
    (h : s.path.length ≤ max 1 limit) : s'.path.length ≤ max 1 limit := by
  cases hmove with
  | close back => exact h
  | skip left => exact h
  | cut off long => exact h
  | enter off fresh short =>
    simp only [List.length_cons]
    omega
  | leave => exact (Nat.le_succ _).trans h
  | pass left => exact h
  | begin fresh => exact Nat.le_max_left 1 limit

lemma length_path_run_le (n : Nat) : (run g limit n (.start g)).path.length ≤ max 1 limit :=
  run_induction (fun _ _ => length_path_le_of_move) n (Nat.zero_le _)

/-- A path of an edge or more that is longer than the limit takes more names than the limit. -/
lemma Long.lt_card_names (h : Long g limit) : limit < (names g).card := by
  obtain ⟨path, hlinked, hnodup, hlength, hlong⟩ := h
  have hends : ∀ a b, g.Edge a b → a ∈ names g ∧ b ∈ names g := fun _ _ hedge =>
    ⟨mem_names_of_mem_keys (mem_keys_of_edge hedge), mem_names_of_edge hedge⟩
  have hsubset : path.toFinset ⊆ names g := fun id hid =>
    forall_mem_of_linked hends hlinked hlength id (List.mem_toFinset.mp hid)
  calc limit < path.length := hlong
    _ = path.toFinset.card := (List.toFinset_card_of_nodup hnodup).symm
    _ ≤ (names g).card := Finset.card_le_card hsubset

lemma truncated_outcome_eq_false_of_card_names_le (h : (names g).card ≤ limit) :
    (outcome g limit).truncated = false := by
  by_contra htruncated
  have hlong := (sound_outcome g limit).long (Bool.eq_true_of_not_eq_false htruncated)
  exact absurd hlong.lt_card_names (Nat.not_lt.mpr h)

/-- The search comes to its end within its budget, and on the way its path never has more vertices
than the limit, a root apart.  It is cut short only in a graph with a path of more vertices than the
limit, all of them distinct, and so never in a graph with no more names than the limit. -/
theorem search_ends_within_limit (g : DependencyGraph) (limit : Nat) :
    (∀ n, budget g ≤ n → (run g limit n (.start g)).Ended) ∧
      (∀ n, (run g limit n (.start g)).path.length ≤ max 1 limit) ∧
      ((findCycles g limit).truncated = true →
        ∃ path : List String, path.IsChain g.Edge ∧ path.Nodup ∧ limit < path.length) ∧
      ((names g).card ≤ limit → (findCycles g limit).truncated = false) := by
  refine ⟨fun n hn => ?_, length_path_run_le, fun htruncated => ?_, fun hnames => ?_⟩
  · exact ended_run (sound_start g limit) ((work_start_le g).trans hn)
  · rw [findCycles_truncated] at htruncated
    obtain ⟨path, hlinked, hnodup, -, hlong⟩ := (sound_outcome g limit).long htruncated
    exact ⟨path, hlinked, hnodup, hlong⟩
  · rw [findCycles_truncated]
    exact truncated_outcome_eq_false_of_card_names_le hnames

/-- Three vertices in a row, of which the last has no entry of its own, need a limit of three. -/
example : (findCycles (.ofList [("A", ["B", "B"]), ("B", ["C"])]) 2).truncated = true ∧
    (findCycles (.ofList [("A", ["B", "B"]), ("B", ["C"])]) 3).truncated = false := by
  decide

end CycleSearch

end CloudTemplate
