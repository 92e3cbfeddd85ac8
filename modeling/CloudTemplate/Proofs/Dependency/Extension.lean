import CloudTemplate.Proofs.Dependency.Reported

/-!
# One more vertex

A graph is enlarged by a vertex at its end to which no edge of the others leads
(`DependencyGraph.Grown`).  The search of the larger graph proceeds as that of the smaller one while
the new vertex waits among the roots: each step does the same (`step_awaiting`), and so does each
run (`exists_run_awaiting`).  Then all other vertices have been left, and the edges of the new one
can only lead to them or back to itself, however short the paths are to be (`run_own`).  So the
search is cut short exactly if it was before, and nothing more is found than the circle of the new
vertex with itself (`findCycles_grown`).
-/

namespace CloudTemplate

/-- A graph becomes another by a new vertex at the end.  Its vertices keep their edges, which do not
lead to the new one, and the edges of the new one lead to vertices. -/
structure DependencyGraph.Grown (g : DependencyGraph) (id : String) (g' : DependencyGraph) :
    Prop where
  keys : g'.keys = g.keys ++ [id]
  targets : ∀ other ∈ g.keys, g'.targets other = g.targets other
  closed : ∀ a b, g.Edge a b → b ∈ g.keys
  own : ∀ b, g'.Edge id b → b = id ∨ b ∈ g.keys

namespace CycleSearch

variable {g g' : DependencyGraph} {limit : Nat} {id : String}

lemma not_mem_keys_of_grown (h : g.Grown id g') : id ∉ g.keys := by
  have hnodup := g'.nodup_keys
  rw [h.keys, List.nodup_append] at hnodup
  exact fun hmem => hnodup.2.2 id hmem id List.mem_cons_self rfl

/-! ## Runs -/

lemma run_add (m n : Nat) (s : CycleSearch) :
    run g limit (m + n) s = run g limit n (run g limit m s) := by
  induction m generalizing s with
  | zero => rw [Nat.zero_add, run]
  | succ m ih => rw [Nat.succ_add, run, ih, run]

/-- A run that has come to its end is in the state in which the search is left. -/
lemma eq_outcome_of_ended {n : Nat} (h : (run g limit n (.start g)).Ended) :
    run g limit n (.start g) = outcome g limit := by
  calc run g limit n (.start g)
    _ = run g limit (n + budget g) (.start g) := by rw [run_add, run_of_ended h]
    _ = run g limit n (outcome g limit) := by rw [Nat.add_comm, run_add, outcome]
    _ = outcome g limit := run_of_ended (ended_outcome g limit) n

/-- Where edges do not lead off the vertices, the search does not. -/
lemma mem_keys_of_visited (hclosed : ∀ a b, g.Edge a b → b ∈ g.keys) (n : Nat) :
    ∀ a ∈ (run g limit n (.start g)).visited ++ (run g limit n (.start g)).finished,
      a ∈ g.keys := by
  refine run_start_induction (motive := fun s => ∀ a ∈ s.visited ++ s.finished, a ∈ g.keys)
    (fun s s' hmove hsound hkeys => ?_) (fun a ha => absurd ha List.not_mem_nil) n
  cases hmove with
  | close | skip | cut | pass => exact hkeys
  | enter =>
    have hedge := hsound.rest_mem _ List.mem_cons_self _ List.mem_cons_self
    exact List.forall_mem_cons.mpr ⟨hclosed _ _ hedge, hkeys⟩
  | leave => exact fun a ha => hkeys a (List.perm_middle.mem_iff.mp ha)
  | begin =>
    exact List.forall_mem_cons.mpr ⟨hsound.roots_mem _ List.mem_cons_self, hkeys⟩

/-! ## The new vertex waits -/

/-- A search with one more root, after all others. -/
def awaiting (id : String) (s : CycleSearch) : CycleSearch := { s with roots := s.roots ++ [id] }

lemma start_grown (h : g.Grown id g') : start g' = (start g).awaiting id := by
  rw [start, h.keys]
  rfl

lemma follow_awaiting {next : String} (htargets : g'.targets next = g.targets next)
    (s : CycleSearch) :
    follow g' limit (s.awaiting id) next = (follow g limit s next).awaiting id := by
  unfold follow
  simp only [apply_ite (awaiting id), htargets]
  rfl

/-- Until the search has come to its end, the root that waits makes no difference to a step. -/
lemma step_awaiting (h : g.Grown id g') {s : CycleSearch} (hsound : Sound g limit s)
    (hended : ¬ s.Ended) : step g' limit (s.awaiting id) = (step g limit s).awaiting id := by
  obtain ⟨roots, path, finished, circles, truncated⟩ := s
  match path, roots with
  | (a, next :: more) :: below, roots =>
    have hedge : g.Edge a next := hsound.rest_mem _ List.mem_cons_self _ List.mem_cons_self
    exact follow_awaiting (h.targets next (h.closed a next hedge))
      ⟨roots, (a, more) :: below, finished, circles, truncated⟩
  | (a, []) :: below, roots => rfl
  | [], root :: roots =>
    have htargets := h.targets root (hsound.roots_mem root List.mem_cons_self)
    simp only [step, awaiting, List.cons_append, htargets]
    split <;> rfl
  | [], [] => exact absurd ⟨rfl, rfl⟩ hended

lemma exists_run_awaiting (h : g.Grown id g') (n : Nat) {s : CycleSearch}
    (hsound : Sound g limit s) :
    ∃ m, run g' limit m (s.awaiting id) = (run g limit n s).awaiting id := by
  induction n generalizing s with
  | zero => exact ⟨0, rfl⟩
  | succ n ih =>
    by_cases hended : s.Ended
    · rw [run, step_of_ended hended]
      exact ih hsound
    · obtain ⟨m, hm⟩ := ih (hsound.move (move_step hended))
      refine ⟨m + 1, ?_⟩
      rw [run, step_awaiting h hsound hended, hm, run]

/-! ## The new vertex is taken up -/

lemma addCircle_addCircle (circles : List (List String)) (circle : List String) :
    addCircle (addCircle circles circle) circle = addCircle circles circle := by
  have hknown : ((addCircle circles circle).map fromLeast).contains (fromLeast circle) = true := by
    obtain ⟨other, hother, hsame⟩ := exists_mem_addCircle circles circle
    rw [List.contains_iff_mem, ← hsame]
    exact List.mem_map_of_mem hother
  rw [addCircle, if_pos hknown]

/-- From a vertex whose edges lead to vertices that have been left or back to itself, the search
goes nowhere else. -/
lemma run_own (id : String) {finished : List String} {truncated : Bool} (rest : List String)
    (hrest : ∀ b ∈ rest, b = id ∨ b ∈ finished) (circles : List (List String)) :
    run g limit (rest.length + 1) ⟨[], [(id, rest)], finished, circles, truncated⟩ =
      ⟨[], [], id :: finished, if id ∈ rest then addCircle circles [id] else circles,
        truncated⟩ := by
  induction rest generalizing circles with
  | nil => rfl
  | cons b rest ih =>
    obtain ⟨hb, hrest⟩ := List.forall_mem_cons.mp hrest
    rw [List.length_cons, run]
    by_cases hback : b = id
    · have hstep : step g limit ⟨[], [(id, b :: rest)], finished, circles, truncated⟩ =
          ⟨[], [(id, rest)], finished, addCircle circles [id], truncated⟩ := by
        simp [step, follow, pathIds, hback]
      rw [hstep, ih hrest, addCircle_addCircle, ite_self, if_pos (by simp [hback])]
    · have hleft : b ∈ finished := hb.resolve_left hback
      have hstep : step g limit ⟨[], [(id, b :: rest)], finished, circles, truncated⟩ =
          ⟨[], [(id, rest)], finished, circles, truncated⟩ := by
        simp [step, follow, pathIds, hback, hleft]
      rw [hstep, ih hrest]
      simp [Ne.symm hback]

/-- The circle of a name with itself is new to circles that do not have the name. -/
lemma addCircle_singleton {circles : List (List String)}
    (h : ∀ circle ∈ circles, id ∉ circle) : addCircle circles [id] = circles ++ [[id]] := by
  unfold addCircle
  rw [if_neg]
  rw [List.contains_iff_mem, List.mem_map]
  rintro ⟨circle, hcircle, hsame⟩
  refine h circle hcircle ?_
  rw [(isRotated_fromLeast circle).mem_iff, hsame, ← (isRotated_fromLeast [id]).mem_iff]
  exact List.mem_singleton_self id

lemma mem_keys_of_mem_circles {circle : List String} (hcircle : circle ∈ (outcome g limit).circles)
    {a : String} (ha : a ∈ circle) : a ∈ g.keys := by
  have hpath := (sound_outcome g limit).circles circle hcircle
  obtain ⟨b, -, hedge⟩ := hpath.exists_edge (List.mem_append_left _ ha)
  exact mem_keys_of_edge hedge

/-- The state in which the search of the larger graph is left. -/
lemma outcome_grown (h : g.Grown id g') (limit : Nat) : outcome g' limit =
    ⟨[], [], id :: (outcome g limit).finished,
      (outcome g limit).circles ++ if g'.Edge id id then [[id]] else [],
      (outcome g limit).truncated⟩ := by
  have hnew := not_mem_keys_of_grown h
  obtain ⟨hpath, hroots⟩ := ended_outcome g limit
  have hleft : id ∉ (outcome g limit).finished := by
    intro hmem
    exact hnew (mem_keys_of_visited h.closed _ id (List.mem_append_right _ hmem))
  have htargets : ∀ b ∈ g'.targets id, b = id ∨ b ∈ (outcome g limit).finished := by
    intro b hedge
    exact (h.own b hedge).imp_right (mem_finished_outcome limit)
  have hcircles : (if id ∈ g'.targets id then addCircle (outcome g limit).circles [id]
      else (outcome g limit).circles) =
        (outcome g limit).circles ++ if g'.Edge id id then [[id]] else [] := by
    rw [addCircle_singleton fun circle hcircle hid => hnew (mem_keys_of_mem_circles hcircle hid)]
    by_cases hloop : id ∈ g'.targets id
    · rw [if_pos hloop, if_pos (show g'.Edge id id from hloop)]
    · rw [if_neg hloop, if_neg (show ¬ g'.Edge id id from hloop), List.append_nil]
  -- The new vertex waits until the smaller graph has been searched, and is taken up then.
  obtain ⟨m, hm⟩ := exists_run_awaiting h (budget g) (sound_start g limit)
  have hbegin : step g' limit ((outcome g limit).awaiting id) =
      ⟨[], [(id, g'.targets id)], (outcome g limit).finished, (outcome g limit).circles,
        (outcome g limit).truncated⟩ := by
    simp [step, awaiting, hpath, hroots, hleft]
  have hrun : run g' limit (m + ((g'.targets id).length + 1 + 1)) (.start g') =
      ⟨[], [], id :: (outcome g limit).finished,
        (outcome g limit).circles ++ if g'.Edge id id then [[id]] else [],
        (outcome g limit).truncated⟩ := by
    rw [start_grown h, run_add, hm, ← outcome, run, hbegin, run_own id _ htargets, hcircles]
  have hended : (run g' limit (m + ((g'.targets id).length + 1 + 1)) (.start g')).Ended := by
    rw [hrun]
    exact ⟨rfl, rfl⟩
  rw [← eq_outcome_of_ended hended, hrun]

/-- A new vertex at the end to which no others lead adds at most its circle with itself, and does
not change whether the search is cut short. -/
lemma findCycles_grown (h : g.Grown id g') (limit : Nat) :
    (findCycles g' limit).paths =
        (findCycles g limit).paths ++ (if g'.Edge id id then [[id, id]] else []) ∧
      (findCycles g' limit).truncated = (findCycles g limit).truncated := by
  rw [findCycles_paths, findCycles_paths, findCycles_truncated, findCycles_truncated,
    outcome_grown h limit]
  refine ⟨?_, rfl⟩
  rw [List.map_append]
  split <;> rfl

end CycleSearch

end CloudTemplate
