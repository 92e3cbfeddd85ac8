import CloudTemplate.Proofs.Dependency.Circle
import CloudTemplate.Proofs.Table
import Mathlib

/-!
# How the search for circles proceeds

`CycleSearch.Move` lists all that one step of the search can do, and `move_step` says that a step
of a search which has not come to its end is one of these moves.  Whatever every move keeps is true
of every run (`run_induction`), and the invariants of the search are derived from this list alone.

`Sound` is the invariant about what has been found: the path runs along edges, no vertex is visited
twice, every circle is one, no two are rotations of one another, and a search that was cut short had
a path longer than the limit before it.

Every move lessens the work that is left (`work_lt_of_move`), and there is no more of it at the
start than steps are made.  So the search of a graph comes to its end (`ended_outcome`).
-/

namespace CloudTemplate

namespace CycleSearch

/-- The vertices of the path, the latest first. -/
def visited (s : CycleSearch) : List String := s.path.map Prod.fst

/-- There is nothing left to do. -/
def Ended (s : CycleSearch) : Prop := s.path = [] ∧ s.roots = []

/-! ## Moves -/

/-- What a step can do. -/
inductive Move (g : DependencyGraph) (limit : Nat) : CycleSearch → CycleSearch → Prop
  /-- An edge back into the path closes a circle. -/
  | close {roots id next more below finished circles truncated}
      (back : next ∈ id :: below.map Prod.fst) :
      Move g limit ⟨roots, (id, next :: more) :: below, finished, circles, truncated⟩
        ⟨roots, (id, more) :: below, finished, addCircle circles
          ((id :: below.map Prod.fst).reverse.dropWhile (· != next)), truncated⟩
  /-- An edge to a vertex that has been left is passed over. -/
  | skip {roots id next more below finished circles truncated} (left : next ∈ finished) :
      Move g limit ⟨roots, (id, next :: more) :: below, finished, circles, truncated⟩
        ⟨roots, (id, more) :: below, finished, circles, truncated⟩
  /-- An edge that would make the path too long is passed over. -/
  | cut {roots id next more below finished circles truncated}
      (off : next ∉ id :: below.map Prod.fst) (long : limit ≤ below.length + 1) :
      Move g limit ⟨roots, (id, next :: more) :: below, finished, circles, truncated⟩
        ⟨roots, (id, more) :: below, finished, circles, true⟩
  /-- An edge to a vertex that has not been visited is followed. -/
  | enter {roots id next more below finished circles truncated}
      (off : next ∉ id :: below.map Prod.fst) (fresh : next ∉ finished)
      (short : below.length + 1 < limit) :
      Move g limit ⟨roots, (id, next :: more) :: below, finished, circles, truncated⟩
        ⟨roots, (next, g.targets next) :: (id, more) :: below, finished, circles, truncated⟩
  /-- A vertex whose edges have all been followed is left. -/
  | leave {roots id below finished circles truncated} :
      Move g limit ⟨roots, (id, []) :: below, finished, circles, truncated⟩
        ⟨roots, below, id :: finished, circles, truncated⟩
  /-- A root that has been left is passed over. -/
  | pass {root roots finished circles truncated} (left : root ∈ finished) :
      Move g limit ⟨root :: roots, [], finished, circles, truncated⟩
        ⟨roots, [], finished, circles, truncated⟩
  /-- The search starts anew from a root. -/
  | begin {root roots finished circles truncated} (fresh : root ∉ finished) :
      Move g limit ⟨root :: roots, [], finished, circles, truncated⟩
        ⟨roots, [(root, g.targets root)], finished, circles, truncated⟩

variable {g : DependencyGraph} {limit : Nat}

lemma step_of_ended {s : CycleSearch} (h : s.Ended) : step g limit s = s := by
  obtain ⟨hpath, hroots⟩ := h
  unfold step
  rw [hpath]
  simp only [hroots]

lemma move_step {s : CycleSearch} (h : ¬ s.Ended) : Move g limit s (step g limit s) := by
  obtain ⟨roots, path, finished, circles, truncated⟩ := s
  match path, roots with
  | (id, next :: more) :: below, roots =>
    simp only [step, follow, pathIds, List.map_cons, List.contains_eq_mem, decide_eq_true_eq,
      List.mem_reverse]
    split
    · next back => exact .close back
    · next off =>
      split
      · next left => exact .skip left
      · next fresh =>
        split
        · next long => exact .cut off (by simpa using long)
        · next short => exact .enter off fresh (by simpa using short)
  | (id, []) :: below, roots => exact .leave
  | [], root :: roots =>
    simp only [step, List.contains_eq_mem, decide_eq_true_eq]
    split
    · next left => exact .pass left
    · next fresh => exact .begin fresh
  | [], [] => exact absurd ⟨rfl, rfl⟩ h

/-- What every move keeps is true of every run. -/
lemma run_induction {motive : CycleSearch → Prop}
    (hmove : ∀ s s', Move g limit s s' → motive s → motive s') (n : Nat) {s : CycleSearch}
    (h : motive s) : motive (run g limit n s) := by
  induction n generalizing s with
  | zero => exact h
  | succ n ih =>
    refine ih ?_
    -- At its end the search stands still, and every other step is a move.
    by_cases hended : s.Ended
    · rwa [step_of_ended hended]
    · exact hmove s _ (move_step hended) h

/-! ## What has been found -/

/-- A path without repetition, of an edge or more, that is longer than the limit. -/
def Long (g : DependencyGraph) (limit : Nat) : Prop :=
  ∃ path : List String, path.IsChain g.Edge ∧ path.Nodup ∧ 2 ≤ path.length ∧ limit < path.length

/-- The path runs along edges, no vertex is visited twice, every circle is one and is there once,
and the search was not cut short for nothing. -/
structure Sound (g : DependencyGraph) (limit : Nat) (s : CycleSearch) : Prop where
  roots_mem : ∀ root ∈ s.roots, root ∈ g.keys
  rest_mem : ∀ frame ∈ s.path, ∀ next ∈ frame.2, g.Edge frame.1 next
  linked : s.visited.IsChain fun later earlier => g.Edge earlier later
  distinct : (s.visited ++ s.finished).Nodup
  circles : ∀ circle ∈ s.circles, g.IsCircle (closedPath circle)
  apart : (s.circles.map fromLeast).Nodup
  long : s.truncated = true → Long g limit

lemma sound_start (g : DependencyGraph) (limit : Nat) : Sound g limit (.start g) where
  roots_mem := fun _ h => h
  rest_mem := by simp [start]
  linked := .nil
  distinct := .nil
  circles := by simp [start]
  apart := .nil
  long := by simp [start]

lemma nodup_addCircle {circles : List (List String)} (h : (circles.map fromLeast).Nodup)
    (circle : List String) : ((addCircle circles circle).map fromLeast).Nodup := by
  unfold addCircle
  split
  · exact h
  · next absent =>
    rw [List.map_append, List.nodup_append]
    refine ⟨h, by simp, ?_⟩
    intro a ha b hb
    rw [List.map_singleton, List.mem_singleton] at hb
    rintro rfl
    exact absent (by simpa [hb] using ha)

lemma mem_addCircle {circles : List (List String)} {circle other : List String}
    (h : other ∈ addCircle circles circle) : other ∈ circles ∨ other = circle := by
  unfold addCircle at h
  split at h
  · exact .inl h
  · simpa using h

/-- Some rotation of an added circle is among the circles afterwards. -/
lemma exists_mem_addCircle (circles : List (List String)) (circle : List String) :
    ∃ other ∈ addCircle circles circle, fromLeast other = fromLeast circle := by
  unfold addCircle
  split
  · next present => simpa using present
  · exact ⟨circle, by simp, rfl⟩

lemma subset_addCircle (circles : List (List String)) (circle : List String) :
    circles ⊆ addCircle circles circle := by
  unfold addCircle
  split
  · exact List.Subset.refl _
  · exact List.subset_append_left _ _

/-- An edge from the latest vertex back into the path closes a circle through that vertex. -/
lemma isCircle_of_back {id next : String} {below : List String}
    (hlinked : (id :: below).IsChain fun later earlier => g.Edge earlier later)
    (hnodup : (id :: below).Nodup) (hedge : g.Edge id next) (back : next ∈ id :: below) :
    g.IsCircle (closedPath ((id :: below).reverse.dropWhile (· != next))) ∧
      id ∈ (id :: below).reverse.dropWhile (· != next) :=
  DependencyGraph.isCircle_of_edge_back (List.isChain_reverse.mpr hlinked)
    (List.nodup_reverse.mpr hnodup) (by simp) hedge (List.mem_reverse.mpr back)

/-- Where an edge leads off a path, the path with that edge is one without repetition. -/
lemma long_of_off {id next : String} {below : List String}
    (hlinked : (id :: below).IsChain fun later earlier => g.Edge earlier later)
    (hnodup : (id :: below).Nodup) (hedge : g.Edge id next) (off : next ∉ id :: below)
    (hlong : limit ≤ below.length + 1) : Long g limit := by
  refine ⟨(next :: id :: below).reverse, ?_, ?_, ?_⟩
  · rw [List.isChain_reverse]
    exact hlinked.cons_cons hedge
  · rw [List.nodup_reverse]
    exact List.nodup_cons.mpr ⟨off, hnodup⟩
  · simp only [List.length_reverse, List.length_cons]
    exact ⟨by omega, by omega⟩

/-- What holds at both ends of every edge holds along every path of an edge or more. -/
lemma forall_mem_of_linked {P : String → Prop} (hends : ∀ a b, g.Edge a b → P a ∧ P b)
    {path : List String} (hlinked : path.IsChain g.Edge) (hlength : 2 ≤ path.length) :
    ∀ id ∈ path, P id := by
  induction path with
  | nil => simp
  | cons a rest ih =>
    cases rest with
    | nil => simp at hlength
    | cons b rest =>
      obtain ⟨hedge, hrest⟩ := List.isChain_cons_cons.mp hlinked
      refine List.forall_mem_cons.mpr ⟨(hends a b hedge).1, ?_⟩
      rcases eq_or_ne rest [] with rfl | hne
      · exact List.forall_mem_singleton.mpr (hends a b hedge).2
      · refine ih hrest ?_
        have := List.length_pos_of_ne_nil hne
        simp only [List.length_cons]
        omega

lemma rest_mem_of_followed {id next : String} {more : List String}
    {below : List (String × List String)}
    (h : ∀ frame ∈ (id, next :: more) :: below, ∀ b ∈ frame.2, g.Edge frame.1 b) :
    ∀ frame ∈ (id, more) :: below, ∀ b ∈ frame.2, g.Edge frame.1 b := by
  rw [List.forall_mem_cons] at h ⊢
  exact ⟨fun b hb => h.1 b (List.mem_cons_of_mem _ hb), h.2⟩

lemma Sound.move {s s' : CycleSearch} (hmove : Move g limit s s') (h : Sound g limit s) :
    Sound g limit s' := by
  obtain ⟨hroots, hrest, hlinked, hdistinct, hcircles, hapart, hlong⟩ := h
  have hvisited := hdistinct.of_append_left
  cases hmove with
  | close back =>
    have hedge := hrest _ List.mem_cons_self _ List.mem_cons_self
    refine ⟨hroots, rest_mem_of_followed hrest, hlinked, hdistinct, ?_,
      nodup_addCircle hapart _, hlong⟩
    intro circle hcircle
    rcases mem_addCircle hcircle with hold | rfl
    · exact hcircles circle hold
    · exact (isCircle_of_back hlinked hvisited hedge back).1
  | skip left =>
    exact ⟨hroots, rest_mem_of_followed hrest, hlinked, hdistinct, hcircles, hapart, hlong⟩
  | cut off long =>
    have hedge := hrest _ List.mem_cons_self _ List.mem_cons_self
    refine ⟨hroots, rest_mem_of_followed hrest, hlinked, hdistinct, hcircles, hapart, fun _ => ?_⟩
    exact long_of_off hlinked hvisited hedge off (by simpa using long)
  | enter off fresh short =>
    have hedge := hrest _ List.mem_cons_self _ List.mem_cons_self
    refine ⟨hroots, ?_, hlinked.cons_cons hedge, ?_, hcircles, hapart, hlong⟩
    · exact List.forall_mem_cons.mpr ⟨fun b hb => hb, rest_mem_of_followed hrest⟩
    · exact List.nodup_cons.mpr ⟨fun hmem => (List.mem_append.mp hmem).elim off fresh, hdistinct⟩
  | leave =>
    refine ⟨hroots, (List.forall_mem_cons.mp hrest).2, hlinked.tail, ?_, hcircles, hapart, hlong⟩
    exact List.nodup_middle.mpr hdistinct
  | pass left =>
    exact ⟨(List.forall_mem_cons.mp hroots).2, hrest, hlinked, hdistinct, hcircles, hapart, hlong⟩
  | begin fresh =>
    refine ⟨(List.forall_mem_cons.mp hroots).2, ?_, .singleton _, ?_, hcircles, hapart, hlong⟩
    · simp only [List.mem_singleton, forall_eq]
      exact fun b hb => hb
    · exact List.nodup_cons.mpr ⟨fresh, hdistinct⟩

lemma sound_run (n : Nat) : Sound g limit (run g limit n (.start g)) :=
  run_induction (fun _ _ => Sound.move) n (sound_start g limit)

/-- What every move of a sound search keeps is true of the search at all times. -/
lemma run_start_induction {motive : CycleSearch → Prop}
    (hmove : ∀ s s', Move g limit s s' → Sound g limit s → motive s → motive s')
    (hstart : motive (.start g)) (n : Nat) : motive (run g limit n (.start g)) := by
  have hboth : ∀ s s', Move g limit s s' → Sound g limit s ∧ motive s →
      Sound g limit s' ∧ motive s' :=
    fun s s' hstep h => ⟨h.1.move hstep, hmove s s' hstep h.1 h.2⟩
  exact (run_induction hboth n ⟨sound_start g limit, hstart⟩).2

/-! ## Coming to an end -/

/-- All names of a graph, those to which an edge leads included. -/
def names (g : DependencyGraph) : Finset String := (g.keys ++ g.values.flatten).toFinset

/-- The work that is left: to take up the roots, to follow the edges and leave the vertices of the
path, and the same for every vertex that has not been visited. -/
def work (g : DependencyGraph) (s : CycleSearch) : Nat :=
  s.roots.length + (s.path.map fun frame => frame.2.length + 1).sum +
    ∑ id ∈ names g \ (s.visited ++ s.finished).toFinset, ((g.targets id).length + 1)

lemma map_targets_keys (g : DependencyGraph) : g.keys.map g.targets = g.values := by
  simp only [Table.keys, Table.values, Entries.keys, Entries.values, List.map_map]
  refine List.map_congr_left fun entry hentry => ?_
  simp [DependencyGraph.targets, Table.get?_eq_some_iff.mpr hentry]

lemma mem_keys_of_edge {id next : String} (h : g.Edge id next) : id ∈ g.keys := by
  by_contra hnot
  rw [DependencyGraph.Edge, DependencyGraph.targets, Table.get?_eq_none_iff.mpr hnot] at h
  simp at h

lemma mem_names_of_mem_keys {id : String} (h : id ∈ g.keys) : id ∈ names g := by
  simp [names, h]

/-- The names in the table are those to which edges lead. -/
lemma mem_flatten_values_iff {next : String} :
    next ∈ g.values.flatten ↔ ∃ id, g.Edge id next := by
  rw [← map_targets_keys, List.mem_flatten]
  constructor
  · rintro ⟨targets, htargets, hnext⟩
    obtain ⟨id, -, rfl⟩ := List.mem_map.mp htargets
    exact ⟨id, hnext⟩
  · rintro ⟨id, hedge⟩
    exact ⟨g.targets id, List.mem_map_of_mem (mem_keys_of_edge hedge), hedge⟩

lemma mem_names_of_edge {id next : String} (h : g.Edge id next) : next ∈ names g := by
  rw [names, List.mem_toFinset, List.mem_append]
  exact .inr (mem_flatten_values_iff.mpr ⟨id, h⟩)

/-- What is left to do at unvisited vertices is shared out when one of them is visited. -/
lemma sum_unvisited_eq {seen : List String} {id : String} (hname : id ∈ names g)
    (hfresh : id ∉ seen) :
    ∑ other ∈ names g \ seen.toFinset, ((g.targets other).length + 1) =
      (g.targets id).length + 1 +
        ∑ other ∈ names g \ (id :: seen).toFinset, ((g.targets other).length + 1) := by
  have hmem : id ∈ names g \ seen.toFinset := by simp [hname, hfresh]
  rw [List.toFinset_cons, Finset.sdiff_insert]
  exact (Finset.add_sum_erase _ (fun other => (g.targets other).length + 1) hmem).symm

lemma work_lt_of_move {s s' : CycleSearch} (hmove : Move g limit s s') (h : Sound g limit s) :
    work g s' < work g s := by
  have hroots := h.roots_mem
  have hrest := h.rest_mem
  cases hmove with
  | close back => simp only [work, visited, List.map_cons, List.sum_cons, List.length_cons]; omega
  | skip left => simp only [work, visited, List.map_cons, List.sum_cons, List.length_cons]; omega
  | cut off long => simp only [work, visited, List.map_cons, List.sum_cons, List.length_cons]; omega
  | enter off fresh short =>
    have hedge := hrest _ List.mem_cons_self _ List.mem_cons_self
    -- What was left to do at the unvisited vertex is now left to do on the path.
    have hshare := sum_unvisited_eq (mem_names_of_edge hedge)
      (fun hmem => (List.mem_append.mp hmem).elim off fresh)
    simp only [work, visited, List.map_cons, List.sum_cons, List.length_cons, List.cons_append]
      at hshare ⊢
    omega
  | @leave roots id below finished circles truncated =>
    have hseen : (below.map Prod.fst ++ id :: finished).toFinset =
        (id :: below.map Prod.fst ++ finished).toFinset :=
      List.toFinset_eq_of_perm _ _ List.perm_middle
    simp only [work, visited, List.map_cons, List.sum_cons, List.length_nil, hseen]
    omega
  | pass left => simp only [work, visited, List.length_cons]; omega
  | begin fresh =>
    have hname := mem_names_of_mem_keys (hroots _ List.mem_cons_self)
    have hshare := sum_unvisited_eq hname fresh
    simp only [work, visited, List.map_cons, List.map_nil, List.sum_cons, List.sum_nil,
      List.length_cons, List.cons_append, List.nil_append] at hshare ⊢
    omega

lemma work_start_le (g : DependencyGraph) : work g (.start g) ≤ budget g := by
  have hedges : ∑ id ∈ names g, (g.targets id).length = g.values.flatten.length := by
    have hsubset : g.keys.toFinset ⊆ names g := by
      intro id hid
      exact mem_names_of_mem_keys (List.mem_toFinset.mp hid)
    -- A name that is no vertex has no edges, so the sum over the names is one over the vertices.
    have hzero : ∀ id ∈ names g, id ∉ g.keys.toFinset → (g.targets id).length = 0 := by
      intro id _ hid
      rw [List.mem_toFinset] at hid
      rw [DependencyGraph.targets, Table.get?_eq_none_iff.mpr hid]
      rfl
    rw [← Finset.sum_subset hsubset hzero, List.sum_toFinset _ g.nodup_keys, List.length_flatten,
      ← map_targets_keys, List.map_map]
    rfl
  have hnames : (names g).card ≤ g.size + g.values.flatten.length := by
    refine (List.toFinset_card_le _).trans ?_
    rw [List.length_append, Table.length_keys]
  have hwork : work g (.start g) = g.size + (g.values.flatten.length + (names g).card) := by
    simp [work, start, visited, Finset.sum_add_distrib, hedges, Table.length_keys]
  rw [hwork, budget]
  omega

lemma run_of_ended {s : CycleSearch} (h : s.Ended) (n : Nat) : run g limit n s = s := by
  induction n with
  | zero => rfl
  | succ n ih => rw [run, step_of_ended h, ih]

/-- As many steps as there is work are enough. -/
lemma ended_run {s : CycleSearch} {n : Nat} (h : Sound g limit s) (hn : work g s ≤ n) :
    (run g limit n s).Ended := by
  induction n generalizing s with
  | zero =>
    by_contra hnot
    rw [run] at hnot
    have hmove : Move g limit s (step g limit s) := move_step hnot
    have hlt := work_lt_of_move hmove h
    omega
  | succ n ih =>
    by_cases hended : s.Ended
    · rwa [run_of_ended hended]
    · have hmove : Move g limit s (step g limit s) := move_step hended
      have hlt := work_lt_of_move hmove h
      exact ih (h.move hmove) (by omega)

/-- The state in which the search of a graph is left. -/
def outcome (g : DependencyGraph) (limit : Nat) : CycleSearch :=
  run g limit (budget g) (.start g)

lemma sound_outcome (g : DependencyGraph) (limit : Nat) : Sound g limit (outcome g limit) :=
  sound_run _

lemma ended_outcome (g : DependencyGraph) (limit : Nat) : (outcome g limit).Ended :=
  ended_run (sound_start g limit) (work_start_le g)

lemma findCycles_paths (g : DependencyGraph) (limit : Nat) :
    (findCycles g limit).paths = (outcome g limit).circles.map closedPath := rfl

lemma findCycles_truncated (g : DependencyGraph) (limit : Nat) :
    (findCycles g limit).truncated = (outcome g limit).truncated := rfl

end CycleSearch

end CloudTemplate
