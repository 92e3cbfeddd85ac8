import CloudTemplate.Proofs.Dependency.Search

/-!
# What the search for circles reports

Two statements about `findCycles`.  Whatever the limit, every reported path is a circle of the
graph, and no two of them are rotations of one another (`isCircle_of_mem_paths_and_apart`).  If the
search was not cut short, every strongly connected component with a circle in it has one that is
reported (`exists_path_in_component`), so that a graph without reported paths has no circles.

The second rests on an account of edges.  The vertices are left one after the other, and `Settled`
says what became of an edge by the time the vertex behind it was left: the vertex to which it leads
was left earlier, or a circle through the vertex behind it was found, or the search was cut short.
`Accounted` carries this through a run.  Along a closed walk some edge does not lead to a vertex
left earlier, and in a search that was not cut short this edge has a circle to show.
-/

namespace CloudTemplate

namespace CycleSearch

variable {g : DependencyGraph} {limit : Nat}

/-! ## Circles that are reported -/

/-- Every reported path is a circle of the graph. -/
lemma isCircle_of_mem_paths {path : List String} (h : path ∈ (findCycles g limit).paths) :
    g.IsCircle path := by
  rw [findCycles_paths] at h
  obtain ⟨circle, hcircle, rfl⟩ := List.mem_map.mp h
  exact (sound_outcome g limit).circles circle hcircle

/-- Every reported path is a circle of the graph, and each circle is reported once. -/
theorem isCircle_of_mem_paths_and_apart (g : DependencyGraph) (limit : Nat) :
    (∀ path ∈ (findCycles g limit).paths, g.IsCircle path) ∧
      (findCycles g limit).paths.Pairwise fun path other => ¬ path.dropLast ~r other.dropLast := by
  refine ⟨fun path hpath => isCircle_of_mem_paths hpath, ?_⟩
  have h := sound_outcome g limit
  rw [findCycles_paths, List.pairwise_map]
  have hapart := List.pairwise_map.mp h.apart
  refine hapart.imp_of_mem fun {circle other} hcircle hother hne hrotated => hne ?_
  rw [dropLast_closedPath, dropLast_closedPath] at hrotated
  have hnodup := (h.circles circle hcircle).simple
  rw [dropLast_closedPath] at hnodup
  exact (fromLeast_eq_iff hnodup).mpr hrotated

/-! ## The account of edges -/

/-- What became of an edge from `id` to `next`, where `earlier` lists the vertices that were left
by then. -/
def Settled (s : CycleSearch) (earlier : List String) (id next : String) : Prop :=
  next ∈ earlier ∨ (∃ circle ∈ s.circles, id ∈ circle) ∨ s.truncated = true

/-- Every vertex is accounted for, and so are the edges from the vertices that have been left and
those followed from the vertices on the path. -/
structure Accounted (g : DependencyGraph) (s : CycleSearch) : Prop where
  keys : ∀ id ∈ g.keys, id ∈ s.roots ∨ id ∈ s.visited ∨ id ∈ s.finished
  left : ∀ id earlier, id :: earlier <:+ s.finished →
    ∀ next, g.Edge id next → s.Settled earlier id next
  followed : ∀ above id rest below, s.path = above ++ (id, rest) :: below →
    ∀ next, g.Edge id next →
      next ∈ rest ∨ next ∈ above.map Prod.fst ∨ s.Settled s.finished id next

lemma accounted_start (g : DependencyGraph) : Accounted g (.start g) where
  keys := fun _ h => .inl h
  left := by simp [start]
  followed := by simp [start]

/-- A circle through a vertex stays known, and so does what was found of its edges. -/
lemma Settled.mono {s s' : CycleSearch} {earlier earlier' : List String} {id next : String}
    (hearlier : earlier ⊆ earlier') (hcircles : s.circles ⊆ s'.circles)
    (htruncated : s.truncated = true → s'.truncated = true) (h : s.Settled earlier id next) :
    s'.Settled earlier' id next := by
  rcases h with h | ⟨circle, hcircle, hid⟩ | h
  · exact .inl (hearlier h)
  · exact .inr (.inl ⟨circle, hcircles hcircle, hid⟩)
  · exact .inr (.inr (htruncated h))

/-- After a circle through a vertex was added, a circle through it is known. -/
lemma exists_circle_of_mem {circles : List (List String)} {circle : List String} {id : String}
    (hid : id ∈ circle) : ∃ other ∈ addCircle circles circle, id ∈ other := by
  obtain ⟨other, hother, hsame⟩ := exists_mem_addCircle circles circle
  refine ⟨other, hother, ?_⟩
  rw [(isRotated_fromLeast other).mem_iff, hsame, ← (isRotated_fromLeast circle).mem_iff]
  exact hid

/-- Following an edge from the latest vertex keeps the account, if that edge is settled. -/
lemma Accounted.follow {roots finished id next more below circles circles' truncated truncated'}
    (h : Accounted g ⟨roots, (id, next :: more) :: below, finished, circles, truncated⟩)
    (hcircles : circles ⊆ circles') (htruncated : truncated = true → truncated' = true)
    (hnext : Settled ⟨roots, (id, more) :: below, finished, circles', truncated'⟩ finished id
      next) :
    Accounted g ⟨roots, (id, more) :: below, finished, circles', truncated'⟩ where
  keys := h.keys
  left := fun a earlier hsuffix b hedge =>
    (h.left a earlier hsuffix b hedge).mono (List.Subset.refl _) hcircles htruncated
  followed := by
    intro above a rest under hpath b hedge
    -- The edge starts from the latest vertex, where one fewer is left to follow, or from one below.
    cases above with
    | nil =>
      simp only [List.nil_append, List.cons.injEq, Prod.mk.injEq] at hpath
      obtain ⟨⟨rfl, rfl⟩, rfl⟩ := hpath
      rcases h.followed [] id (next :: more) below rfl b hedge with hrest | habove | hsettled
      · rcases List.mem_cons.mp hrest with rfl | hrest
        · exact .inr (.inr hnext)
        · exact .inl hrest
      · simp at habove
      · exact .inr (.inr (hsettled.mono (List.Subset.refl _) hcircles htruncated))
    | cons frame above =>
      simp only [List.cons_append, List.cons.injEq] at hpath
      obtain ⟨rfl, rfl⟩ := hpath
      rcases h.followed ((id, next :: more) :: above) a rest under rfl b hedge with
        hrest | habove | hsettled
      · exact .inl hrest
      · exact .inr (.inl habove)
      · exact .inr (.inr (hsettled.mono (List.Subset.refl _) hcircles htruncated))

/-- An edge that is followed into a new vertex is accounted for by that vertex, which now stands
above the other on the path. -/
lemma Accounted.enter {roots finished id next more below circles truncated}
    (h : Accounted g ⟨roots, (id, next :: more) :: below, finished, circles, truncated⟩) :
    Accounted g
      ⟨roots, (next, g.targets next) :: (id, more) :: below, finished, circles, truncated⟩ where
  keys := by
    intro a ha
    rcases h.keys a ha with hroot | hon | hleft
    · exact .inl hroot
    · exact .inr (.inl (List.mem_cons_of_mem _ hon))
    · exact .inr (.inr hleft)
  left := h.left
  followed := by
    intro above a rest under hpath b hedge
    -- The edge starts from the new vertex, from the one that was the latest so far, or from below.
    match above, hpath with
    | [], hpath =>
      simp only [List.nil_append, List.cons.injEq, Prod.mk.injEq] at hpath
      obtain ⟨⟨rfl, rfl⟩, -⟩ := hpath
      exact .inl hedge
    | [frame], hpath =>
      simp only [List.cons_append, List.nil_append, List.cons.injEq, Prod.mk.injEq] at hpath
      obtain ⟨rfl, ⟨rfl, rfl⟩, rfl⟩ := hpath
      rcases h.followed [] _ _ _ rfl b hedge with hrest | habove | hsettled
      · rcases List.mem_cons.mp hrest with rfl | hrest
        · exact .inr (.inl (by simp))
        · exact .inl hrest
      · simp at habove
      · exact .inr (.inr hsettled)
    | frame :: latest :: above, hpath =>
      simp only [List.cons_append, List.cons.injEq] at hpath
      obtain ⟨rfl, rfl, rfl⟩ := hpath
      rcases h.followed (_ :: above) a rest under rfl b hedge with hrest | habove | hsettled
      · exact .inl hrest
      · exact .inr (.inl (List.mem_cons_of_mem _ habove))
      · exact .inr (.inr hsettled)

/-- All edges from the latest vertex are settled when it is left, and it settles those that lead to
it from the others. -/
lemma Accounted.leave {roots finished id below circles truncated}
    (h : Accounted g ⟨roots, (id, []) :: below, finished, circles, truncated⟩) :
    Accounted g ⟨roots, below, id :: finished, circles, truncated⟩ where
  keys := by
    intro a ha
    rcases h.keys a ha with hroot | hon | hleft
    · exact .inl hroot
    · rcases List.mem_cons.mp hon with rfl | hon
      · exact .inr (.inr List.mem_cons_self)
      · exact .inr (.inl hon)
    · exact .inr (.inr (List.mem_cons_of_mem _ hleft))
  left := by
    intro a earlier hsuffix b hedge
    -- Of the vertex that is left now, no edge remains to be followed and nothing stands above it.
    rcases List.suffix_cons_iff.mp hsuffix with hwhole | hsuffix
    · obtain ⟨rfl, rfl⟩ := List.cons.inj hwhole
      rcases h.followed [] _ _ _ rfl b hedge with hrest | habove | hsettled
      · simp at hrest
      · simp at habove
      · exact hsettled
    · exact h.left a earlier hsuffix b hedge
  followed := by
    intro above a rest under hpath b hedge
    have hpath' : (id, []) :: below = ((id, []) :: above) ++ (a, rest) :: under :=
      congrArg ((id, []) :: ·) hpath
    rcases h.followed _ a rest under hpath' b hedge with hrest | habove | hsettled
    · exact .inl hrest
    · rcases List.mem_cons.mp habove with rfl | habove
      · exact .inr (.inr (.inl List.mem_cons_self))
      · exact .inr (.inl habove)
    · have hearlier : finished ⊆ id :: finished := List.subset_cons_self id finished
      exact .inr (.inr (hsettled.mono hearlier (List.Subset.refl _) fun h => h))

lemma Accounted.move {s s' : CycleSearch} (hmove : Move g limit s s') (hsound : Sound g limit s)
    (h : Accounted g s) : Accounted g s' := by
  cases hmove with
  | close back =>
    refine h.follow (subset_addCircle _ _) id (.inr (.inl ?_))
    have hvisited := hsound.distinct.of_append_left
    have hedge := hsound.rest_mem _ List.mem_cons_self _ List.mem_cons_self
    exact exists_circle_of_mem (isCircle_of_back hsound.linked hvisited hedge back).2
  | skip left => exact h.follow (List.Subset.refl _) id (.inl left)
  | cut off long => exact h.follow (List.Subset.refl _) (fun _ => rfl) (.inr (.inr rfl))
  | enter off fresh short => exact h.enter
  | leave => exact h.leave
  | pass left =>
    refine ⟨fun a ha => ?_, h.left, h.followed⟩
    rcases h.keys a ha with hroot | hon | hleft
    · rcases List.mem_cons.mp hroot with rfl | hroot
      · exact .inr (.inr left)
      · exact .inl hroot
    · exact .inr (.inl hon)
    · exact .inr (.inr hleft)
  | begin fresh =>
    refine ⟨fun a ha => ?_, h.left, fun above a rest under hpath b hedge => ?_⟩
    · rcases h.keys a ha with hroot | hon | hleft
      · rcases List.mem_cons.mp hroot with rfl | hroot
        · exact .inr (.inl List.mem_cons_self)
        · exact .inl hroot
      · exact absurd hon List.not_mem_nil
      · exact .inr (.inr hleft)
    · cases above with
      | nil =>
        simp only [List.nil_append, List.cons.injEq, Prod.mk.injEq] at hpath
        obtain ⟨⟨rfl, rfl⟩, -⟩ := hpath
        exact .inl hedge
      | cons frame above => simp at hpath

lemma accounted_run (n : Nat) : Accounted g (run g limit n (.start g)) :=
  run_start_induction (fun _ _ hmove hsound h => h.move hmove hsound) (accounted_start g) n

lemma accounted_outcome (g : DependencyGraph) (limit : Nat) : Accounted g (outcome g limit) :=
  accounted_run _

lemma mem_finished_outcome (limit : Nat) {id : String} (h : id ∈ g.keys) :
    id ∈ (outcome g limit).finished := by
  obtain ⟨hpath, hroots⟩ := ended_outcome g limit
  rcases (accounted_outcome g limit).keys id h with hroot | hon | hleft
  · simp [hroots] at hroot
  · simp [visited, hpath] at hon
  · exact hleft

/-! ## Components with a circle -/

/-- Among vertices that can be left without ever leaving their like, there is one of a circle that
was found. -/
lemma exists_circle_of_leading_on (hwhole : (outcome g limit).truncated = false) {P : String → Prop}
    (hleads : ∀ a, P a → ∃ b, P b ∧ g.Edge a b) {id : String} (hid : P id) :
    ∃ circle ∈ (outcome g limit).circles, ∃ a ∈ circle, P a := by
  by_contra hnone
  -- By induction on what was left earlier: without a circle, an edge leads further back.
  have hempty : ∀ (n : Nat) (a : String) (earlier : List String), earlier.length = n →
      a :: earlier <:+ (outcome g limit).finished → ¬ P a := by
    intro n
    induction n using Nat.strong_induction_on with
    | _ n ih =>
      rintro a earlier rfl hsuffix ha
      obtain ⟨b, hb, hedge⟩ := hleads a ha
      rcases (accounted_outcome g limit).left a earlier hsuffix b hedge with
        hearlier | ⟨circle, hcircle, hon⟩ | htruncated
      · obtain ⟨before, after, rfl⟩ := List.append_of_mem hearlier
        refine ih after.length ?_ b after rfl ?_ hb
        · simp only [List.length_append, List.length_cons]
          omega
        · exact ((List.suffix_append before _).trans (List.suffix_cons a _)).trans hsuffix
      · exact hnone ⟨circle, hcircle, a, hon, ha⟩
      · rw [hwhole] at htruncated
        exact absurd htruncated Bool.false_ne_true
  obtain ⟨next, -, hedge⟩ := hleads id hid
  obtain ⟨before, after, hsplit⟩ :=
    List.append_of_mem (mem_finished_outcome limit (mem_keys_of_edge hedge))
  exact hempty _ id after rfl ⟨before, hsplit.symm⟩ hid

/-- A vertex that leads back to itself is connected with a vertex of a circle that was found. -/
lemma exists_circle_of_transGen (hwhole : (outcome g limit).truncated = false) {id : String}
    (hid : Relation.TransGen g.Edge id id) :
    ∃ circle ∈ (outcome g limit).circles, ∃ a ∈ circle, g.Connected id a := by
  refine exists_circle_of_leading_on hwhole (fun a hconnected => ?_) ⟨.refl, .refl⟩
  have hloop : Relation.TransGen g.Edge a a :=
    (hid.trans_right hconnected.2).trans_left hconnected.1
  obtain ⟨b, hedge, hback⟩ := Relation.TransGen.head'_iff.mp hloop
  exact ⟨b, hconnected.trans ⟨.single hedge, hback⟩, hedge⟩

/-- If the search was not cut short, every strongly connected component with a vertex that leads
back to itself has a circle which is reported, and without reported paths no vertex does. -/
theorem exists_path_in_component (g : DependencyGraph) (limit : Nat)
    (hwhole : (findCycles g limit).truncated = false) :
    (∀ component, g.IsComponent component →
      (∃ id ∈ component, Relation.TransGen g.Edge id id) →
        ∃ path ∈ (findCycles g limit).paths, g.IsCircle path ∧ ∀ id ∈ path, id ∈ component) ∧
      ((findCycles g limit).paths = [] → ∀ id, ¬ Relation.TransGen g.Edge id id) := by
  rw [findCycles_truncated] at hwhole
  rw [findCycles_paths]
  constructor
  · rintro component ⟨a, rfl⟩ ⟨id, hconnected, hid⟩
    obtain ⟨circle, hcircle, b, hb, hback⟩ := exists_circle_of_transGen hwhole hid
    have hpath := (sound_outcome g limit).circles circle hcircle
    refine ⟨closedPath circle, List.mem_map_of_mem hcircle, hpath, fun c hc => ?_⟩
    have hb' : b ∈ closedPath circle := List.mem_append_left _ hb
    exact (hconnected.trans hback).trans (hpath.connected hb' hc)
  · intro hnil id hid
    obtain ⟨circle, hcircle, -⟩ := exists_circle_of_transGen hwhole hid
    rw [List.map_eq_nil_iff] at hnil
    rw [hnil] at hcircle
    exact List.not_mem_nil hcircle

/-- A loop of two vertices with an edge told twice, and a loop of one; the edges lead to a name that
is no vertex as well. -/
def twoLoops : DependencyGraph := .ofList [("A", ["B", "C"]), ("B", ["A", "A"]), ("C", ["C", "D"])]

/-- Each of the loops has its circle. -/
theorem exists_path_in_component_twoLoops :
    (findCycles twoLoops 3).truncated = false ∧
      (∃ path ∈ (findCycles twoLoops 3).paths,
        twoLoops.IsCircle path ∧ ∀ id ∈ path, twoLoops.Connected "B" id) ∧
      ∃ path ∈ (findCycles twoLoops 3).paths,
        twoLoops.IsCircle path ∧ ∀ id ∈ path, twoLoops.Connected "C" id := by
  have hwhole : (findCycles twoLoops 3).truncated = false := by decide
  have hcomponents := (exists_path_in_component twoLoops 3 hwhole).1
  have hab : twoLoops.Edge "A" "B" := by decide
  have hba : twoLoops.Edge "B" "A" := by decide
  have hcc : twoLoops.Edge "C" "C" := by decide
  refine ⟨hwhole, hcomponents _ ⟨"B", rfl⟩ ⟨"B", ⟨.refl, .refl⟩, .tail (.single hba) hab⟩, ?_⟩
  exact hcomponents _ ⟨"C", rfl⟩ ⟨"C", ⟨.refl, .refl⟩, .single hcc⟩

end CycleSearch

end CloudTemplate
