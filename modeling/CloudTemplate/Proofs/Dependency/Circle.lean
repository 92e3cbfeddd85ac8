import CloudTemplate.Dependency.Cycles
import Mathlib.Data.List.Chain
import Mathlib.Data.List.Rotate
import Mathlib.Data.List.TakeWhile
import Mathlib.Data.String.Basic
import Mathlib.Logic.Relation

/-!
# Circles, components and rotations

The vocabulary in which the search for circles is judged, independent of how it proceeds.
`DependencyGraph.Edge` is the edge relation, `IsCircle` says what a reported path has to be,
`Connected` and `IsComponent` are strong connectedness and its classes.

A circle can be told from any of its vertices.  The search compares circles by `fromLeast`, and the
last section shows that this is a complete test: among lists without repetition,
`fromLeast_eq_iff` holds exactly for rotations of one another.
-/

namespace CloudTemplate

lemma closedPath_cons (first : String) (rest : List String) :
    closedPath (first :: rest) = first :: rest ++ [first] := rfl

lemma dropLast_closedPath (circle : List String) : (closedPath circle).dropLast = circle := by
  cases circle with
  | nil => rfl
  | cons first rest => rw [closedPath_cons, List.dropLast_concat]

/-- Naming the first name once more at the end adds no name. -/
lemma mem_closed_iff {first a : String} {rest : List String} :
    a ∈ first :: rest ++ [first] ↔ a ∈ first :: rest := by
  rw [List.mem_append, List.mem_singleton]
  exact or_iff_left_of_imp fun h => h ▸ List.mem_cons_self

namespace DependencyGraph

variable (g : DependencyGraph)

/-- An edge from one name to another. -/
def Edge (a b : String) : Prop := b ∈ g.targets a

instance : DecidableRel g.Edge := fun a b => inferInstanceAs (Decidable (b ∈ g.targets a))

/-- A path along edges that ends where it begins and meets no other name twice. -/
structure IsCircle (path : List String) : Prop where
  two_le_length : 2 ≤ path.length
  closed : path.head? = path.getLast?
  linked : path.IsChain g.Edge
  simple : path.dropLast.Nodup

/-- Each of two names can be reached from the other. -/
def Connected (a b : String) : Prop :=
  Relation.ReflTransGen g.Edge a b ∧ Relation.ReflTransGen g.Edge b a

/-- A strongly connected component: all that is connected with some name. -/
def IsComponent (component : Set String) : Prop :=
  ∃ a, component = {b | g.Connected a b}

variable {g}

lemma Connected.symm {a b : String} (h : g.Connected a b) : g.Connected b a := ⟨h.2, h.1⟩

lemma Connected.trans {a b c : String} (h : g.Connected a b) (h' : g.Connected b c) :
    g.Connected a c :=
  ⟨h.1.trans h'.1, h'.2.trans h.2⟩

/-! ## Circles -/

/-- A list without repetition whose closed path runs along edges is a circle. -/
lemma isCircle_closedPath {circle : List String} (hne : circle ≠ []) (hnodup : circle.Nodup)
    (hlinked : (closedPath circle).IsChain g.Edge) : g.IsCircle (closedPath circle) := by
  obtain ⟨first, rest, rfl⟩ := List.exists_cons_of_ne_nil hne
  rw [closedPath_cons] at hlinked ⊢
  refine ⟨by simp, ?_, hlinked, ?_⟩
  · rw [List.getLast?_concat]
    rfl
  · rw [List.dropLast_concat]
    exact hnodup

/-- A circle is a list without repetition with its first name once more behind it. -/
lemma IsCircle.exists_closedPath {path : List String} (h : g.IsCircle path) :
    ∃ first rest, path = first :: rest ++ [first] := by
  have hlength := h.two_le_length
  obtain ⟨first, tail, rfl⟩ :=
    List.exists_cons_of_ne_nil (List.ne_nil_of_length_pos (by omega : 0 < path.length))
  have htail : tail ≠ [] := by
    rintro rfl
    simp at hlength
  have hlast : tail.getLast htail = first := by
    have hclosed := h.closed
    rw [List.head?_cons, List.getLast?_eq_some_getLast (List.cons_ne_nil _ _),
      List.getLast_cons htail] at hclosed
    exact (Option.some.inj hclosed).symm
  refine ⟨first, tail.dropLast, ?_⟩
  rw [List.cons_append, ← hlast, List.dropLast_append_getLast htail]

/-- The first vertex of a circle leads to every vertex of it, and each of them back to the first. -/
lemma reachable_of_linked {first : String} {rest : List String}
    (h : (first :: rest ++ [first]).IsChain g.Edge) {a : String} (ha : a ∈ first :: rest) :
    g.Connected first a := by
  obtain ⟨before, after, hsplit⟩ := List.append_of_mem ha
  constructor
  · have hto : (before ++ [a]).IsChain g.Edge := by
      refine h.prefix ⟨after ++ [first], ?_⟩
      simp [hsplit]
    have hreach := List.relationReflTransGen_of_exists_isChain _ hto (by simp)
    have hhead : (before ++ [a]).head (by simp) = first := by
      cases before with
      | nil => exact (List.cons.inj hsplit).1.symm
      | cons b before => exact (List.cons.inj hsplit).1.symm
    rwa [hhead, List.getLast_concat] at hreach
  · have hfrom : (a :: (after ++ [first])).IsChain g.Edge := by
      refine h.suffix ⟨before, ?_⟩
      simp [hsplit]
    have hreach := List.relationReflTransGen_of_exists_isChain _ hfrom (by simp)
    rwa [List.head_cons, List.getLast_cons (by simp), List.getLast_concat] at hreach

/-- The vertices of a circle are connected with each other. -/
lemma IsCircle.connected {path : List String} (h : g.IsCircle path) {a b : String}
    (ha : a ∈ path) (hb : b ∈ path) : g.Connected a b := by
  obtain ⟨first, rest, rfl⟩ := h.exists_closedPath
  exact (reachable_of_linked h.linked (mem_closed_iff.mp ha)).symm.trans
    (reachable_of_linked h.linked (mem_closed_iff.mp hb))

/-- Every vertex of a circle leads back to itself along at least one edge. -/
lemma IsCircle.transGen {path : List String} (h : g.IsCircle path) {a : String} (ha : a ∈ path) :
    Relation.TransGen g.Edge a a := by
  obtain ⟨first, rest, rfl⟩ := h.exists_closedPath
  have hfirst : first ∈ first :: rest ++ [first] := List.mem_cons_self
  have hedge : ∃ next ∈ first :: rest ++ [first], g.Edge first next := by
    cases rest with
    | nil => exact ⟨first, by simp, h.linked.rel⟩
    | cons next rest => exact ⟨next, by simp, h.linked.rel⟩
  obtain ⟨next, hnext, hstep⟩ := hedge
  exact (Relation.TransGen.tail' (h.connected ha hfirst).1 hstep).trans_left
    (h.connected hnext ha).1

/-- From every vertex of a circle an edge leads to a vertex of the circle. -/
lemma IsCircle.exists_edge {path : List String} (h : g.IsCircle path) {a : String}
    (ha : a ∈ path) : ∃ b ∈ path, g.Edge a b := by
  obtain ⟨first, rest, rfl⟩ := h.exists_closedPath
  -- The first vertex stands at the end as well; it is taken where another stands behind it.
  obtain ⟨before, after, hsplit⟩ := List.append_of_mem (mem_closed_iff.mp ha)
  have hlinked := h.linked
  rw [hsplit] at hlinked ⊢
  obtain ⟨b, tail, htail⟩ := List.exists_cons_of_ne_nil (List.concat_ne_nil first after)
  rw [List.append_assoc, List.cons_append, htail] at hlinked ⊢
  have hpair := hlinked.suffix (List.suffix_append before _)
  exact ⟨b, by simp, (List.isChain_cons_cons.mp hpair).1⟩

/-- A circle of one graph is a circle of every graph that has its edges. -/
lemma IsCircle.mono {other : DependencyGraph} {path : List String} (h : g.IsCircle path)
    (hedges : ∀ a b, g.Edge a b → other.Edge a b) : other.IsCircle path where
  two_le_length := h.two_le_length
  closed := h.closed
  linked := h.linked.imp hedges
  simple := h.simple

/-- An edge from the end of a path back into it closes a circle: the part of the path from the
vertex to which the edge leads. -/
lemma isCircle_of_edge_back {path : List String} (hlinked : path.IsChain g.Edge)
    (hnodup : path.Nodup) {last next : String} (hlast : path.getLast? = some last)
    (hedge : g.Edge last next) (hnext : next ∈ path) :
    g.IsCircle (closedPath (path.dropWhile (· != next))) ∧
      last ∈ path.dropWhile (· != next) := by
  have hsuffix : path.dropWhile (· != next) <:+ path := List.dropWhile_suffix _
  have hne : path.dropWhile (· != next) ≠ [] := by
    intro hnil
    rw [List.dropWhile_eq_nil_iff] at hnil
    simpa using hnil next hnext
  have hhead : (path.dropWhile (· != next)).head? = some next := by
    have hnot := List.head?_dropWhile_not (· != next) path
    rw [List.head?_eq_some_head hne] at hnot ⊢
    simpa using hnot
  have hlast' : (path.dropWhile (· != next)).getLast? = some last := by
    obtain ⟨before, hbefore⟩ := hsuffix
    rw [← hlast, ← hbefore, List.getLast?_append_of_ne_nil _ hne]
    rw [hbefore]
  refine ⟨isCircle_closedPath hne (hnodup.sublist hsuffix.sublist) ?_, List.mem_of_getLast? hlast'⟩
  -- All edges but the one that closes the circle are edges of the path.
  rw [closedPath, List.take_one, hhead]
  refine (hlinked.suffix hsuffix).append (.singleton next) ?_
  rw [hlast']
  rintro _ ⟨⟩ _ ⟨⟩
  exact hedge

end DependencyGraph

/-! ## Rotations -/

lemma exists_leastName {names : List String} (hne : names ≠ []) :
    ∃ least, leastName names = some least := by
  cases names with
  | nil => exact absurd rfl hne
  | cons name rest =>
    unfold leastName
    split
    · exact ⟨name, rfl⟩
    · exact ⟨_, rfl⟩

lemma leastName_spec {names : List String} {least : String} (h : leastName names = some least) :
    least ∈ names ∧ ∀ name ∈ names, least ≤ name := by
  induction names generalizing least with
  | nil => simp [leastName] at h
  | cons name rest ih =>
    rcases eq_or_ne rest [] with rfl | hne
    · simp only [leastName, Option.some.injEq] at h
      subst h
      simp
    · obtain ⟨other, hother⟩ := exists_leastName hne
      obtain ⟨hmem, hle⟩ := ih hother
      simp only [leastName, hother, Option.some.injEq] at h
      split at h
      · next hlt =>
        subst h
        exact ⟨List.mem_cons_of_mem _ hmem, List.forall_mem_cons.mpr ⟨hlt.le, hle⟩⟩
      · next hnot =>
        subst h
        exact ⟨List.mem_cons_self, List.forall_mem_cons.mpr
          ⟨le_refl _, fun x hx => (not_lt.mp hnot).trans (hle x hx)⟩⟩

/-- The least name does not depend on the order of the names. -/
lemma leastName_eq_of_perm {names others : List String} (h : names.Perm others) :
    leastName names = leastName others := by
  rcases eq_or_ne names [] with rfl | hne
  · rw [h.nil_eq]
  · obtain ⟨least, hleast⟩ := exists_leastName hne
    have hne' : others ≠ [] := by
      rintro rfl
      exact hne h.eq_nil
    obtain ⟨other, hother⟩ := exists_leastName hne'
    obtain ⟨hmem, hle⟩ := leastName_spec hleast
    obtain ⟨hmem', hle'⟩ := leastName_spec hother
    rw [hleast, hother, le_antisymm (hle other (h.mem_iff.mpr hmem'))
      (hle' least (h.mem_iff.mp hmem))]

/-- A list told from its least name is a rotation of it that begins there. -/
lemma fromLeast_spec {circle : List String} {least : String} (h : leastName circle = some least) :
    circle ~r fromLeast circle ∧ (fromLeast circle).head? = some least := by
  have hfrom : fromLeast circle =
      circle.dropWhile (· != least) ++ circle.takeWhile (· != least) := by
    rw [fromLeast, h]
  have hhead : (circle.dropWhile (· != least)).head? = some least := by
    have hmem := (leastName_spec h).1
    have hnot := List.head?_dropWhile_not (· != least) circle
    cases hdrop : (circle.dropWhile (· != least)).head? with
    | none =>
      rw [List.head?_eq_none_iff, List.dropWhile_eq_nil_iff] at hdrop
      simpa using hdrop least hmem
    | some first =>
      rw [hdrop] at hnot
      simpa using hnot
  constructor
  · conv_lhs => rw [← List.takeWhile_append_dropWhile (p := (· != least)) (l := circle)]
    rw [hfrom]
    exact List.isRotated_append
  · rw [hfrom, List.head?_append, hhead]
    rfl

lemma isRotated_fromLeast (circle : List String) : circle ~r fromLeast circle := by
  rcases eq_or_ne circle [] with rfl | hne
  · exact List.IsRotated.refl _
  · obtain ⟨least, hleast⟩ := exists_leastName hne
    exact (fromLeast_spec hleast).1

/-- A list without repetition has only one rotation that begins with a given name. -/
lemma eq_of_isRotated_of_head?_eq {names others : List String} (hnodup : names.Nodup)
    (hrotated : names ~r others) (hhead : names.head? = others.head?) : names = others := by
  obtain ⟨n, rfl⟩ := hrotated
  rcases eq_or_ne names [] with rfl | hne
  · rw [List.rotate_nil]
  · have hpos : 0 < names.length := List.length_pos_of_ne_nil hne
    have hlt : n % names.length < names.length := Nat.mod_lt _ hpos
    rw [← List.rotate_mod, List.head?_rotate hlt, List.head?_eq_getElem?,
      List.getElem?_eq_getElem hpos, List.getElem?_eq_getElem hlt, Option.some.injEq,
      hnodup.getElem_inj_iff] at hhead
    rw [← List.rotate_mod, ← hhead, List.rotate_zero]

/-- Circles are told alike exactly if they are rotations of one another. -/
lemma fromLeast_eq_iff {circle other : List String} (hnodup : circle.Nodup) :
    fromLeast circle = fromLeast other ↔ circle ~r other := by
  constructor
  · intro h
    exact (isRotated_fromLeast circle).trans (h ▸ (isRotated_fromLeast other).symm)
  · intro h
    have hrotated : fromLeast circle ~r fromLeast other :=
      ((isRotated_fromLeast circle).symm.trans h).trans (isRotated_fromLeast other)
    rcases eq_or_ne circle [] with rfl | hne
    · rw [List.isRotated_nil_iff'.mp h]
    · obtain ⟨least, hleast⟩ := exists_leastName hne
      have hleast' : leastName other = some least := by
        rw [← leastName_eq_of_perm h.perm, hleast]
      refine eq_of_isRotated_of_head?_eq ?_ hrotated ?_
      · exact (isRotated_fromLeast circle).nodup_iff.mp hnodup
      · rw [(fromLeast_spec hleast).2, (fromLeast_spec hleast').2]

end CloudTemplate
