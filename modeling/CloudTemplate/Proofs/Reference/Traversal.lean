import CloudTemplate.Proofs.Reference.Mentions
import CloudTemplate.Proofs.Reference.Work

/-!
# The scan is the traversal

A scan keeps a list of work; a traversal is plain recursion from left to right, and so is the order
in which it finds references.  `scan_eq_traverse` says that a scan finds exactly these, in this
order, at every limit.

The proof goes along the values inside a value.  Work that lies at one depth yields what the values
of the work yield one after the other (`scanWork_map_cons`), so once the scan and the traversal
agree on the values inside a value, they agree on the value.  Which values these are is told apart
for the argument of an `Fn::Sub`, whose levels are particular (`found_append_scanWork_subParts`).

When a scan is cut short is said of the traversal alone: `Meets` lists the depths at which a
traversal meets a value, and it is cut short exactly if one of them is beyond the limit.
-/

namespace CloudTemplate

namespace PropertyValue

variable {limit depth : Nat}

/-! ## Scans and traversals, value by value -/

lemma scanWork_items {items : List PropertyValue}
    (h : ∀ item ∈ items, scanAt limit depth item = item.traverse limit depth) :
    scanWork limit .nothing (items.map fun item => (item, depth)) =
      traverseItems limit depth items := by
  induction items with
  | nil => rw [List.map_nil, scanWork, traverseItems]
  | cons item more ih =>
    obtain ⟨hitem, hmore⟩ := List.forall_mem_cons.mp h
    rw [scanWork_map_cons, hitem, ih hmore, traverseItems]

lemma scanWork_values {entries : Entries PropertyValue}
    (h : ∀ value ∈ Entries.values entries, scanAt limit depth value = value.traverse limit depth) :
    scanWork limit .nothing ((Entries.values entries).map fun value => (value, depth)) =
      traverseEntries limit depth entries := by
  induction entries with
  | nil => rw [Entries.values, List.map_nil, List.map_nil, scanWork, traverseEntries]
  | cons entry more ih =>
    obtain ⟨key, value⟩ := entry
    obtain ⟨hvalue, hmore⟩ := List.forall_mem_cons.mp h
    show scanWork limit .nothing ((value :: Entries.values more).map fun v => (v, depth)) = _
    rw [scanWork_map_cons, hvalue, ih hmore, traverseEntries]

/-- A single value that is contributed is traversed as itself. -/
lemma scanWork_argument {argument : PropertyValue}
    (h : ∀ part ∈ [argument], scanAt limit depth part = part.traverse limit depth) :
    scanWork limit .nothing ([argument].map fun part => (part, depth)) =
      argument.traverse limit depth := by
  rw [scanWork_items h, traverseItems, traverseItems, Scan.append_nothing]

/-- What an `Fn::Sub` contributes is scanned as its argument is traversed. -/
lemma found_append_scanWork_subParts {argument : PropertyValue}
    (h : ∀ part ∈ argument.subParts.2, scanAt limit depth part = part.traverse limit depth) :
    .found argument.subParts.1 ++
        scanWork limit .nothing (argument.subParts.2.map fun part => (part, depth)) =
      traverseSub limit depth argument := by
  revert h
  unfold subParts
  split <;> intro h
  · rw [traverseSub, List.map_nil, scanWork, Scan.append_nothing]
  · next text bindings => rw [traverseSub, scanWork_values h]
  · next first second hplain =>
    rw [traverseSub, scanWork_items h, traverseItems, traverseItems, traverseItems,
      Scan.append_nothing]
    · exact Scan.nothing_append _
    · exact hplain
  · next htext hplain hpair =>
    rw [traverseSub, scanWork_argument h]
    · exact Scan.nothing_append _
    · exact htext
    · exact hplain
    · exact hpair

lemma traverse_of_lt (h : limit < depth) (v : PropertyValue) :
    v.traverse limit depth = .tooDeep := by
  unfold traverse
  rw [if_pos h]

/-- A value that is not too deep is scanned as it is traversed, if the values inside it are. -/
lemma found_append_scanWork_parts (hdepth : depth ≤ limit) {v : PropertyValue}
    (h : ∀ part ∈ v.parts.2, scanAt limit (depth + 1) part = part.traverse limit (depth + 1)) :
    .found v.parts.1 ++
        scanWork limit .nothing (v.parts.2.map fun part => (part, depth + 1)) =
      v.traverse limit depth := by
  unfold traverse
  rw [if_neg (Nat.not_lt.mpr hdepth)]
  revert h
  unfold parts
  cases v with
  | ref target | getAtt target name =>
    intro h
    rw [List.map_nil, scanWork, Scan.append_nothing]
  | null | bool value | number value | string value =>
    intro h
    rw [List.map_nil, scanWork, Scan.append_nothing]
    rfl
  | list items =>
    intro h
    rw [scanWork_items h]
    exact Scan.nothing_append _
  | map entries =>
    -- A map with one entry may be an `Fn::Sub`; any other is a list of values.
    rcases entries with _ | ⟨⟨key, argument⟩, _ | ⟨next, more⟩⟩
    · intro h
      rw [scanWork_values h]
      exact Scan.nothing_append _
    · dsimp only
      by_cases hkey : key = subKey
      · simp only [hkey, if_true]
        exact found_append_scanWork_subParts
      · simp only [hkey, if_false]
        intro h
        rw [scanWork_argument h]
        exact Scan.nothing_append _
    · intro h
      rw [scanWork_values h]
      exact Scan.nothing_append _

/-- At whatever depth a value lies, its scan is its traversal. -/
lemma scanAt_eq_traverse (limit depth : Nat) (v : PropertyValue) :
    scanAt limit depth v = v.traverse limit depth := by
  by_cases hdepth : limit < depth
  · rw [scanAt_of_lt hdepth, traverse_of_lt hdepth]
  · have hle : depth ≤ limit := Nat.not_lt.mp hdepth
    have hparts : ∀ part ∈ v.parts.2,
        scanAt limit (depth + 1) part = part.traverse limit (depth + 1) :=
      fun part hpart => scanAt_eq_traverse limit (depth + 1) part
    rw [scanAt_of_le hle, found_append_scanWork_parts hle hparts]
termination_by v.size
decreasing_by exact size_lt_of_mem_parts hpart

/-! ## What a traversal meets -/

/-- The traversal of a value that lies at some depth meets a value at another depth. -/
inductive Meets (limit : Nat) : PropertyValue → Nat → Nat → Prop
  | self {v depth} : Meets limit v depth depth
  | item {items item depth met} : depth ≤ limit → item ∈ items →
      Meets limit item (depth + 1) met → Meets limit (.list items) depth met
  | value {entries value depth met} (plain : ∀ argument, entries ≠ [(subKey, argument)]) :
      depth ≤ limit → value ∈ Entries.values entries →
        Meets limit value (depth + 1) met → Meets limit (.map entries) depth met
  /-- The variables beside the text of an `Fn::Sub` lie one level below the map that holds it. -/
  | binding {text bindings value depth met} : depth ≤ limit → value ∈ Entries.values bindings →
      Meets limit value (depth + 1) met →
        Meets limit (.map [(subKey, .list [.string text, .map bindings])]) depth met
  /-- So do the items of any other list of two. -/
  | element {first second item depth met}
      (plain : ∀ text bindings, first = .string text → second ≠ .map bindings) :
      depth ≤ limit → item ∈ [first, second] → Meets limit item (depth + 1) met →
        Meets limit (.map [(subKey, .list [first, second])]) depth met
  /-- So does any other argument, unless it is a text. -/
  | argument {argument depth met} (text : ∀ text, argument ≠ .string text)
      (pair : ∀ first second, argument ≠ .list [first, second]) : depth ≤ limit →
      Meets limit argument (depth + 1) met → Meets limit (.map [(subKey, argument)]) depth met

lemma subParts_pair_of_plain {first second : PropertyValue}
    (h : ∀ text bindings, first = .string text → second ≠ .map bindings) :
    subParts (.list [first, second]) = ([], [first, second]) := by
  rw [subParts]
  exact h

lemma subParts_of_other {argument : PropertyValue} (htext : ∀ text, argument ≠ .string text)
    (hpair : ∀ first second, argument ≠ .list [first, second]) :
    argument.subParts = ([], [argument]) := by
  rw [subParts]
  · exact htext
  · exact fun text bindings => hpair _ _
  · exact hpair

variable {met : Nat}

/-- Inside an `Fn::Sub` is met what is met inside the values that its argument contributes. -/
lemma meets_sub_iff {argument : PropertyValue} :
    Meets limit (.map [(subKey, argument)]) depth met ↔ met = depth ∨
      depth ≤ limit ∧ ∃ part ∈ argument.subParts.2, part.Meets limit (depth + 1) met := by
  constructor
  · intro h
    cases h with
    | self => exact .inl rfl
    | value plain => exact absurd rfl (plain argument)
    | binding hdepth hmem h => exact .inr ⟨hdepth, _, hmem, h⟩
    | element plain hdepth hmem h =>
      rw [subParts_pair_of_plain plain]
      exact .inr ⟨hdepth, _, hmem, h⟩
    | argument htext hpair hdepth h =>
      rw [subParts_of_other htext hpair]
      exact .inr ⟨hdepth, _, List.mem_singleton_self _, h⟩
  · rintro (rfl | ⟨hdepth, part, hpart, h⟩)
    · exact .self
    · unfold subParts at hpart
      split at hpart
      · exact absurd hpart List.not_mem_nil
      · exact .binding hdepth hpart h
      · next plain => exact .element plain hdepth hpart h
      · next htext _ hpair =>
        rw [List.mem_singleton.mp hpart] at h
        exact .argument htext hpair hdepth h

/-- A traversal meets a value, and what it meets inside the values one level below, unless the value
is too deep to be visited. -/
lemma meets_iff {v : PropertyValue} : v.Meets limit depth met ↔ met = depth ∨
    depth ≤ limit ∧ ∃ part ∈ v.parts.2, part.Meets limit (depth + 1) met := by
  cases v with
  | null | bool _ | number _ | string _ | ref _ | getAtt _ _ =>
    simp only [parts, List.not_mem_nil, false_and, exists_false, and_false, or_false]
    constructor
    · rintro ⟨⟩
      rfl
    · rintro rfl
      exact .self
  | list items =>
    constructor
    · intro h
      cases h with
      | self => exact .inl rfl
      | item hdepth hitem h => exact .inr ⟨hdepth, _, hitem, h⟩
    · rintro (rfl | ⟨hdepth, item, hitem, h⟩)
      · exact .self
      · exact .item hdepth hitem h
  | map entries =>
    by_cases hsub : ∃ argument, entries = [(subKey, argument)]
    · obtain ⟨argument, rfl⟩ := hsub
      rw [meets_sub_iff]
      simp [parts]
    · push Not at hsub
      rw [parts_map_of_ne hsub]
      constructor
      · intro h
        cases h with
        | self => exact .inl rfl
        | value plain hdepth hmem h => exact .inr ⟨hdepth, _, hmem, h⟩
        | binding _ _ _ | element _ _ _ _ | argument _ _ _ _ => exact absurd rfl (hsub _)
      · rintro (rfl | ⟨hdepth, value, hmem, h⟩)
        · exact .self
        · exact .value hsub hdepth hmem h

/-- The work of a scan is cut short exactly if a value in it is met beyond the limit. -/
lemma scanWork_truncated_iff_meets {found : Scan} {work : List (PropertyValue × Nat)} :
    (scanWork limit found work).truncated = true ↔ found.truncated = true ∨
      ∃ task ∈ work, ∃ met, limit < met ∧ task.1.Meets limit task.2 met := by
  fun_induction scanWork limit found work with
  | case1 found => simp
  | case2 found value depth rest hdeep ih =>
    rw [ih]
    simp only [true_or, List.mem_cons, true_iff]
    exact .inr ⟨(value, depth), .inl rfl, depth, hdeep, .self⟩
  | case3 found value depth rest hdeep ih =>
    have hvisited : depth ≤ limit := Nat.not_lt.mp hdeep
    -- The value itself is not beyond the limit, so what is met beyond it lies inside.
    have hvalue : (∃ met, limit < met ∧ value.Meets limit depth met) ↔
        ∃ part ∈ value.parts.2, ∃ met, limit < met ∧ part.Meets limit (depth + 1) met := by
      constructor
      · rintro ⟨met, hmet, h⟩
        rcases meets_iff.mp h with rfl | ⟨-, part, hpart, h⟩
        · exact absurd hmet hdeep
        · exact ⟨part, hpart, met, hmet, h⟩
      · rintro ⟨part, hpart, met, hmet, h⟩
        exact ⟨met, hmet, meets_iff.mpr (.inr ⟨hvisited, part, hpart, h⟩)⟩
    rw [ih]
    simp only [List.mem_append, List.mem_map, List.mem_cons, or_and_right, exists_or,
      exists_exists_and_eq_and, exists_eq_left, hvalue]

end PropertyValue

/-- A scan finds exactly what the traversal from left to right finds, in its order, and is cut short
exactly if that traversal meets a value beyond the limit. -/
theorem scan_eq_traverse (limit : Nat) (v : PropertyValue) :
    scan limit v = v.traverse limit 0 ∧
      ((scan limit v).truncated = true ↔ ∃ met, limit < met ∧ v.Meets limit 0 met) := by
  constructor
  · exact v.scanAt_eq_traverse limit 0
  · simp [scan, PropertyValue.scanWork_truncated_iff_meets]

end CloudTemplate
