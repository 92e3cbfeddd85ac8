import CloudTemplate.Proofs.Reference.Mentions

/-!
# How deep a reference lies

A scan goes down to its limit and no further.  `PropertyValue.MentionsWithin` says that a reference
occurs in a value at most so many levels below it, where levels are those of the scan.  It is
exactly what a scan finds, whole or not (`mem_scan_iff_within`).

So what is found occurs (`mentions_of_mem_scan`).  A scan is whole exactly if the limit is at least
the nesting of the value (`scan_truncated_eq_false_iff`), and as all that a value mentions lies
within its nesting (`Mentions.within`), a whole scan has everything that occurs (`mem_scan_iff`).
-/

namespace CloudTemplate

namespace PropertyValue

/-- A reference occurs in a value, at most so many levels below it. -/
inductive MentionsWithin : Nat → PropertyValue → Reference → Prop
  /-- The value makes the reference itself. -/
  | own {limit v r} : r ∈ v.parts.1 → MentionsWithin limit v r
  /-- A value one level below makes it. -/
  | part {limit v part r} : part ∈ v.parts.2 → MentionsWithin limit part r →
      MentionsWithin (limit + 1) v r

variable {limit : Nat} {v : PropertyValue} {r : Reference}

lemma mentionsWithin_iff : v.MentionsWithin limit r ↔
    r ∈ v.parts.1 ∨ ∃ part ∈ v.parts.2, 0 < limit ∧ part.MentionsWithin (limit - 1) r := by
  constructor
  · intro h
    cases h with
    | own hown => exact .inl hown
    | part hpart h => exact .inr ⟨_, hpart, Nat.succ_pos _, h⟩
  · rintro (hown | ⟨part, hpart, hpos, h⟩)
    · exact .own hown
    · obtain ⟨n, rfl⟩ := Nat.exists_eq_succ_of_ne_zero (Nat.ne_of_gt hpos)
      exact .part hpart h

lemma MentionsWithin.mentions (h : v.MentionsWithin limit r) : v.Mentions r := by
  induction h with
  | own hown => exact mentions_iff.mpr (.inl hown)
  | part hpart _ ih => exact mentions_iff.mpr (.inr ⟨_, hpart, ih⟩)

/-- Within its nesting lies all that a value mentions. -/
lemma Mentions.within {v : PropertyValue} {limit : Nat} (h : v.Mentions r)
    (hnesting : v.nesting ≤ limit) : v.MentionsWithin limit r := by
  rcases mentions_iff.mp h with hown | ⟨part, hpart, hmentions⟩
  · exact .own hown
  · have hbelow := nesting_le_iff.mp hnesting part hpart
    have hdeeper : part.MentionsWithin (limit - 1) r := hmentions.within (by omega)
    exact mentionsWithin_iff.mpr (.inr ⟨part, hpart, by omega, hdeeper⟩)
termination_by v.size
decreasing_by exact size_lt_of_mem_parts hpart

/-! ## Scans -/

/-- The work of a scan is whole exactly if nothing in it lies below the limit. -/
lemma scanWork_truncated_eq_false_iff {found : Scan} {work : List (PropertyValue × Nat)} :
    (scanWork limit found work).truncated = false ↔
      found.truncated = false ∧ ∀ task ∈ work, task.2 + task.1.nesting ≤ limit := by
  fun_induction scanWork limit found work with
  | case1 found => simp
  | case2 found value depth rest hdeep ih =>
    rw [ih, List.forall_mem_cons]
    constructor
    · rintro ⟨⟨⟩, -⟩
    · rintro ⟨-, hle, -⟩
      omega
  | case3 found value depth rest hdeep ih =>
    have hparts : (∀ part ∈ value.parts.2, depth + 1 + part.nesting ≤ limit) ↔
        depth + value.nesting ≤ limit := by
      have hnesting : value.nesting ≤ limit - depth ↔ _ := nesting_le_iff
      rw [show depth + value.nesting ≤ limit ↔ value.nesting ≤ limit - depth by omega, hnesting]
      exact forall₂_congr fun part _ => by omega
    rw [ih, List.forall_mem_append, List.forall_mem_map, List.forall_mem_cons, hparts]

/-- The work of a scan yields what lies within the limit, counted from where the work starts. -/
lemma mem_scanWork_iff {found : Scan} {work : List (PropertyValue × Nat)} :
    r ∈ (scanWork limit found work).references ↔ r ∈ found.references ∨
      ∃ task ∈ work, task.2 ≤ limit ∧ task.1.MentionsWithin (limit - task.2) r := by
  fun_induction scanWork limit found work with
  | case1 found => simp
  | case2 found value depth rest hdeep ih =>
    have hskipped : ¬ depth ≤ limit := Nat.not_le.mpr hdeep
    rw [ih]
    simp only [List.mem_cons, or_and_right, exists_or, exists_eq_left, hskipped, false_and,
      false_or]
  | case3 found value depth rest hdeep ih =>
    have hvisited : depth ≤ limit := Nat.not_lt.mp hdeep
    -- The parts lie one level deeper, so the limit leaves one level less for each of them.
    have hparts : value.MentionsWithin (limit - depth) r ↔ r ∈ value.parts.1 ∨
        ∃ part ∈ value.parts.2,
          depth + 1 ≤ limit ∧ part.MentionsWithin (limit - (depth + 1)) r := by
      rw [mentionsWithin_iff, Nat.sub_sub, Nat.sub_pos_iff_lt]
      rfl
    rw [ih]
    simp only [List.mem_append, List.mem_map, List.mem_cons, or_and_right, exists_or,
      exists_exists_and_eq_and, exists_eq_left, hvisited, true_and, hparts, or_assoc]

/-- A scan finds exactly what lies within its limit. -/
lemma mem_scan_iff_within : r ∈ (scan limit v).references ↔ v.MentionsWithin limit r := by
  simp [scan, mem_scanWork_iff]

/-- Nothing is scanned that does not occur. -/
lemma mentions_of_mem_scan (h : r ∈ (scan limit v).references) : v.Mentions r :=
  (mem_scan_iff_within.mp h).mentions

/-- A scan is whole exactly if the limit is at least the nesting of the value. -/
lemma scan_truncated_eq_false_iff : (scan limit v).truncated = false ↔ v.nesting ≤ limit := by
  simp [scan, scanWork_truncated_eq_false_iff]

/-- A whole scan has all that occurs. -/
lemma mem_scan_iff (h : v.nesting ≤ limit) : r ∈ (scan limit v).references ↔ v.Mentions r :=
  ⟨mentions_of_mem_scan, fun hmentions => mem_scan_iff_within.mpr (hmentions.within h)⟩

end PropertyValue

end CloudTemplate
