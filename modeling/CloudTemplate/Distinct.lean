/-!
# Lists of distinct names

Names are collected in the order in which they are first met.
-/

namespace CloudTemplate

/-- A name put at the end of a list, unless it is there. -/
def pushNew (names : List String) (name : String) : List String :=
  if names.contains name then names else names ++ [name]

/-- Names put at the end of a list, each unless it is there. -/
def pushAllNew (names more : List String) : List String := more.foldl pushNew names

/-- The names of a list, each once, in the order of their first occurrence. -/
def distinctNames (names : List String) : List String := pushAllNew [] names

theorem mem_pushNew {names : List String} {name other : String} :
    other ∈ pushNew names name ↔ other ∈ names ∨ other = name := by
  unfold pushNew
  split
  · next present =>
    have : name ∈ names := by simpa using present
    exact ⟨.inl, fun h => h.elim id fun e => e ▸ this⟩
  · simp

theorem nodup_pushNew {names : List String} (h : names.Nodup) (name : String) :
    (pushNew names name).Nodup := by
  unfold pushNew
  split
  · exact h
  · next absent =>
    have : name ∉ names := by simpa using absent
    rw [List.nodup_append]
    refine ⟨h, by simp, fun a ha b hb => ?_⟩
    rw [List.mem_singleton] at hb
    exact fun e => this (hb ▸ e ▸ ha)

theorem mem_pushAllNew {names more : List String} {other : String} :
    other ∈ pushAllNew names more ↔ other ∈ names ∨ other ∈ more := by
  unfold pushAllNew
  induction more generalizing names with
  | nil => simp
  | cons name rest ih => simp [ih, mem_pushNew, or_assoc]

theorem nodup_pushAllNew {names : List String} (h : names.Nodup) (more : List String) :
    (pushAllNew names more).Nodup := by
  unfold pushAllNew
  induction more generalizing names with
  | nil => exact h
  | cons name rest ih => exact ih (nodup_pushNew h name)

/-- Names that are distinct from the outset are all put at the end. -/
theorem pushAllNew_eq_append {names more : List String} (h : (names ++ more).Nodup) :
    pushAllNew names more = names ++ more := by
  unfold pushAllNew
  induction more generalizing names with
  | nil => simp
  | cons name rest ih =>
    have absent : name ∉ names := by
      rw [List.nodup_append] at h
      exact fun present => h.2.2 name present name List.mem_cons_self rfl
    rw [List.append_cons] at h
    rw [List.foldl_cons, pushNew, if_neg (by simpa using absent), ih h, ← List.append_cons]

end CloudTemplate
