import CloudTemplate.Reference.Traversal
import Mathlib.Tactic.Common

/-!
# The work of a scan, taken apart

A scan goes through a list of work and carries what it has found with it.  The lemmas here cut both
loose: what was found before stands before what the work yields (`scanWork_eq_append`), and each
part of the work yields its own (`scanWork_append`).  So a scan is told by its values one at a time,
each at its depth (`scanAt`).
-/

namespace CloudTemplate

namespace Scan

lemma nothing_append (a : Scan) : nothing ++ a = a := by
  show append nothing a = a
  simp [append, nothing]

lemma append_nothing (a : Scan) : a ++ nothing = a := by
  show append a nothing = a
  simp [append, nothing]

lemma append_assoc (a b c : Scan) : a ++ b ++ c = a ++ (b ++ c) := by
  show append (append a b) c = append a (append b c)
  simp [append, Bool.or_assoc]

lemma references_append (a b : Scan) : (a ++ b).references = a.references ++ b.references := rfl

end Scan

variable {limit depth : Nat} {found : Scan} {value : PropertyValue}
  {rest : List (PropertyValue × Nat)}

lemma scanWork_cons_of_lt (h : limit < depth) :
    scanWork limit found ((value, depth) :: rest) = scanWork limit (found ++ .tooDeep) rest := by
  rw [scanWork, if_pos h]
  congr 1
  show _ = found.append .tooDeep
  simp [Scan.append, Scan.tooDeep]

lemma scanWork_cons_of_le (h : depth ≤ limit) :
    scanWork limit found ((value, depth) :: rest) =
      scanWork limit (found ++ .found value.parts.1)
        (value.parts.2.map (fun part => (part, depth + 1)) ++ rest) := by
  rw [scanWork, if_neg (Nat.not_lt.mpr h)]
  congr 1
  show _ = found.append (.found value.parts.1)
  simp [Scan.append, Scan.found]

/-- What was found before stands before what the work yields. -/
lemma scanWork_eq_append (limit : Nat) (found : Scan) (work : List (PropertyValue × Nat)) :
    scanWork limit found work = found ++ scanWork limit .nothing work := by
  -- The induction is on the work; what has been found grows along it and must stay arbitrary.
  refine scanWork.induct limit
    (fun _ work => ∀ found, scanWork limit found work = found ++ scanWork limit .nothing work)
    ?_ ?_ ?_ .nothing work found
  · intro _ found
    rw [scanWork, scanWork, Scan.append_nothing]
  · intro _ value depth rest hdeep ih found
    rw [scanWork_cons_of_lt hdeep, scanWork_cons_of_lt hdeep, ih (found ++ .tooDeep),
      ih (.nothing ++ .tooDeep), Scan.nothing_append, Scan.append_assoc]
  · intro _ value depth rest hdeep ih found
    have hle : depth ≤ limit := Nat.not_lt.mp hdeep
    rw [scanWork_cons_of_le hle, scanWork_cons_of_le hle, ih (found ++ .found value.parts.1),
      ih (.nothing ++ .found value.parts.1), Scan.nothing_append, Scan.append_assoc]

lemma scanWork_append (limit : Nat) (work more : List (PropertyValue × Nat)) :
    scanWork limit .nothing (work ++ more) =
      scanWork limit .nothing work ++ scanWork limit .nothing more := by
  refine scanWork.induct limit
    (fun _ work => scanWork limit .nothing (work ++ more) =
      scanWork limit .nothing work ++ scanWork limit .nothing more)
    ?_ ?_ ?_ .nothing work
  · intro _
    rw [List.nil_append, scanWork.eq_1, Scan.nothing_append]
  · intro _ value depth rest hdeep ih
    rw [List.cons_append, scanWork_cons_of_lt hdeep, scanWork_cons_of_lt hdeep,
      scanWork_eq_append, ih, scanWork_eq_append limit (.nothing ++ .tooDeep) rest]
    simp only [Scan.append_assoc]
  · intro _ value depth rest hdeep ih
    have hle : depth ≤ limit := Nat.not_lt.mp hdeep
    rw [List.cons_append, scanWork_cons_of_le hle, scanWork_cons_of_le hle,
      scanWork_eq_append, ← List.append_assoc, ih,
      scanWork_eq_append limit (.nothing ++ .found value.parts.1)]
    simp only [Scan.append_assoc]

/-- The scan of one value that lies at some depth. -/
def scanAt (limit depth : Nat) (value : PropertyValue) : Scan :=
  scanWork limit .nothing [(value, depth)]

lemma scanAt_of_lt (h : limit < depth) (value : PropertyValue) :
    scanAt limit depth value = .tooDeep := by
  rw [scanAt, scanWork_cons_of_lt h, scanWork, Scan.nothing_append]

lemma scanAt_of_le (h : depth ≤ limit) (value : PropertyValue) :
    scanAt limit depth value = .found value.parts.1 ++
      scanWork limit .nothing (value.parts.2.map fun part => (part, depth + 1)) := by
  rw [scanAt, scanWork_cons_of_le h, scanWork_eq_append, Scan.nothing_append, List.append_nil]

/-- Of work that lies at one depth, the first value yields its own and the others the rest. -/
lemma scanWork_map_cons (limit depth : Nat) (part : PropertyValue) (more : List PropertyValue) :
    scanWork limit .nothing ((part :: more).map fun part => (part, depth)) =
      scanAt limit depth part ++ scanWork limit .nothing (more.map fun part => (part, depth)) :=
  scanWork_append limit [(part, depth)] _

/-- The values of a list of work at one depth yield what each of them yields. -/
lemma references_scanWork_map (limit depth : Nat) (parts : List PropertyValue) :
    (scanWork limit .nothing (parts.map fun part => (part, depth))).references =
      parts.flatMap fun part => (scanAt limit depth part).references := by
  induction parts with
  | nil => rw [List.map_nil, scanWork]; rfl
  | cons part more ih =>
    rw [scanWork_map_cons, Scan.references_append, ih, List.flatMap_cons]

end CloudTemplate
