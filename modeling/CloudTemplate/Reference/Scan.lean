import CloudTemplate.Reference.Placeholder
import CloudTemplate.Value.Basic

/-!
# Collecting references

The references of a value are collected from left to right with a list of values still to be
visited, so that no nesting is too deep for it.  A value deeper than the limit is not visited, and
the scan is then marked as truncated.

What a value contributes is its `parts`: the references it makes itself and the values inside it,
which lie one level deeper.  A map with the one name `Fn::Sub` contributes the names of its text,
less those that its own map of variables supplies.  Every part is smaller than its value, so the
work comes to an end.
-/

namespace CloudTemplate

/-- The references found in a value, and whether some part of it was too deep to be visited. -/
structure Scan where
  references : List Reference
  truncated : Bool
deriving DecidableEq

/-- The names of an `Fn::Sub` text that are not supplied beside it. -/
def subReferences (text : String) (supplied : List String) : List Reference :=
  ((subVariables text).filter fun name => !supplied.contains name).map .sub

namespace PropertyValue

/-- What the argument of an `Fn::Sub` contributes. -/
def subParts : PropertyValue → List Reference × List PropertyValue
  | .string text => (subReferences text [], [])
  | .list [.string text, .map bindings] =>
    (subReferences text (Entries.keys bindings), Entries.values bindings)
  | .list [first, second] => ([], [first, second])
  | other => ([], [other])

/-- The references that a value makes itself, and the values inside it. -/
def parts : PropertyValue → List Reference × List PropertyValue
  | .ref target => ([.ref target], [])
  | .getAtt target name => ([.getAtt target name], [])
  | .list items => ([], items)
  | .map entries =>
    match entries with
    | [(key, argument)] => if key = subKey then subParts argument else ([], [argument])
    | _ => ([], Entries.values entries)
  | _ => ([], [])

/-! ## Size -/

mutual

/-- The number of values in a value, itself included. -/
def size : PropertyValue → Nat
  | .list items => 1 + sizeItems items
  | .map entries => 1 + sizeEntries entries
  | _ => 1

/-- The number of values in a list of values. -/
def sizeItems : List PropertyValue → Nat
  | [] => 0
  | item :: more => item.size + sizeItems more

/-- The number of values in a list of entries. -/
def sizeEntries : List (String × PropertyValue) → Nat
  | [] => 0
  | (_, value) :: more => value.size + sizeEntries more

end

theorem size_pos (v : PropertyValue) : 0 < v.size := by
  cases v <;> simp only [size] <;> omega

theorem sizeItems_append (as bs : List PropertyValue) :
    sizeItems (as ++ bs) = sizeItems as + sizeItems bs := by
  induction as with
  | nil => simp [sizeItems]
  | cons a as ih => simp only [List.cons_append, sizeItems, ih]; omega

theorem sizeItems_values (entries : List (String × PropertyValue)) :
    sizeItems (Entries.values entries) = sizeEntries entries := by
  induction entries with
  | nil => rfl
  | cons entry rest ih =>
    simp only [Entries.values] at ih
    simp [Entries.values, sizeItems, sizeEntries, ih]

theorem sizeItems_subParts_le (v : PropertyValue) : sizeItems v.subParts.2 ≤ v.size := by
  unfold subParts
  split
  · exact Nat.zero_le _
  · simp only [sizeItems_values, size, sizeItems]; omega
  · simp only [size, sizeItems]; omega
  · simp only [sizeItems]; omega

theorem sizeItems_parts_lt (v : PropertyValue) : sizeItems v.parts.2 < v.size := by
  unfold parts
  split
  · simp [size, sizeItems]
  · simp [size, sizeItems]
  · simp only [size]; omega
  · split
    · next key argument =>
      split
      · have := sizeItems_subParts_le argument
        simp only [size, sizeEntries]; omega
      · simp only [size, sizeEntries, sizeItems]; omega
    · simp only [sizeItems_values, size]; omega
  · have := size_pos v
    simpa [sizeItems] using this

end PropertyValue

/-! ## The scan -/

/-- Visits the values of a list of work, each with its depth, behind what has been found. -/
def scanWork (limit : Nat) (found : Scan) (work : List (PropertyValue × Nat)) : Scan :=
  match work with
  | [] => found
  | (value, depth) :: rest =>
    if limit < depth then scanWork limit ⟨found.references, true⟩ rest
    else
      scanWork limit ⟨found.references ++ value.parts.1, found.truncated⟩
        (value.parts.2.map (fun part => (part, depth + 1)) ++ rest)
termination_by PropertyValue.sizeItems (work.map Prod.fst)
decreasing_by
  · have := value.size_pos
    simp only [List.map_cons, PropertyValue.sizeItems]
    omega
  · have := value.sizeItems_parts_lt
    simp only [List.map_append, List.map_map, Function.comp_def, List.map_id',
      PropertyValue.sizeItems_append, List.map_cons, PropertyValue.sizeItems]
    omega

/-- All references inside a value, down to the limit. -/
def scan (limit : Nat) (value : PropertyValue) : Scan := scanWork limit ⟨[], false⟩ [(value, 0)]

end CloudTemplate
