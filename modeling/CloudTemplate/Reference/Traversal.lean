import CloudTemplate.Reference.Scan

/-!
# References by recursion

The references of a value, read off the value by plain recursion from left to right: a list item by
item, a map value by value, each one level deeper.  A value deeper than the limit contributes
nothing and marks the traversal as truncated.  Where `scan` keeps a list of work, `traverse` spells
out the order in which references stand and the level of each part, case by case.

The levels of an `Fn::Sub` are particular.  Its text, and the list that holds the text and the map
of variables, do not count as levels of their own; the variables do lie one level below the map that
holds the `Fn::Sub`.  Any other argument is a value like those of a plain map, and of a list of two
the items are taken as such values.
-/

namespace CloudTemplate

namespace Scan

/-- The scan of a value in which nothing is found. -/
def nothing : Scan := ⟨[], false⟩

/-- The scan of a value that is too deep to be visited. -/
def tooDeep : Scan := ⟨[], true⟩

/-- The scan of a value in which some references are found, and no part is too deep. -/
def found (references : List Reference) : Scan := ⟨references, false⟩

/-- The scans of two values, one after the other. -/
def append (a b : Scan) : Scan := ⟨a.references ++ b.references, a.truncated || b.truncated⟩

instance : Append Scan := ⟨append⟩

end Scan

namespace PropertyValue

mutual

/-- The references in a value at some depth. -/
def traverse (limit depth : Nat) (v : PropertyValue) : Scan :=
  if limit < depth then .tooDeep
  else match v with
    | .ref target => .found [.ref target]
    | .getAtt target name => .found [.getAtt target name]
    | .list items => traverseItems limit (depth + 1) items
    | .map [(key, argument)] =>
      if key = subKey then traverseSub limit (depth + 1) argument
      else traverse limit (depth + 1) argument
    | .map entries => traverseEntries limit (depth + 1) entries
    | _ => .nothing
termination_by 2 * v.size
decreasing_by all_goals simp only [size, sizeEntries]; omega

/-- The references in the argument of an `Fn::Sub`, whose values lie at some depth. -/
def traverseSub (limit depth : Nat) (argument : PropertyValue) : Scan :=
  match argument with
  | .string text => .found (subReferences text [])
  | .list [.string text, .map bindings] =>
    .found (subReferences text (Entries.keys bindings)) ++ traverseEntries limit depth bindings
  | .list [first, second] => traverse limit depth first ++ traverse limit depth second
  | other => traverse limit depth other
termination_by 2 * argument.size + 1
decreasing_by
  · simp only [size, sizeItems]; omega
  · simp only [size, sizeItems]; omega
  · simp only [size, sizeItems]; omega
  · omega

/-- The references in values that lie at some depth. -/
def traverseItems (limit depth : Nat) (items : List PropertyValue) : Scan :=
  match items with
  | [] => .nothing
  | item :: more => traverse limit depth item ++ traverseItems limit depth more
termination_by 2 * sizeItems items + 1
decreasing_by
  all_goals
    have := size_pos item
    simp only [sizeItems]
    omega

/-- The references in the values of entries that lie at some depth. -/
def traverseEntries (limit depth : Nat) (entries : List (String × PropertyValue)) : Scan :=
  match entries with
  | [] => .nothing
  | (_, value) :: more => traverse limit depth value ++ traverseEntries limit depth more
termination_by 2 * sizeEntries entries + 1
decreasing_by
  all_goals
    have := size_pos value
    simp only [sizeEntries]
    omega

end

end PropertyValue

end CloudTemplate
