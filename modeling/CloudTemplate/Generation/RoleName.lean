/-!
# Names for generated roles

A function without a role of its own gets a generated one.  Its name is that of the function with
`Role` behind it, and with a number from two upwards if that name is in use.

The search strikes each name that it finds in use from the list of names, which therefore gets
shorter with every candidate.  The candidates are distinct, so that striking one does not free
another, and the search ends after at most one candidate more than there are names in use.
-/

namespace CloudTemplate

/-- The names that a generated role may have, in the order in which they are tried; the row begins
at one. -/
def roleCandidate (id : String) (n : Nat) : String :=
  if n ≤ 1 then id ++ "Role" else id ++ "Role" ++ toString n

/-- The first candidate from the `n`-th on that is not in use. -/
def firstFreeRole (used : List String) (id : String) (n : Nat) : String :=
  if roleCandidate id n ∈ used then
    firstFreeRole (used.erase (roleCandidate id n)) id (n + 1)
  else roleCandidate id n
termination_by used.length
decreasing_by
  next taken =>
    have := List.length_pos_of_mem taken
    rw [List.length_erase_of_mem taken]
    omega

/-- The name of a generated role, given the names in use. -/
def freeRoleId (used : List String) (id : String) : String := firstFreeRole used id 1

end CloudTemplate
