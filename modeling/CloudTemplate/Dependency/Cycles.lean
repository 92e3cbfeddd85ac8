import CloudTemplate.Dependency.Graph

/-!
# Circles of dependencies

Circles are found by a depth-first search.  The search is a machine: its state holds the path from a
root to the vertex it stands at, each with the targets that are still to be followed, the vertices
that are finished, and the circles found so far.  A step follows one edge, leaves a finished vertex,
or takes up the next root.

An edge back into the path closes a circle, which is reported unless a rotation of it has been.  A
path may not grow beyond a limit, however; where an edge would lead further the search passes it
over and says that it was cut short.

Each vertex is entered and left at most once and each edge is followed at most once, so the number
of steps is bounded by the size of the graph (`CycleSearch.budget`).
-/

namespace CloudTemplate

/-- The state of the search. -/
structure CycleSearch where
  /-- The vertices from which the search still has to start. -/
  roots : List String
  /-- The path, the latest vertex first, each with the targets that are still to be followed. -/
  path : List (String × List String)
  /-- The vertices that have been left, the latest first. -/
  finished : List String
  /-- The circles, in the order in which they were found.  Each is listed from the vertex to which
  the closing edge leads, without naming that vertex again. -/
  circles : List (List String)
  /-- Whether an edge was passed over for the length of the path. -/
  truncated : Bool
deriving DecidableEq

/-- The least name of a list. -/
def leastName : List String → Option String
  | [] => none
  | name :: rest =>
    match leastName rest with
    | none => some name
    | some least => some (if least < name then least else name)

/-- A circle told from its least name.  Rotations of one circle are told alike. -/
def fromLeast (circle : List String) : List String :=
  match leastName circle with
  | none => []
  | some least => circle.dropWhile (· != least) ++ circle.takeWhile (· != least)

namespace CycleSearch

/-- The search before its first step. -/
def start (g : DependencyGraph) : CycleSearch := ⟨g.keys, [], [], [], false⟩

/-- The vertices of the path, from the root on. -/
def pathIds (s : CycleSearch) : List String := (s.path.map Prod.fst).reverse

/-- Adds a circle unless a rotation of it is there. -/
def addCircle (circles : List (List String)) (circle : List String) : List (List String) :=
  if (circles.map fromLeast).contains (fromLeast circle) then circles else circles ++ [circle]

/-- Follows an edge from the vertex at which the search stands; `s` no longer has the edge among
those still to be followed. -/
def follow (g : DependencyGraph) (limit : Nat) (s : CycleSearch) (next : String) : CycleSearch :=
  if s.pathIds.contains next then
    { s with circles := addCircle s.circles (s.pathIds.dropWhile (· != next)) }
  else if s.finished.contains next then s
  else if limit ≤ s.path.length then { s with truncated := true }
  else { s with path := (next, g.targets next) :: s.path }

/-- One step; a search that has come to its end stays there. -/
def step (g : DependencyGraph) (limit : Nat) (s : CycleSearch) : CycleSearch :=
  match s.path with
  | (id, next :: more) :: below => follow g limit { s with path := (id, more) :: below } next
  | (id, []) :: below => { s with path := below, finished := id :: s.finished }
  | [] =>
    match s.roots with
    | [] => s
    | root :: roots =>
      if s.finished.contains root then { s with roots }
      else { s with roots, path := [(root, g.targets root)] }

/-- A number of steps. -/
def run (g : DependencyGraph) (limit : Nat) : Nat → CycleSearch → CycleSearch
  | 0, s => s
  | n + 1, s => run g limit n (step g limit s)

/-- A number of steps after which every search has come to its end: a root is taken up or passed
over once, an edge is followed once, and a vertex, which is a root or the target of an edge, is left
once. -/
def budget (g : DependencyGraph) : Nat :=
  2 * (g.size + g.values.flatten.length)

end CycleSearch

/-- The circles of a graph, and whether the search for them was cut short. -/
structure Cycles where
  /-- The circles, each as a path that ends where it begins. -/
  paths : List (List String)
  truncated : Bool
deriving DecidableEq

/-- A circle as a path that ends where it begins. -/
def closedPath (circle : List String) : List String := circle ++ circle.take 1

/-- Searches a graph for circles along paths of limited length. -/
def findCycles (g : DependencyGraph) (limit : Nat) : Cycles :=
  let s := CycleSearch.run g limit (CycleSearch.budget g) (.start g)
  ⟨s.circles.map closedPath, s.truncated⟩

namespace Template

/-- The findings about circles of dependencies. -/
def cycleFindings (t : Template) (referenceLimit dependencyLimit : Nat) : List Finding :=
  let found := findCycles (t.dependencyGraph referenceLimit) dependencyLimit
  (found.paths.filterMap fun path =>
    match path with
    | [] => none
    | first :: more => some (Finding.circularDependency first more)) ++
  if found.truncated then [.dependencyDepth dependencyLimit] else []

end Template

end CloudTemplate
