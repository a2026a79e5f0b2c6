/-!
# Depth-first search for strongly connected components

The search goes through a directed graph whose nodes are the naturals below a bound. `Search` is its state:
the numbers that nodes got when first visited, the lowest number each is known to reach, the nodes that are
visited and not yet in a component, as a stack and as a flag for each node, and the nodes whose successors are
being looked at. `Search.step` looks at one successor or leaves a node; on leaving a node that reaches nothing
before itself, the nodes above it on the stack become a component. Components are numbered in the order in which
they are completed.
-/

namespace ImportLint.Cycle

/-- The state of the search. -/
structure Search where
  /-- The number of nodes visited so far. -/
  visited : Nat
  /-- The number each node got when it was visited. -/
  order : Array (Option Nat)
  /-- The lowest number each visited node is known to reach. -/
  low : Array Nat
  /-- The component of each node. -/
  component : Array (Option Nat)
  /-- The number of nodes in each component. -/
  sizes : Array Nat
  /-- The visited nodes that have no component yet, last visited first. -/
  stack : List Nat
  /-- Whether each node is on the stack. -/
  onStack : Array Bool
  /-- The nodes whose successors are being looked at, with the successors left, innermost first. -/
  frames : List (Nat × List Nat)

namespace Search

/-- The search before its start. -/
def start (nodes : Nat) : Search where
  visited := 0
  order := Array.replicate nodes none
  low := Array.replicate nodes 0
  component := Array.replicate nodes none
  sizes := #[]
  stack := []
  onStack := Array.replicate nodes false
  frames := []

/-- The number a node got when it was visited. -/
def order? (s : Search) (v : Nat) : Option Nat := (s.order[v]?).join

/-- The component of a node. -/
def component? (s : Search) (v : Nat) : Option Nat := (s.component[v]?).join

/-- The lowest number that a node is known to reach. -/
def lowOf (s : Search) (v : Nat) : Nat := s.low.getD v 0

/-- Whether a node is flagged as being on the stack. -/
def isOnStack (s : Search) (v : Nat) : Bool := s.onStack.getD v false

/-- Visits a node: it gets the next number and its successors are to be looked at. -/
def visit (s : Search) (v : Nat) (successors : List Nat) : Search :=
  { s with
    visited := s.visited + 1
    order := s.order.setIfInBounds v (some s.visited)
    low := s.low.setIfInBounds v s.visited
    stack := v :: s.stack
    onStack := s.onStack.setIfInBounds v true
    frames := (v, successors) :: s.frames }

/-- Notes that a node reaches a number. -/
def reach (s : Search) (v n : Nat) : Search :=
  { s with low := s.low.modify v (min n) }

/-- Makes a component of the nodes on the stack down to `v`. -/
def complete (s : Search) (v : Nat) : Search :=
  let above := s.stack.takeWhile (· != v)
  let members := v :: above
  { s with
    component := members.foldl (fun c w => c.setIfInBounds w (some s.sizes.size)) s.component
    sizes := s.sizes.push members.length
    stack := s.stack.drop members.length
    onStack := members.foldl (fun f w => f.setIfInBounds w false) s.onStack }

/-- Lets the innermost open node reach what `v` reaches. -/
def inherit (s : Search) (v : Nat) : Search :=
  match s.frames with
  | (u, _) :: _ => s.reach u (s.lowOf v)
  | [] => s

/-- Makes a component of the nodes on the stack down to `v` if `v` reaches nothing before itself. -/
def settle (s : Search) (v : Nat) : Search :=
  if s.order? v = some (s.lowOf v) then s.complete v else s

/-- Leaves a node: the node below it reaches what it reaches, and if it reaches nothing before itself it
completes a component. -/
def leave (s : Search) (v : Nat) (below : List (Nat × List Nat)) : Search :=
  (inherit { s with frames := below } v).settle v

/-- Looks at the next successor of the innermost node, or leaves the node if there is none. -/
def step (successors : Nat → List Nat) (s : Search) : Search :=
  match s.frames with
  | [] => s
  | (v, []) :: below => s.leave v below
  | (v, w :: rest) :: below =>
    let s := { s with frames := (v, rest) :: below }
    match s.order? w with
    | none => s.visit w (successors w)
    | some n => if s.isOnStack w then s.reach v n else s

/-- Goes on until no node is open, for at most `fuel` steps. -/
def explore (successors : Nat → List Nat) : Nat → Search → Search
  | 0, s => s
  | fuel + 1, s =>
    match s.frames with
    | [] => s
    | _ :: _ => explore successors fuel (s.step successors)

/-- Searches from a node, unless it has been visited. Every step looks at a successor or leaves a node, so
`fuel` is enough if it is the number of nodes and edges. -/
def searchFrom (successors : Nat → List Nat) (fuel : Nat) (s : Search) (root : Nat) : Search :=
  match s.order? root with
  | some _ => s
  | none => (s.visit root (successors root)).explore successors fuel

/-- Searches from every node in turn. -/
def run (nodes : Nat) (successors : Nat → List Nat) : Search :=
  let fuel := nodes + (List.range nodes).foldl (fun n v => n + (successors v).length) 0
  (List.range nodes).foldl (searchFrom successors fuel) (start nodes)

end Search

end ImportLint.Cycle
