/-!
# Kinds of imports

What an import reaches: a module of the analysed tree, a package in one of several standings, a builtin of
the platform, or nothing that could be found. `Kind.rank` orders the kinds by how much they say about a
target; when one import is reported with two kinds, the higher one is kept.
-/

namespace ImportLint

/-- What an import reaches. -/
inductive Kind
  /-- A module of the analysed tree. -/
  | internal
  /-- A package needed at run time. -/
  | npm
  /-- A package needed for development only. -/
  | npmDev
  /-- A package marked deprecated. -/
  | deprecated
  /-- A builtin of the platform. -/
  | core
  /-- Nothing: the import could not be resolved. -/
  | unresolvable
  deriving DecidableEq, Repr, Hashable

namespace Kind

/-- Every kind, in the order in which they are listed. -/
def all : List Kind := [internal, npm, npmDev, deprecated, core, unresolvable]

/-- The name of a kind. -/
def name : Kind → String
  | internal => "internal"
  | npm => "npm"
  | npmDev => "npm-dev"
  | deprecated => "deprecated"
  | core => "core"
  | unresolvable => "unresolvable"

/-- The kind with a name or a second name. -/
def ofName? : String → Option Kind
  | "internal" | "local" => some internal
  | "npm" | "npm-runtime" => some npm
  | "npm-dev" => some npmDev
  | "deprecated" | "npm-deprecated" => some deprecated
  | "core" | "builtin" => some core
  | "unresolvable" => some unresolvable
  | _ => none

/-- Every name that a document may use, second names included. -/
def spellings : List String :=
  ["internal", "local", "npm", "npm-runtime", "npm-dev", "deprecated", "npm-deprecated", "builtin", "core",
    "unresolvable"]

/-- How much a kind says about its target. -/
def rank : Kind → Nat
  | npm => 0
  | internal => 1
  | core => 2
  | npmDev => 3
  | deprecated => 4
  | unresolvable => 5

/-- The message for a name that is no kind. -/
def unknownMessage (name : String) : String :=
  "unknown dependency type `" ++ name ++
    "`, expected one of: internal, npm, npm-dev, deprecated, core, unresolvable"

@[simp] theorem ofName?_name (k : Kind) : ofName? k.name = some k := by
  cases k <;> rfl

theorem rank_injective {a b : Kind} (h : a.rank = b.rank) : a = b := by
  cases a <;> cases b <;> simp_all [rank]

end Kind

end ImportLint
