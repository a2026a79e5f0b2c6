import ImportLint.Import.Kind

/-!
# Import records

One import as an extractor reports it, and the edge it stands for. A record counts as resolved if it says so,
names a target and is not of kind `unresolvable`; its edge then leads to the target module. Otherwise its
edge leads nowhere and is told apart by the specifier.
-/

namespace ImportLint

/-- One import as it is reported. -/
structure Record where
  /-- The importing module. -/
  source : String
  /-- The imported module, if one was found. -/
  to? : Option String
  /-- The import as written in the importing module. -/
  specifier? : Option String
  kind? : Option Kind
  /-- Whether the target was found. -/
  resolved : Bool
  deriving DecidableEq, Repr

/-- Where an edge leads. -/
inductive Target
  | module (id : String)
  /-- Nowhere; the specifier stands for the target. -/
  | unresolved (specifier : String)
  deriving DecidableEq, Repr, Hashable

namespace Target

/-- The module that an edge leads to. -/
def module? : Target → Option String
  | module id => some id
  | unresolved _ => none

/-- How a target is shown: by the id of its module or by its specifier. -/
def label : Target → String
  | module id => id
  | unresolved s => s

end Target

/-- An import in a graph. -/
structure Edge where
  source : String
  target : Target
  kind : Kind
  specifier : String
  deriving DecidableEq, Repr

namespace Edge

/-- What tells edges apart: source and target. -/
def key (e : Edge) : String × Target := (e.source, e.target)

/-- Whether the edge connects two modules of the analysed tree. -/
def isInternal (e : Edge) : Bool :=
  e.kind == .internal && e.target.module?.isSome

end Edge

namespace Record

/-- A resolved import of a module. -/
def resolvedTo (source target : String) (kind : Kind) : Record :=
  { source := source, to? := some target, specifier? := none, kind? := some kind, resolved := true }

/-- An import that could not be resolved. -/
def unresolved (source specifier : String) : Record :=
  { source := source, to? := none, specifier? := some specifier, kind? := none, resolved := false }

/-- The specifier, for which the target stands in where it is left out. -/
def specifier (r : Record) : String :=
  (r.specifier?.or r.to?).getD ""

/-- The module that the record is resolved to. -/
def resolvedModule? (r : Record) : Option String :=
  r.to?.filter fun t => r.resolved && t != "" && r.kind? != some .unresolvable

/-- Where the edge of the record leads. -/
def target (r : Record) : Target :=
  match r.resolvedModule? with
  | some id => .module id
  | none => .unresolved r.specifier

/-- The kind of the edge: as reported, or internal if nothing is reported, for a resolved record;
unresolvable for any other. -/
def kind (r : Record) : Kind :=
  match r.resolvedModule? with
  | some _ => r.kind?.getD .internal
  | none => .unresolvable

/-- The edge of the record. -/
def edge (r : Record) : Edge :=
  { source := r.source, target := r.target, kind := r.kind, specifier := r.specifier }

end Record

end ImportLint
