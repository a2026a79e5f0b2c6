import ImportLint.Document.Shape

/-!
# Configurations as written

The entries of a configuration before anything about them is checked: names, patterns and severities are plain
texts. Every entry is strict, so an unknown key is a fault of the document.
-/

namespace ImportLint

open Document (Reader Shape)

/-- What a rule asks of the importing module. -/
structure SourceEntry where
  path? : Option String
  pathNot? : Option String
  orphan? : Option Bool
  deriving DecidableEq, Repr

/-- What a rule asks of an edge. -/
structure TargetEntry where
  path? : Option String
  pathNot? : Option String
  circular? : Option Bool
  unresolvable? : Option Bool
  kinds : List String
  deriving DecidableEq, Repr

/-- A rule. -/
structure RuleEntry where
  name : String
  severity : String
  comment? : Option String
  source : SourceEntry
  target : TargetEntry
  deriving DecidableEq, Repr

/-- A pattern for the modules of an element. -/
structure ElementEntry where
  element : String
  pattern : String
  deriving DecidableEq, Repr

/-- A relation between elements. -/
structure RelationEntry where
  source : String
  targets : List String
  deriving DecidableEq, Repr

/-- A boundary policy. -/
structure BoundariesEntry where
  default : String
  severity : String
  noUnknown : Bool
  noIgnored : Bool
  ignore : List String
  allow : List RelationEntry
  disallow : List RelationEntry
  deriving DecidableEq, Repr

/-- Switches of the run. -/
structure OptionsEntry where
  parallel : Bool
  deriving DecidableEq, Repr

/-- A configuration. -/
structure Config where
  preset? : Option String
  options : OptionsEntry
  elements : List ElementEntry
  boundaries? : Option BoundariesEntry
  rules : List RuleEntry
  deriving DecidableEq, Repr

namespace SourceEntry

def blank : SourceEntry := { path? := none, pathNot? := none, orphan? := none }

def shape : Shape SourceEntry where
  name := "FromDto"
  fields :=
    [.want "path" (Reader.optional Reader.text) fun p e => { e with path? := p },
     .orNamed (.want "path_not" (Reader.optional Reader.text) fun p e => { e with pathNot? := p }) "pathNot",
     .want "orphan" (Reader.optional Reader.flag) fun b e => { e with orphan? := b }]
  blank := blank
  strict := true

end SourceEntry

namespace TargetEntry

def blank : TargetEntry :=
  { path? := none, pathNot? := none, circular? := none, unresolvable? := none, kinds := [] }

def shape : Shape TargetEntry where
  name := "ToDto"
  fields :=
    [.want "path" (Reader.optional Reader.text) fun p e => { e with path? := p },
     .orNamed (.want "path_not" (Reader.optional Reader.text) fun p e => { e with pathNot? := p }) "pathNot",
     .want "circular" (Reader.optional Reader.flag) fun b e => { e with circular? := b },
     .orNamed (.want "could_not_resolve" (Reader.optional Reader.flag)
       fun b e => { e with unresolvable? := b }) "couldNotResolve",
     .orNamed (.want "dependency_types" (Reader.list Reader.text)
       fun ks e => { e with kinds := ks }) "dependencyTypes"]
  blank := blank
  strict := true

end TargetEntry

namespace RuleEntry

def shape : Shape RuleEntry where
  name := "ForbiddenDto"
  fields :=
    [.need "name" Reader.text fun s e => { e with name := s },
     .want "severity" Reader.text fun s e => { e with severity := s },
     .want "comment" (Reader.optional Reader.text) fun c e => { e with comment? := c },
     .want "from" SourceEntry.shape.reader fun x e => { e with source := x },
     .want "to" TargetEntry.shape.reader fun x e => { e with target := x }]
  blank := { name := "", severity := "error", comment? := none, source := .blank, target := .blank }
  strict := true

end RuleEntry

namespace ElementEntry

def shape : Shape ElementEntry where
  name := "ElementDto"
  fields :=
    [.need "type" Reader.text fun s e => { e with element := s },
     .need "pattern" Reader.text fun s e => { e with pattern := s }]
  blank := { element := "", pattern := "" }
  strict := true

end ElementEntry

namespace RelationEntry

def shape : Shape RelationEntry where
  name := "RelationDto"
  fields :=
    [.need "from" Reader.text fun s e => { e with source := s },
     .need "to" (Reader.list Reader.text) fun ts e => { e with targets := ts }]
  blank := { source := "", targets := [] }
  strict := true

end RelationEntry

namespace BoundariesEntry

def shape : Shape BoundariesEntry where
  name := "BoundariesDto"
  fields :=
    [.want "default" Reader.text fun s e => { e with default := s },
     .want "severity" Reader.text fun s e => { e with severity := s },
     .orNamed (.want "no_unknown" Reader.flag fun b e => { e with noUnknown := b }) "no-unknown",
     .orNamed (.want "no_ignored" Reader.flag fun b e => { e with noIgnored := b }) "no-ignored",
     .want "ignore" (Reader.list Reader.text) fun gs e => { e with ignore := gs },
     .want "allow" (Reader.list RelationEntry.shape.reader) fun rs e => { e with allow := rs },
     .want "disallow" (Reader.list RelationEntry.shape.reader) fun rs e => { e with disallow := rs }]
  blank :=
    { default := "allow", severity := "error", noUnknown := false, noIgnored := false, ignore := [],
      allow := [], disallow := [] }
  strict := true

end BoundariesEntry

namespace OptionsEntry

def shape : Shape OptionsEntry where
  name := "OptionsDto"
  fields := [.want "parallel" Reader.flag fun b e => { e with parallel := b }]
  blank := { parallel := false }
  strict := true

end OptionsEntry

namespace Config

/-- The configuration without entries. -/
def blank : Config :=
  { preset? := none, options := { parallel := false }, elements := [], boundaries? := none, rules := [] }

def shape : Shape Config where
  name := "ConfigDto"
  fields :=
    [.want "preset" (Reader.optional Reader.text) fun p c => { c with preset? := p },
     .want "options" OptionsEntry.shape.reader fun o c => { c with options := o },
     .want "elements" (Reader.list ElementEntry.shape.reader) fun es c => { c with elements := es },
     .want "boundaries" (Reader.optional BoundariesEntry.shape.reader)
       fun b c => { c with boundaries? := b },
     .want "forbidden" (Reader.list RuleEntry.shape.reader) fun rs c => { c with rules := rs }]
  blank := blank
  strict := true

end Config

end ImportLint
