import ImportLint.Config.Load
import ImportLint.Proofs.Document.Record
import Mathlib

/-!
# Misspelt keys

A configuration is made of tables of eight kinds, each with its own keys (`Config.Part.keys`). `Config.StandsFor` tells
which tables of a document stand for which part. A configuration is only read if every one of them can be read
(`Config.StandsFor.readable`), and none of them can if it has a key that is not its own. So a misspelt key is never
passed over, whatever its value is and wherever it stands (`RuleSet.parse_misspelt`).
-/

namespace ImportLint

open Document (Key Reader Shape Stop Tree)

namespace Config

/-- The parts that a configuration is made of. -/
inductive Part
  | whole
  | options
  | element
  | boundaries
  | relation
  | rule
  | source
  | target
  deriving DecidableEq, Repr

namespace Part

/-- The keys that a table may have, with every spelling. -/
def keys : Part → List String
  | whole => ["preset", "options", "elements", "boundaries", "forbidden"]
  | options => ["parallel"]
  | element => ["type", "pattern"]
  | boundaries =>
    ["default", "severity", "no_unknown", "no-unknown", "no_ignored", "no-ignored", "ignore", "allow", "disallow"]
  | relation => ["from", "to"]
  | rule => ["name", "severity", "comment", "from", "to"]
  | source => ["path", "path_not", "pathNot", "orphan"]
  | target =>
    ["path", "path_not", "pathNot", "circular", "could_not_resolve", "couldNotResolve", "dependency_types",
      "dependencyTypes"]

/-- Whether a document can be read as a part. The boundaries may be absent. -/
def Readable (t : Tree) : Part → Prop
  | whole => ∃ c, Config.shape.reader t = .ok c
  | options => ∃ o, OptionsEntry.shape.reader t = .ok o
  | element => ∃ e, ElementEntry.shape.reader t = .ok e
  | boundaries => ∃ b?, Reader.optional BoundariesEntry.shape.reader t = .ok b?
  | relation => ∃ r, RelationEntry.shape.reader t = .ok r
  | rule => ∃ r, RuleEntry.shape.reader t = .ok r
  | source => ∃ f, SourceEntry.shape.reader t = .ok f
  | target => ∃ f, TargetEntry.shape.reader t = .ok f

end Part

/-- A document `u` stands for a part of the configuration `t`. -/
inductive StandsFor (t : Tree) : Part → Tree → Prop
  | whole : StandsFor t .whole t
  | options {u : Tree} (hu : shape.Gives t "options" u) : StandsFor t .options u
  | element {items : List Tree} {stop : Stop} {u : Tree} (hitems : shape.Gives t "elements" (.list items stop))
      (hu : u ∈ items) : StandsFor t .element u
  | boundaries {u : Tree} (hu : shape.Gives t "boundaries" u) : StandsFor t .boundaries u
  | allowed {items : List Tree} {stop : Stop} {b u : Tree} (hb : StandsFor t .boundaries b)
      (hitems : BoundariesEntry.shape.Gives b "allow" (.list items stop)) (hu : u ∈ items) : StandsFor t .relation u
  | disallowed {items : List Tree} {stop : Stop} {b u : Tree} (hb : StandsFor t .boundaries b)
      (hitems : BoundariesEntry.shape.Gives b "disallow" (.list items stop)) (hu : u ∈ items) : StandsFor t .relation u
  | rule {items : List Tree} {stop : Stop} {u : Tree} (hitems : shape.Gives t "forbidden" (.list items stop))
      (hu : u ∈ items) : StandsFor t .rule u
  | source {r u : Tree} (hr : StandsFor t .rule r) (hu : RuleEntry.shape.Gives r "from" u) : StandsFor t .source u
  | target {r u : Tree} (hr : StandsFor t .rule r) (hu : RuleEntry.shape.Gives r "to" u) : StandsFor t .target u

/-! ## Reading every part -/

theorem shape_names : (shape.fields.map Document.Field.name).Nodup := by decide

theorem boundaries_names : (BoundariesEntry.shape.fields.map Document.Field.name).Nodup := by decide

theorem rule_names : (RuleEntry.shape.fields.map Document.Field.name).Nodup := by decide

/-- A list that has been read has read each of its items. -/
theorem read_of_mem {α : Type} {r : Reader α} {items : List Tree} {stop : Stop} {as : List α}
    (h : Reader.list r (.list items stop) = .ok as) {u : Tree} (hu : u ∈ items) : ∃ a, r u = .ok a := by
  obtain ⟨bs, hbs, -⟩ := bind_eq_ok_iff.mp h
  obtain ⟨before, behind, rfl⟩ := List.append_of_mem hu
  obtain ⟨_, b, _, -, -, hb, -⟩ := forall₂_split (mapM_eq_ok_iff.mp hbs)
  exact ⟨b, hb⟩

/-- Boundaries in which a field is given are not absent. -/
theorem read_boundaries_of_gives {b u : Tree} {name : String} {b? : Option BoundariesEntry}
    (h : Reader.optional BoundariesEntry.shape.reader b = .ok b?) (hu : BoundariesEntry.shape.Gives b name u) :
    ∃ e, BoundariesEntry.shape.reader b = .ok e := by
  cases hu <;>
  · obtain ⟨e, he, -⟩ := map_eq_ok_iff.mp h
    exact ⟨e, he⟩

/-- A configuration that has been read has read each of its parts. -/
theorem StandsFor.readable {t u : Tree} {p : Part} (h : StandsFor t p u) {c : Config} (hc : shape.reader t = .ok c) :
    p.Readable u := by
  induction h with
  | whole => exact ⟨c, hc⟩
  | options hu => exact Shape.value_of_gives shape_names (i := 1) rfl rfl hu hc
  | element hitems hu =>
    obtain ⟨es, hes⟩ := Shape.value_of_gives shape_names (i := 2) rfl rfl hitems hc
    exact read_of_mem hes hu
  | boundaries hu => exact Shape.value_of_gives shape_names (i := 3) rfl rfl hu hc
  | allowed _ hitems hu ih =>
    obtain ⟨b?, hb⟩ := ih
    obtain ⟨e, he⟩ := read_boundaries_of_gives hb hitems
    obtain ⟨rs, hrs⟩ := Shape.value_of_gives boundaries_names (i := 5) rfl rfl hitems he
    exact read_of_mem hrs hu
  | disallowed _ hitems hu ih =>
    obtain ⟨b?, hb⟩ := ih
    obtain ⟨e, he⟩ := read_boundaries_of_gives hb hitems
    obtain ⟨rs, hrs⟩ := Shape.value_of_gives boundaries_names (i := 6) rfl rfl hitems he
    exact read_of_mem hrs hu
  | rule hitems hu =>
    obtain ⟨rs, hrs⟩ := Shape.value_of_gives shape_names (i := 4) rfl rfl hitems hc
    exact read_of_mem hrs hu
  | source _ hu ih =>
    obtain ⟨r, hr⟩ := ih
    exact Shape.value_of_gives rule_names (i := 3) rfl rfl hu hr
  | target _ hu ih =>
    obtain ⟨r, hr⟩ := ih
    exact Shape.value_of_gives rule_names (i := 4) rfl rfl hu hr

/-- A table that can be read as a part has none but the keys of that part. -/
theorem Part.Readable.mem_keys {p : Part} {ms : List (Key × Tree)} {stop : Stop} (h : p.Readable (.table ms stop))
    {key : String} {v : Tree} (hm : (.text key, v) ∈ ms) : key ∈ p.keys := by
  cases p with
  | boundaries =>
    obtain ⟨b?, hb⟩ := h
    obtain ⟨b, hb, -⟩ := map_eq_ok_iff.mp hb
    exact Shape.mem_known_iff.mp (Shape.mem_known_of_strict rfl hb hm)
  | _ =>
    obtain ⟨a, ha⟩ := h
    exact Shape.mem_known_iff.mp (Shape.mem_known_of_strict rfl ha hm)

end Config

/-- A text is refused as malformed if a table that stands for a part of the configuration has a key that is none of the
part's. -/
theorem RuleSet.parse_misspelt [PatternLanguage] {text key : String} {t v : Tree} {p : Config.Part}
    {ms : List (Key × Tree)} {stop : Stop} (ht : Toml.parse text = some t)
    (hp : Config.StandsFor t p (.table ms stop)) (hm : (.text key, v) ∈ ms) (hkey : key ∉ p.keys) :
    ∃ detail?, RuleSet.parse text = .error (.malformed detail?) := by
  cases hread : Config.shape.reader t with
  | ok c => exact absurd ((hp.readable hread).mem_keys hm) hkey
  | error e =>
    refine ⟨e.detail, ?_⟩
    have hparse : Config.parse text = .error (.malformed e.detail) := by
      simp only [Config.parse, ht, hread]
    rw [RuleSet.parse, hparse]
    rfl

namespace Config

/-- The target of a rule that is switched off, with one key misspelt. -/
def misspeltTarget : Tree := .table [(.text "path", .text "^src"), (.text "circullar", .bool true)] .closed

def ruleOff : Tree :=
  .table [(.text "name", .text "no-cycles"), (.text "severity", .text "off"), (.text "to", misspeltTarget)] .closed

def misspeltText : String :=
  "[[forbidden]]\nname = 'no-cycles'\nseverity = 'off'\nto = \x7b path = '^src', circullar = true \x7d\n"

def misspelt : Tree := .table [(.text "forbidden", .list [ruleOff] .closed)] .closed

theorem standsFor_misspeltTarget : StandsFor misspelt .target misspeltTarget := by
  have hrules : shape.Gives misspelt "forbidden" (.list [ruleOff] .closed) :=
    .member (f := shape.fields[4]) (List.mem_singleton_self _) rfl
  have hrule : StandsFor misspelt .rule ruleOff := .rule hrules (List.mem_singleton_self _)
  have htarget : RuleEntry.shape.Gives ruleOff "to" misspeltTarget :=
    .member (f := RuleEntry.shape.fields[4])
      (List.mem_cons_of_mem _ (List.mem_cons_of_mem _ (List.mem_singleton_self _))) rfl
  exact .target hrule htarget

end Config

theorem RuleSet.parse_misspeltText :
    Toml.parse Config.misspeltText = some Config.misspelt ∧
      Config.StandsFor Config.misspelt .target Config.misspeltTarget ∧
        "circullar" ∉ Config.Part.target.keys ∧ ∃ detail?, parse Config.misspeltText = .error (.malformed detail?) := by
  have htext : Toml.parse Config.misspeltText = some Config.misspelt := by cbv
  have hkey : "circullar" ∉ Config.Part.target.keys := by decide
  refine ⟨htext, Config.standsFor_misspeltTarget, hkey, ?_⟩
  exact parse_misspelt htext Config.standsFor_misspeltTarget (List.mem_cons_of_mem _ (List.mem_singleton_self _)) hkey

end ImportLint
