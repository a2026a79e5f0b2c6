import ImportLint.Proofs.Config.Strict
import ImportLint.Proofs.Document.Respelt

/-!
# Keys with two spellings

Six keys of a configuration have a second spelling (`Config.Part.aliases`). `Config.plain` gives every key of a document
its first one, in each table by itself, so two documents that agree after that differ in spelling only. They are read and
loaded alike, and a table with both spellings of a key is refused (`RuleSet.parse_respelt`).
-/

namespace ImportLint

open Document (Field Key Reader Shape Stop Tree)

namespace Config

namespace Part

/-- The keys with a second spelling, which stands behind the first. -/
def aliases : Part → List (String × String)
  | source => [("path_not", "pathNot")]
  | target =>
    [("path_not", "pathNot"), ("could_not_resolve", "couldNotResolve"), ("dependency_types", "dependencyTypes")]
  | boundaries => [("no_unknown", "no-unknown"), ("no_ignored", "no-ignored")]
  | _ => []

/-- The first spelling of a key. -/
def spell (p : Part) (key : String) : String :=
  ((p.aliases.find? fun a => a.2 == key).map Prod.fst).getD key

theorem spell_eq_self {p : Part} {key : String} (h : ∀ a ∈ p.aliases, a.2 ≠ key) : p.spell key = key := by
  have hnone : (p.aliases.find? fun a => a.2 == key) = none := by
    rw [List.find?_eq_none]
    intro a ha
    simpa using h a ha
  rw [spell, hnone]
  rfl

/-- A shape whose fields have just the second spellings of a part gives keys their first ones. -/
theorem speltBy {α : Type} {s : Shape α} {p : Part} (names : (s.fields.map Field.name).Nodup)
    (first : ∀ name ∈ s.fields.map Field.name, p.spell name = name)
    (spelt : ∀ key ∈ s.fields.flatMap fun f => f.name :: f.aliases,
      (s.field? (.text key)).map Field.name = some (p.spell key))
    (second : ∀ a ∈ p.aliases, a.2 ∈ s.fields.flatMap fun f => f.name :: f.aliases) : s.SpeltBy p.spell := by
  refine Shape.speltBy_of_known (fun f hf => ?_) spelt fun key hkey => spell_eq_self ?_
  · have hown := spelt f.name (List.mem_flatMap.mpr ⟨f, hf, List.mem_cons_self⟩)
    rw [first f.name (List.mem_map_of_mem hf)] at hown
    exact Shape.field?_name_of_nodup names hf hown
  · rintro a ha rfl
    exact hkey (second a ha)

end Part

/-! ## Documents with the first spelling of every key -/

def plainSource : Tree → Tree := Tree.respell ["path", "path_not", "orphan"] Part.source.spell fun _ t => t

def plainTarget : Tree → Tree :=
  Tree.respell ["path", "path_not", "circular", "could_not_resolve", "dependency_types"] Part.target.spell fun _ t => t

def plainBoundaries : Tree → Tree :=
  Tree.respell ["default", "severity", "no_unknown", "no_ignored", "ignore", "allow", "disallow"] Part.boundaries.spell
    fun _ t => t

def plainRule : Tree → Tree :=
  Tree.respell ["name", "severity", "comment", "from", "to"] Part.rule.spell fun name t =>
    if name = "from" then plainSource t else if name = "to" then plainTarget t else t

/-- A configuration in which every key has its first spelling. -/
def plain : Tree → Tree :=
  Tree.respell ["preset", "options", "elements", "boundaries", "forbidden"] Part.whole.spell fun name t =>
    if name = "boundaries" then plainBoundaries t
    else if name = "forbidden" then t.respellEach plainRule
    else t

/-! ## Reading -/

theorem source_speltBy : SourceEntry.shape.SpeltBy Part.source.spell :=
  Part.speltBy (by decide) (by decide) (by decide) (by decide)

theorem target_speltBy : TargetEntry.shape.SpeltBy Part.target.spell :=
  Part.speltBy (by decide) (by decide) (by decide) (by decide)

theorem boundaries_speltBy : BoundariesEntry.shape.SpeltBy Part.boundaries.spell :=
  Part.speltBy boundaries_names (by decide) (by decide) (by decide)

theorem rule_speltBy : RuleEntry.shape.SpeltBy Part.rule.spell :=
  Part.speltBy rule_names (by decide) (by decide) (by decide)

theorem speltBy : shape.SpeltBy Part.whole.spell :=
  Part.speltBy shape_names (by decide) (by decide) (by decide)

theorem read_plainSource (t : Tree) : SourceEntry.shape.reader (plainSource t) = SourceEntry.shape.reader t :=
  Shape.reader_respell rfl rfl source_speltBy (fun _ _ _ _ => rfl) t

theorem read_plainTarget (t : Tree) : TargetEntry.shape.reader (plainTarget t) = TargetEntry.shape.reader t :=
  Shape.reader_respell rfl rfl target_speltBy (fun _ _ _ _ => rfl) t

theorem read_plainBoundaries (t : Tree) :
    BoundariesEntry.shape.reader (plainBoundaries t) = BoundariesEntry.shape.reader t :=
  Shape.reader_respell rfl rfl boundaries_speltBy (fun _ _ _ _ => rfl) t

theorem read_plainRule (t : Tree) : RuleEntry.shape.reader (plainRule t) = RuleEntry.shape.reader t := by
  refine Shape.reader_respell rfl rfl rule_speltBy ?_ t
  simp only [RuleEntry.shape, List.forall_mem_cons]
  refine ⟨fun _ _ => rfl, fun _ _ => rfl, fun _ _ => rfl, ?_, ?_, List.forall_mem_nil _⟩
  · exact Field.read_of_put rfl read_plainSource
  · exact Field.read_of_put rfl read_plainTarget

/-- A configuration is read alike whichever spellings its keys have, errors included. -/
theorem read_plain (t : Tree) : shape.reader (plain t) = shape.reader t := by
  refine Shape.reader_respell rfl rfl speltBy ?_ t
  simp only [shape, List.forall_mem_cons]
  refine ⟨fun _ _ => rfl, fun _ _ => rfl, fun _ _ => rfl, ?_, ?_, List.forall_mem_nil _⟩
  · exact Field.read_of_put rfl (Reader.optional_respell read_plainBoundaries)
  · exact Field.read_of_put rfl (Reader.list_respellEach read_plainRule)

/-- Whether a text is a configuration, and which one, is up to its document. -/
theorem parse_congr {text text' : String} (h : (Toml.parse text).map plain = (Toml.parse text').map plain) :
    parse text = parse text' := by
  cases ht : Toml.parse text with
  | none =>
    rw [ht, Option.map_none, eq_comm, Option.map_eq_none_iff] at h
    simp only [parse, ht, h]
  | some t =>
    rw [ht, Option.map_some, eq_comm, Option.map_eq_some_iff] at h
    obtain ⟨t', ht', hplain⟩ := h
    have hread : shape.reader t = shape.reader t' := by rw [← read_plain t, ← hplain, read_plain]
    simp only [parse, ht, ht', hread]

/-! ## Both spellings -/

/-- Both spellings of a key in one table. -/
theorem Part.not_readable_of_both {p : Part} {ms : List (Key × Tree)} {stop : Stop} {first second : String}
    (ha : (first, second) ∈ p.aliases) {u v : Tree} (hu : (.text first, u) ∈ ms) (hv : (.text second, v) ∈ ms) :
    ¬p.Readable (.table ms stop) := by
  have hne : ∀ q : Part, ∀ a ∈ q.aliases, a.1 ≠ a.2 := by
    intro q
    cases q <;> decide
  have hkeys : Key.text first ≠ .text second := fun h => hne p _ ha (Key.text.inj h)
  intro h
  cases p with
  | source =>
    obtain ⟨a, hread⟩ := h
    simp only [aliases, List.mem_singleton, Prod.mk.injEq] at ha
    obtain ⟨rfl, rfl⟩ := ha
    exact Shape.field?_ne_of_read hread hu hv hkeys rfl rfl
  | target =>
    obtain ⟨a, hread⟩ := h
    simp only [aliases, List.mem_cons, Prod.mk.injEq, List.not_mem_nil, or_false] at ha
    obtain ⟨rfl, rfl⟩ | ⟨rfl, rfl⟩ | ⟨rfl, rfl⟩ := ha <;> exact Shape.field?_ne_of_read hread hu hv hkeys rfl rfl
  | boundaries =>
    obtain ⟨b?, hb⟩ := h
    obtain ⟨b, hread, -⟩ := map_eq_ok_iff.mp hb
    simp only [aliases, List.mem_cons, Prod.mk.injEq, List.not_mem_nil, or_false] at ha
    obtain ⟨rfl, rfl⟩ | ⟨rfl, rfl⟩ := ha <;> exact Shape.field?_ne_of_read hread hu hv hkeys rfl rfl
  | _ => cases ha

end Config

/-- Configurations that differ in the spelling of keys only give the same rule set or the same error, whichever keys are
respelt. A table with both spellings of a key is refused as malformed.

The first part does not ask for tables in which no key has both spellings. -/
theorem RuleSet.parse_respelt [PatternLanguage] (text : String) :
    (∀ text', (Toml.parse text').map Config.plain = (Toml.parse text).map Config.plain → parse text' = parse text) ∧
      ∀ t p ms stop first second u v, Toml.parse text = some t → Config.StandsFor t p (.table ms stop) →
        (first, second) ∈ p.aliases → (.text first, u) ∈ ms → (.text second, v) ∈ ms →
          ∃ detail?, parse text = .error (.malformed detail?) := by
  refine ⟨fun text' h => ?_, fun t p ms stop first second u v ht hp ha hu hv => ?_⟩
  · rw [parse, parse, Config.parse_congr h]
  · cases hread : Config.shape.reader t with
    | ok c => exact absurd (hp.readable hread) (Config.Part.not_readable_of_both ha hu hv)
    | error e =>
      refine ⟨e.detail, ?_⟩
      have hparse : Config.parse text = .error (.malformed e.detail) := by
        simp only [Config.parse, ht, hread]
      rw [parse, hparse]
      rfl

namespace Config

/-- A rule with a source and an edge. -/
def spelt (sourceNot unresolvable : String) : Tree :=
  .table [(.text "forbidden", .list [.table [(.text "name", .text "gone"),
    (.text "from", .table [(.text sourceNot, .text "^test")] .closed),
    (.text "to", .table [(.text unresolvable, .bool true)] .closed)] .closed] .closed)] .closed

def underscoreText : String :=
  "[[forbidden]]\nname = 'gone'\nfrom.path_not = '^test'\nto.could_not_resolve = true\n"

def camelText : String :=
  "[[forbidden]]\nname = 'gone'\nfrom.pathNot = '^test'\nto.couldNotResolve = true\n"

/-- Boundaries with both spellings of a key. -/
def twiceSpelt : Tree := .table [(.text "no-unknown", .bool true), (.text "no_unknown", .bool true)] .closed

def twiceSpeltText : String := "[boundaries]\nno-unknown = true\nno_unknown = true\n"

end Config

theorem RuleSet.parse_camelText :
    Toml.parse Config.underscoreText = some (Config.spelt "path_not" "could_not_resolve") ∧
      parse Config.camelText = parse Config.underscoreText ∧
        ∃ detail?, parse Config.twiceSpeltText = .error (.malformed detail?) := by
  have hunderscore : Toml.parse Config.underscoreText = some (Config.spelt "path_not" "could_not_resolve") := by cbv
  have hcamel : Toml.parse Config.camelText = some (Config.spelt "pathNot" "couldNotResolve") := by cbv
  have hplain : (Toml.parse Config.camelText).map Config.plain = (Toml.parse Config.underscoreText).map Config.plain := by
    rw [hcamel, hunderscore]
    rfl
  have htwice : Toml.parse Config.twiceSpeltText = some (.table [(.text "boundaries", Config.twiceSpelt)] .closed) := by
    cbv
  have hpart : Config.StandsFor (.table [(.text "boundaries", Config.twiceSpelt)] .closed) .boundaries
      Config.twiceSpelt :=
    .boundaries (.member (f := Config.shape.fields[3]) (List.mem_singleton_self _) rfl)
  refine ⟨hunderscore, (parse_respelt Config.underscoreText).1 Config.camelText hplain, ?_⟩
  exact (parse_respelt Config.twiceSpeltText).2 _ _ _ _ "no_unknown" "no-unknown" _ _ htwice hpart List.mem_cons_self
    (List.mem_cons_of_mem _ (List.mem_singleton_self _)) List.mem_cons_self

end ImportLint
