import ImportLint.Config.Load
import ImportLint.Proofs.Check.Content
import ImportLint.Proofs.Report.Lines
import Mathlib

/-!
# Lines of checks

The message of a violation shows its source, its target and names that have no line feed. So the violations of a check
have a line each in its compact report if and only if no rule, source or target that is reported has a line feed in its
name (`RuleSet.linesOf_compact_check`). Names of rules and ids of modules may have line feeds (`RuleSet.linesOf_brokenName`).
-/

namespace ImportLint

variable {g : Graph} {v : Violation}

/-! ## Names -/

/-- The ids and specifiers that a mention shows. -/
def Mention.labels : Mention → List String
  | module id => [id]
  | record r => [r.source, r.target.label]

/-- The ids and specifiers that an inventory shows. -/
def Inventory.labels (i : Inventory) : List String := i.mentions.flatMap Mention.labels

theorem Mention.ids_subset_labels (m : Mention) : m.ids ⊆ m.labels := by
  cases m with
  | module id => exact List.Subset.refl _
  | record r => cases ht : r.target <;> simp [ids, labels, ht, Target.module?, Target.label]

namespace Graph.Reflects

variable {ms : List Mention}

theorem module_mem_labels (h : g.Reflects ms) {id : String} (hid : id ∈ g.modules) : id ∈ ms.flatMap Mention.labels := by
  obtain ⟨m, hm, hid⟩ := (h.mem_modules id).mp hid
  exact List.mem_flatMap.mpr ⟨m, hm, m.ids_subset_labels hid⟩

theorem label_mem_labels (h : g.Reflects ms) {e : Edge} (he : e ∈ g.edges) :
    e.target.label ∈ ms.flatMap Mention.labels := by
  obtain ⟨r, hr, hkey, -⟩ := h.record_of_edge e he
  have htarget : r.target = e.target := (Prod.mk.inj hkey).2
  refine List.mem_flatMap.mpr ⟨.record r, hr, ?_⟩
  simp [Mention.labels, htarget]

end Graph.Reflects

/-! ## Messages -/

theorem Kind.oneLine_name (k : Kind) : OneLine k.name := by
  cases k <;> decide

theorem ElementName.oneLine_text (n : ElementName) : OneLine n.text := by
  have hvalid := n.valid
  rw [isElementName, Bool.and_eq_true, List.all_eq_true] at hvalid
  exact fun hfeed => absurd (hvalid.2 _ hfeed) (by decide)

section

variable [PatternLanguage]

theorem TargetFilter.oneLine_message (t : TargetFilter) {e : Edge} (hs : OneLine e.source)
    (hl : OneLine e.target.label) : OneLine (t.message e) := by
  unfold message
  split_ifs <;> simp +decide [hs, hl, e.kind.oneLine_name]

/-- A rule adds no line feed to the names in its messages. -/
theorem Rule.oneLine_message {r : Rule} (h : g.Coherent) (hv : v ∈ r.check g (Facts.ofGraph g))
    (hn : v.NamesOneLine) : OneLine v.message := by
  cases hs : r.scope with
  | modules orphan =>
    rw [check, hs] at hv
    obtain ⟨id, -, hid⟩ := List.mem_filterMap.mp hv
    rw [checkModule] at hid
    split_ifs at hid
    · cases hid
      show OneLine "orphan module: no internal imports and no internal dependents"
      decide
    · cases hid
      show OneLine "module has internal dependencies"
      decide
  | edges t =>
    rw [r.check_edges h hs] at hv
    obtain ⟨e, -, he⟩ := List.mem_filterMap.mp hv
    rw [finding] at he
    split_ifs at he
    cases he
    exact r.scope.target.oneLine_message hn.source (hn.target _ rfl)

namespace Policy

variable {p : Policy} {elements : List ElementPattern}

theorem oneLine_rule (hv : v ∈ p.check elements g) : OneLine v.rule := by
  obtain ⟨e, -, b, -, hj⟩ := judgement_of_mem_check hv
  cases hj <;> simp +decide

/-- A policy adds no line feed to the names in its messages. -/
theorem oneLine_message (hv : v ∈ p.check elements g) (hn : v.NamesOneLine) : OneLine v.message := by
  obtain ⟨e, -, b, -, hj⟩ := judgement_of_mem_check hv
  have hb : OneLine b := hn.target b hj.parts.2.1
  cases hj with
  | noIgnored => simp +decide [hb]
  | noUnknown => simp +decide [hb]
  | elementTypes => simp +decide [ElementName.oneLine_text]

end Policy

namespace RuleSet

theorem oneLine_line_iff {s : RuleSet} (h : g.Coherent) (hv : v ∈ (s.check g).violations) :
    OneLine v.line ↔ v.NamesOneLine := by
  refine v.oneLine_line_iff.trans (and_iff_left_of_imp fun hn => ?_)
  obtain ⟨r, -, hv⟩ | ⟨p, -, hv⟩ := s.mem_check.mp hv
  · exact Rule.oneLine_message h hv hn
  · exact Policy.oneLine_message hv hn

end RuleSet

/-! ## Names in reports -/

namespace Graph.Reflects

variable {ms : List Mention}

/-- What a rule reports of a graph is among what the mentions of the graph show. -/
theorem labels_of_rule (h : g.Reflects ms) {r : Rule} (hv : v ∈ r.check g (Facts.ofGraph g)) :
    v.source ∈ ms.flatMap Mention.labels ∧ ∀ t, v.target? = some t → t ∈ ms.flatMap Mention.labels := by
  cases hs : r.scope with
  | modules orphan =>
    rw [Rule.check, hs] at hv
    obtain ⟨id, hmem, hid⟩ := List.mem_filterMap.mp hv
    rw [Rule.checkModule] at hid
    have hlabel : id ∈ ms.flatMap Mention.labels := h.module_mem_labels (Array.mem_toList_iff.mp hmem)
    split_ifs at hid <;> cases hid <;> exact ⟨hlabel, fun t ht => by cases ht⟩
  | edges t =>
    rw [r.check_edges h.coherent hs] at hv
    obtain ⟨e, hmem, he⟩ := List.mem_filterMap.mp hv
    have hmem : e ∈ g.edges := Array.mem_toList_iff.mp hmem
    rw [Rule.finding] at he
    split_ifs at he
    cases he
    refine ⟨h.module_mem_labels (h.coherent.source_mem e hmem), fun l hl => ?_⟩
    cases hl
    exact h.label_mem_labels hmem

/-- What a policy reports of a graph is among what the mentions of the graph show. -/
theorem labels_of_policy (h : g.Reflects ms) {p : Policy} {elements : List ElementPattern}
    (hv : v ∈ p.check elements g) :
    v.source ∈ ms.flatMap Mention.labels ∧ ∀ t, v.target? = some t → t ∈ ms.flatMap Mention.labels := by
  obtain ⟨e, hmem, b, htarget, hj⟩ := Policy.judgement_of_mem_check hv
  obtain ⟨hsource, hb, -⟩ := hj.parts
  refine ⟨hsource ▸ h.module_mem_labels (h.coherent.source_mem e hmem), fun l hl => ?_⟩
  obtain rfl : b = l := Option.some.inj (hb.symm.trans hl)
  exact h.module_mem_labels (h.coherent.target_mem e hmem b htarget)

end Graph.Reflects

namespace RuleSet

variable (s : RuleSet) (i : Inventory)

/-- What has no line feed in the rules and in the inventory has none in the report. -/
theorem namesOneLine_of_mem_check (hr : ∀ r ∈ s.rules, OneLine r.name) (hi : ∀ text ∈ i.labels, OneLine text)
    (hv : v ∈ (s.check i.graph).violations) : v.NamesOneLine := by
  have h := i.graph_reflects
  obtain ⟨r, hmem, hv⟩ | ⟨p, -, hv⟩ := s.mem_check.mp hv
  · obtain ⟨hsource, htarget⟩ := h.labels_of_rule hv
    have hname : v.rule = r.name := (Rule.check_parts hv).1
    exact ⟨hname ▸ hr r hmem, hi _ hsource, fun t ht => hi t (htarget t ht)⟩
  · obtain ⟨hsource, htarget⟩ := h.labels_of_policy hv
    exact ⟨Policy.oneLine_rule hv, hi _ hsource, fun t ht => hi t (htarget t ht)⟩

/-- The compact report of a check has a line for each violation and one more for each line feed in those. The lines are
the violations, one by one, if and only if there are as many of them, and if and only if no violation has a line feed in
the name of its rule, in its source or in its target. So it is if no rule has one in its name and the inventory has none in
what it shows. -/
theorem linesOf_compact_check :
    ((linesOf (s.check i.graph).compact).length =
      (s.check i.graph).violations.length +
        ((s.check i.graph).violations.flatMap fun v => v.line.toList).count '\n') ∧
    (linesOf (s.check i.graph).compact = (s.check i.graph).violations.map Violation.line ↔
      (linesOf (s.check i.graph).compact).length = (s.check i.graph).violations.length) ∧
    (linesOf (s.check i.graph).compact = (s.check i.graph).violations.map Violation.line ↔
      ∀ v ∈ (s.check i.graph).violations, v.NamesOneLine) ∧
    ((∀ r ∈ s.rules, OneLine r.name) → (∀ text ∈ i.labels, OneLine text) →
      linesOf (s.check i.graph).compact = (s.check i.graph).violations.map Violation.line) := by
  have hlines : linesOf (s.check i.graph).compact = (s.check i.graph).violations.map Violation.line ↔
      ∀ v ∈ (s.check i.graph).violations, v.NamesOneLine :=
    (Report.linesOf_compact_eq_iff _).trans
      (forall₂_congr fun v hv => oneLine_line_iff i.graph_reflects.coherent hv)
  refine ⟨Report.length_linesOf_compact _, ?_, hlines, fun hr hi => ?_⟩
  · rw [Report.linesOf_compact_eq_iff, Report.length_linesOf_compact_eq_iff]
  · exact hlines.mpr fun v hv => s.namesOneLine_of_mem_check i hr hi hv

end RuleSet

end

namespace RuleSet

/-- A rule against all imports. -/
def noImports : RuleSet :=
  { elements := []
    rules :=
      [{ name := "no-imports", severity := .error, comment? := none, source := .none, scope := .edges .none,
         named := by decide }]
    policy? := none
    parallel := false
    sound := by decide }

def noImportsText : String := "preset = 'none'\n[[forbidden]]\nname = 'no-imports'\n"

/-- An import of `c` by a module. -/
def importBy (source : String) : Inventory :=
  { listings := []
    records := [{ source := source, to? := some "c", specifier? := none, kind? := none, resolved := true }] }

def brokenNameText : String := "\x7b\"edges\":[\x7b\"from\":\"a\\nb\",\"to\":\"c\"\x7d]\x7d"

theorem linesOf_importBy_a :
    linesOf (noImports.check (importBy "a").graph).compact =
      (noImports.check (importBy "a").graph).violations.map Violation.line :=
  (linesOf_compact_check noImports (importBy "a")).2.2.2 (by decide) (by decide)

theorem noImports_forbids {e : Edge} : ∃ r ∈ noImports.rules, r.Forbids g e := by
  refine ⟨_, List.mem_cons_self, (Rule.forbids_iff rfl).mpr ⟨PathFilter.admits_none _, ?_⟩⟩
  exact ⟨PathFilter.admits_none _, Or.inl rfl, nofun, nofun⟩

/-- A module with a line feed in its id: what is reported of it takes two lines. -/
theorem linesOf_brokenName :
    RuleSet.parse noImportsText = .ok noImports ∧ Inventory.parse brokenNameText = .ok (importBy "a\nb") ∧
    linesOf (noImports.check (importBy "a\nb").graph).compact ≠
      (noImports.check (importBy "a\nb").graph).violations.map Violation.line ∧
    (linesOf (noImports.check (importBy "a\nb").graph).compact).length ≠
      (noImports.check (importBy "a\nb").graph).violations.length := by
  have h := (importBy "a\nb").graph_reflects
  have hmention : Mention.record _ ∈ (importBy "a\nb").mentions := List.mem_singleton_self _
  obtain ⟨e, he, hkey, -⟩ := h.edge_of_record _ hmention
  have hsource : e.source = "a\nb" := (Prod.mk.inj hkey).1
  obtain ⟨r, hr, hf⟩ := noImports_forbids (g := (importBy "a\nb").graph) (e := e)
  have hreported := noImports.breach_mem h.coherent hr he hf
  have hbroken : ¬OneLine (r.breach e).line := by
    rw [oneLine_line_iff h.coherent hreported]
    intro hn
    have hone : OneLine "a\nb" := hsource ▸ hn.source
    exact absurd hone (by decide)
  refine ⟨by cbv, by cbv, ?_, ?_⟩
  · rw [ne_eq, Report.linesOf_compact_eq_iff]
    exact fun hall => hbroken (hall _ hreported)
  · rw [ne_eq, Report.length_linesOf_compact_eq_iff]
    exact fun hall => hbroken (hall _ hreported)

end RuleSet

end ImportLint
