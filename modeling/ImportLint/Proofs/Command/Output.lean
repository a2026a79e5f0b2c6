import ImportLint.Proofs.Command.Status
import ImportLint.Proofs.Report.Written

/-!
# The output of a check in JSON

A check prints its report in JSON with the keys of every table in order. `Digest` is what such a text says: whether
there are no errors, the totals, and the violations, which are read in the same way as those of a report. Both the text
of a report and the output of a check give back what the report holds (`Report.read_output`).
-/

namespace ImportLint

open Document (Reader Shape)
open Json (Value)

namespace Document.Shape

/-- A record is read alike when the keys of its table are put in order. -/
theorem reader_sortKeys {α : Type} {s : Shape α} (hs : s.Lawful) {ms : List (String × Value)} {a : α}
    (h : s.reader (.table (Value.treesOfMembers (Value.sortKeysOfMembers ms)) .closed) = .ok a) :
    s.reader (Value.table ms).sortKeys.tree = .ok a := by
  obtain ⟨ms', htree, hperm⟩ := Value.tree_sortKeys_table ms
  rw [htree]
  exact reader_perm hs hperm h

end Document.Shape

namespace Violation

theorem sortKeys_present (key : String) (text? : Option String) : ∀ m ∈ present key text?, m.2.sortKeys = m.2 := by
  cases text? with
  | none => exact fun _ h => nomatch h
  | some s => exact List.forall_mem_singleton.mpr rfl

/-- A violation is read alike when its keys are put in order. -/
theorem reader_sortKeys (v : Violation) : shape.reader v.json.sortKeys.tree = .ok v := by
  have hread := v.reader_json
  rw [json_eq] at hread ⊢
  refine Shape.reader_sortKeys shape_lawful ?_
  rw [Value.sortKeysOfMembers_eq_self]
  · exact hread
  · simp only [List.forall_mem_cons, List.forall_mem_append]
    exact ⟨rfl, rfl, rfl, sortKeys_present _ _, rfl, sortKeys_present _ _, fun _ h => nomatch h⟩

end Violation

/-- The totals of a report. -/
structure Totals where
  errors : Nat
  warnings : Nat
  infos : Nat
  modules : Nat
  edges : Nat
  deriving DecidableEq, Repr

namespace Totals

/-- Totals take no keys but these. -/
def shape : Shape Totals where
  name := "Totals"
  fields :=
    [.need "errors" Reader.count fun n t => { t with errors := n },
     .need "warnings" Reader.count fun n t => { t with warnings := n },
     .need "infos" Reader.count fun n t => { t with infos := n },
     .need "modules" Reader.count fun n t => { t with modules := n },
     .need "edges" Reader.count fun n t => { t with edges := n }]
  blank := { errors := 0, warnings := 0, infos := 0, modules := 0, edges := 0 }
  strict := true

theorem shape_lawful : shape.Lawful where
  names := by decide
  own := by decide
  commutes := by
    simp only [shape, List.pairwise_cons, List.forall_mem_cons, List.not_mem_nil, false_imp_iff,
      implies_true, List.Pairwise.nil, and_true]
    repeat' apply And.intro
    all_goals exact Document.Field.commutes_of_put rfl rfl fun _ _ _ => rfl

end Totals

/-- What the output of a check in JSON says. -/
structure Digest where
  passed : Bool
  totals : Totals
  violations : List Violation
  deriving DecidableEq, Repr

namespace Digest

def shape : Shape Digest where
  name := "Digest"
  fields :=
    [.need "passed" Reader.flag fun b d => { d with passed := b },
     .need "summary" Totals.shape.reader fun t d => { d with totals := t },
     .need "violations" (Reader.list Violation.shape.reader) fun vs d => { d with violations := vs }]
  blank := { passed := false, totals := Totals.shape.blank, violations := [] }
  strict := true

theorem shape_lawful : shape.Lawful where
  names := by decide
  own := by decide
  commutes := by
    simp only [shape, List.pairwise_cons, List.forall_mem_cons, List.not_mem_nil, false_imp_iff,
      implies_true, List.Pairwise.nil, and_true]
    repeat' apply And.intro
    all_goals exact Document.Field.commutes_of_put rfl rfl fun _ _ _ => rfl

/-- Reads what the output of a check says. -/
def parse (text : String) : Except Document.ReadError Digest := Json.read shape.reader text

end Digest

/-- The output of a check with an inventory to read is that of its report. -/
theorem Command.output_run {w : World} {args : List String} {q : Request} {input dir : String} {format : Format}
    {rules : RuleSet} {i : Inventory} (hline : Request.ofLine (w.env? configVariable) args = .ok q)
    (hcheck : q.action = .check input format dir) (hrules : (RuleSource.find w dir q.config?).rules w = .ok rules)
    (hi : Supplies w input i) : (run w args).output = (rules.check i.graph).output format := by
  have hrun : run w args = (check w q.config? input format dir).shown q.verbose := by
    simp only [run, hline, perform, hcheck]
  obtain ⟨log, heq⟩ := check_eq w q.config? input format dir
  rw [hrules] at heq
  rw [hrun, heq]
  exact (checkWith_of_supplies hi).2

namespace Report

open Json (word64)

/-- The totals of a report. -/
def totals (r : Report) : Totals :=
  { errors := r.count .error
    warnings := r.count .warning
    infos := r.count .info
    modules := r.modulesChecked
    edges := r.edgesChecked }

theorem count_le (r : Report) (s : Severity) : r.count s ≤ r.violations.length := List.countP_le_length

theorem reader_outputJson {r : Report} (hv : r.violations.length ≤ word64) (hm : r.modulesChecked ≤ word64)
    (he : r.edgesChecked ≤ word64) : Digest.shape.reader r.outputJson.sortKeys.tree =
      .ok { passed := !r.hasErrors, totals := r.totals, violations := r.violations } := by
  have hcount (s : Severity) : Reader.count (Value.number (r.count s)).tree = .ok (r.count s) :=
    Value.count_read ((r.count_le s).trans hv)
  have htotals : Totals.shape.reader (Value.table
      [("errors", .number (r.count .error)), ("warnings", .number (r.count .warning)),
       ("infos", .number (r.count .info)), ("modules", .number r.modulesChecked),
       ("edges", .number r.edgesChecked)]).sortKeys.tree = .ok r.totals := by
    refine Shape.reader_sortKeys Totals.shape_lawful (Shape.reader_of_writes Totals.shape_lawful ?_)
    refine .give (map_eq_ok_iff.mpr ⟨_, hcount .error, rfl⟩) (.give (map_eq_ok_iff.mpr ⟨_, hcount .warning, rfl⟩) ?_)
    refine .give (map_eq_ok_iff.mpr ⟨_, hcount .info, rfl⟩) (.give (map_eq_ok_iff.mpr ⟨_, Value.count_read hm, rfl⟩) ?_)
    exact .give (map_eq_ok_iff.mpr ⟨_, Value.count_read he, rfl⟩) (.nil _)
  have hviolations : Reader.list Violation.shape.reader (Value.list (r.violations.map Violation.json)).sortKeys.tree =
      .ok r.violations := by
    rw [Value.sortKeys, Value.sortKeysOfItems_eq_map, List.map_map]
    exact Value.list_read Violation.reader_sortKeys r.violations
  refine Shape.reader_sortKeys Digest.shape_lawful (Shape.reader_of_writes Digest.shape_lawful ?_)
  refine .give rfl (.give (map_eq_ok_iff.mpr ⟨_, htotals, rfl⟩) ?_)
  exact .give (map_eq_ok_iff.mpr ⟨_, hviolations, rfl⟩) (.nil _)

/-- A report is read back from its text, with its violations in the same order. A check prints what the report says:
whether there are errors, the totals, and exactly its violations. -/
theorem read_output {r : Report} (hv : r.violations.length ≤ word64) (hm : r.modulesChecked ≤ word64)
    (he : r.edgesChecked ≤ word64) :
    parse r.json.render = .ok r ∧
      Digest.parse (r.output .json) =
        .ok
          { passed := !r.hasErrors
            totals :=
              { errors := r.count .error
                warnings := r.count .warning
                infos := r.count .info
                modules := r.modulesChecked
                edges := r.edgesChecked }
            violations := r.violations } ∧
      ∀ (w : World) (args : List String) (q : Request) (input dir : String) (rules : RuleSet) (i : Inventory),
        Request.ofLine (w.env? Command.configVariable) args = .ok q → q.action = .check input .json dir →
          (RuleSource.find w dir q.config?).rules w = .ok rules → Command.Supplies w input i →
            rules.check i.graph = r → (Command.run w args).output = r.output .json := by
  refine ⟨Value.read_render (reader_json hm he), Value.read_renderPretty (reader_outputJson hv hm he), ?_⟩
  rintro w args q input dir rules i hline hcheck hrules hi rfl
  exact Command.output_run hline hcheck hrules hi

/-- Texts with quotes, backslashes, controls and none of these, an empty target, and the largest count. -/
def awkward : Report :=
  { violations :=
      [{ rule := "\"no\"", severity := .error, source := "a\\b", target? := some "", message := "\n\x00é😀"
         comment? := none },
       { rule := "", severity := .error, source := "\x1f", target? := none, message := "\t"
         comment? := some "\\u0041" },
       { rule := "z", severity := .info, source := "b", target? := some "null", message := "\x7f"
         comment? := some "" }]
    modulesChecked := 18446744073709551615
    edgesChecked := 0 }

theorem read_output_awkward :
    awkward.violations.length ≤ word64 ∧ awkward.modulesChecked ≤ word64 ∧ awkward.edgesChecked ≤ word64 ∧
      parse awkward.json.render = .ok awkward ∧
      Digest.parse (awkward.output .json) =
        .ok
          { passed := false
            totals := { errors := 2, warnings := 0, infos := 1, modules := 18446744073709551615, edges := 0 }
            violations := awkward.violations } := by
  have hv : awkward.violations.length ≤ word64 := by decide
  have hm : awkward.modulesChecked ≤ word64 := by decide
  have he : awkward.edgesChecked ≤ word64 := by decide
  have h := read_output hv hm he
  exact ⟨hv, hm, he, h.1, h.2.1⟩

end Report

end ImportLint
