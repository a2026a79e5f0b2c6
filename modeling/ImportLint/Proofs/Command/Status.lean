import ImportLint.Command.Run
import ImportLint.Proofs.Check.Recommended
import ImportLint.Proofs.Check.Severity
import ImportLint.Proofs.Command.Source
import ImportLint.Proofs.Document.Padded
import ImportLint.Proofs.Json.Written

/-!
# How checks end

A check ends in one of three ways (`Command.run_check`). If the rules or the input cannot be had, the status is two and
nothing is printed; the rules come first, so no input helps a bad configuration. Otherwise the status is that of the
report: one if it has an error and zero if it has none, in every format. In JSON the text says so itself: its member
`passed` is read back as whether the status is zero (`Report.parsePassed_output`).
-/

namespace ImportLint

open Document (Key Reader Shape)
open Json (Value)

namespace Report

/-- The member `passed` of a report in JSON, whatever else stands there. -/
def passedShape : Shape Bool where
  name := "Report"
  fields := [.need "passed" Reader.flag fun b _ => b]
  blank := false
  strict := false

/-- Reads whether a report in JSON has passed. -/
def parsePassed (text : String) : Except Document.ReadError Bool := Json.read passedShape.reader text

theorem passedShape_lawful : passedShape.Lawful where
  names := by decide
  own := by decide
  commutes := List.pairwise_singleton _ _

/-- The output in JSON says that a report has passed if and only if it has no errors. -/
theorem parsePassed_output (r : Report) : parsePassed (r.output .json) = .ok (!r.hasErrors) := by
  refine Value.read_renderPretty ?_
  obtain ⟨ms, htree, hperm⟩ := Value.tree_sortKeys_table
    [("passed", .bool (!r.hasErrors)), _, ("violations", .list (r.violations.map Violation.json))]
  rw [outputJson, htree]
  -- the table is that of `passed` alone, with two members more
  have hextra : ∀ key (v : Value), key ≠ "passed" → passedShape.IsExtra (.text key, v.tree) := fun key v hkey =>
    ⟨key, rfl, fun h => hkey (List.mem_singleton.mp (Shape.mem_known_iff.mp h)), v.firstBreak_tree⟩
  have hpadded : passedShape.Padded (fun _ => Eq) (.table [(.text "passed", (Value.bool (!r.hasErrors)).tree)] .closed)
      (.table ms .closed) := by
    refine .table (List.forall₂_same.mpr fun m hm => ?_) ?_ hperm
    · cases List.mem_singleton.mp hm
      exact .field rfl rfl
    · intro m hm
      rcases List.mem_pair.mp hm with rfl | rfl
      · exact hextra _ _ (by decide)
      · exact hextra _ _ (by decide)
  refine Shape.reader_respects_padded passedShape_lawful rfl (fun f _ a => Reader.respects_eq _) _ _ _ hpadded ?_
  cases r.hasErrors <;> rfl

end Report

namespace Command

/-! ## The input -/

/-- The text that a run reads for the input `path`. -/
def inputText? (w : World) (path : String) : Option String :=
  if isStandardInput path then w.input? else (w.look path).text?

/-- The input `path` can be read and is the inventory `i`. -/
def Supplies (w : World) (path : String) (i : Inventory) : Prop :=
  ∃ text, inputText? w path = some text ∧ Inventory.parse text = .ok i

theorem readInventory_eq_ok_iff {w : World} {path : String} {i : Inventory} :
    readInventory w path = .ok i ↔ Supplies w path i := by
  unfold readInventory Supplies inputText?
  split_ifs
  · cases w.input? with
    | none => simp
    | some text => cases hp : Inventory.parse text <;> simp [hp]
  · cases (w.look path).text? with
    | none => simp
    | some text => cases hp : Inventory.parse text <;> simp [hp]

/-- Without an inventory the reading fails. -/
theorem readInventory_eq_error {w : World} {path : String} (h : ∀ i, ¬Supplies w path i) :
    ∃ f, readInventory w path = .error f := by
  cases hr : readInventory w path with
  | error f => exact ⟨f, rfl⟩
  | ok i => exact absurd (readInventory_eq_ok_iff.mp hr) (h i)

/-! ## The report -/

/-- The report in JSON is a table, and its member `passed` tells whether there are no errors. -/
theorem output_json (r : Report) :
    ∃ members, r.output .json = (Json.Value.table members).renderPretty ++ "\n" ∧
      ∀ x, ("passed", x) ∈ members ↔ x = .bool (!r.hasErrors) := by
  refine ⟨_, rfl, fun x => ?_⟩
  rw [List.mem_mergeSort]
  simp [Json.Value.sortKeysOfMembers, Json.Value.sortKeys]

/-! ## Runs -/

variable {w : World} {config? : Option String} {input dir : String} {format : Format} {rules : RuleSet}

/-- A check is decided by the rules of its source. -/
theorem check_eq (w : World) (config? : Option String) (input : String) (format : Format) (dir : String) :
    ∃ log, check w config? input format dir =
      match (RuleSource.find w dir config?).rules w with
      | .error f => .failed log f
      | .ok rules => checkWith w (RuleSource.find w dir config?) rules log input format := by
  have hload := RuleSource.load_snd w (RuleSource.find w dir config?)
  generalize hl : (RuleSource.find w dir config?).load w = loaded at hload
  obtain ⟨log, result⟩ := loaded
  refine ⟨log, ?_⟩
  rw [← hload]
  simp only [check, hl]
  cases result <;> rfl

theorem checkWith_of_not_supplied {s : RuleSource} {log : List LogLine} (h : ∀ i, ¬Supplies w input i) :
    (checkWith w s rules log input format).exit = 2 ∧ (checkWith w s rules log input format).output = "" := by
  obtain ⟨f, hf⟩ := readInventory_eq_error h
  have hfailed : checkWith w s rules log input format = .failed (log ++ emptyNote s rules) f := by
    simp only [checkWith, hf]
  rw [hfailed]
  exact ⟨rfl, rfl⟩

theorem checkWith_of_supplies {s : RuleSource} {log : List LogLine} {i : Inventory} (h : Supplies w input i) :
    (checkWith w s rules log input format).exit = (if (rules.check i.graph).hasErrors then 1 else 0) ∧
      (checkWith w s rules log input format).output = (rules.check i.graph).output format := by
  have hread : readInventory w input = .ok i := readInventory_eq_ok_iff.mpr h
  constructor <;> simp only [checkWith, hread]

/-- A check without rules, or without an inventory to read, ends with status two and prints nothing. Otherwise it ends
with status one if the report has an error, and with status zero if it has none. The format has no part in this, and
`passed` in the JSON, also as it is read back from the text, says whether the status is zero. Where no rule and no policy is an error, the status is never
one. -/
theorem run_check {w : World} {args : List String} {r : Request} {input dir : String} {format : Format}
    (h : Request.ofLine (w.env? configVariable) args = .ok r) (ha : r.action = .check input format dir) :
    (∀ f, (RuleSource.find w dir r.config?).rules w = .error f → (run w args).exit = 2 ∧ (run w args).output = "") ∧
    ∀ rules, (RuleSource.find w dir r.config?).rules w = .ok rules →
      ((∀ i, ¬Supplies w input i) → (run w args).exit = 2 ∧ (run w args).output = "") ∧
      (∀ i, Supplies w input i →
        (run w args).exit = (if ∃ v ∈ (rules.check i.graph).violations, v.severity = .error then 1 else 0) ∧
        (format = .json →
          (∃ members, (run w args).output = (Json.Value.table members).renderPretty ++ "\n" ∧
            ∀ x, ("passed", x) ∈ members ↔ x = .bool (decide ((run w args).exit = 0))) ∧
          Report.parsePassed (run w args).output = .ok (decide ((run w args).exit = 0)))) ∧
      ((∀ q ∈ rules.rules, q.severity ≠ .error) → (∀ p ∈ rules.policy?, p.severity ≠ .error) →
        (run w args).exit ≠ 1) := by
  -- what is shown of the log has no part in the status and the output
  have hrun : run w args = (check w r.config? input format dir).shown r.verbose := by
    simp only [run, h, perform, ha]
  have hexit : (run w args).exit = (check w r.config? input format dir).exit := by
    rw [hrun]
    rfl
  have houtput : (run w args).output = (check w r.config? input format dir).output := by
    rw [hrun]
    rfl
  obtain ⟨log, hcheck⟩ := check_eq w r.config? input format dir
  rw [hexit, houtput, hcheck]
  refine ⟨fun f hf => ?_, fun rules hrules => ?_⟩
  · rw [hf]
    exact ⟨rfl, rfl⟩
  · simp only [hrules]
    refine ⟨checkWith_of_not_supplied, fun i hi => ?_, fun hr hp => ?_⟩
    · obtain ⟨hx, ho⟩ := checkWith_of_supplies hi
      rw [hx, ho]
      refine ⟨if_congr Report.hasErrors_iff_exists rfl rfl, ?_⟩
      rintro rfl
      obtain ⟨members, hout, hpassed⟩ := output_json (rules.check i.graph)
      have hverdict : (!(rules.check i.graph).hasErrors) =
          decide ((if (rules.check i.graph).hasErrors then 1 else 0) = 0) := by
        cases (rules.check i.graph).hasErrors <;> rfl
      refine ⟨⟨members, hout, fun x => ?_⟩, ?_⟩
      · rw [hpassed, hverdict]
      · rw [Report.parsePassed_output, hverdict]
    · -- the status is zero with an inventory and two without one
      by_cases hi : ∃ i, Supplies w input i
      · obtain ⟨i, hi⟩ := hi
        rw [(checkWith_of_supplies hi).1, RuleSet.hasErrors_eq_false hr hp]
        decide
      · rw [(checkWith_of_not_supplied (not_exists.mp hi)).1]
        decide

/-- A world with an empty configuration `rules.toml`, where a text is in all other files and on the standard input. -/
def uniformWorld (text : String) : World :=
  { look := fun path => .file (some (if path = "rules.toml" then "" else text))
    env? := fun _ => none
    home? := none
    input? := some text }

/-- One import that does not resolve. -/
def goneImport : Inventory :=
  { listings := []
    records := [{ source := "a", to? := none, specifier? := some "./gone", kind? := none, resolved := false }] }

/-- The same import as a document. -/
def goneImportText : String :=
  "\x7b\"edges\":[\x7b\"from\":\"a\",\"specifier\":\"./gone\",\"resolved\":false\x7d]\x7d"

/-- The recommended rules report an error for an import that does not resolve. -/
theorem exists_error_goneImport :
    ∃ v ∈ (RuleSet.recommended.check goneImport.graph).violations, v.severity = .error := by
  have h := goneImport.graph_reflects
  obtain ⟨e, he, hkey, -⟩ := h.edge_of_record _ ((goneImport.record_mem_mentions _).mpr (List.mem_singleton.mpr rfl))
  have htarget : e.target = .unresolved "./gone" := (Prod.mk.inj hkey).2
  have hkind : e.kind = .unresolvable := (h.coherent.kind_iff e he).mpr (by rw [htarget]; rfl)
  exact ⟨_, RuleSet.recommended.breach_mem h.coherent List.mem_cons_self he
    ((Rule.notToUnresolvable_forbids h.coherent he).mpr hkind), rfl⟩

theorem run_check_goneImport :
    (run (uniformWorld goneImportText) ["check", "deps.json", "--config", "rules.toml", "--format", "json"]).exit = 1 ∧
    Report.parsePassed
        (run (uniformWorld goneImportText) ["check", "deps.json", "--config", "rules.toml", "--format", "json"]).output =
      .ok false := by
  have hline : Request.ofLine ((uniformWorld goneImportText).env? configVariable)
      ["check", "deps.json", "--config", "rules.toml", "--format", "json"] =
      .ok { verbose := false, config? := some "rules.toml", action := .check "deps.json" .json "." } := rfl
  have hrules : (RuleSource.named "rules.toml").rules (uniformWorld goneImportText) = .ok .recommended := by
    show (RuleSet.parse "").mapError Failure.config = _
    rw [RuleSet.parse_empty]
    rfl
  have hsupplies : Supplies (uniformWorld goneImportText) "deps.json" goneImport := by
    refine ⟨goneImportText, ?_, rfl⟩
    rw [inputText?]
    split_ifs <;> rfl
  obtain ⟨hexit, hjson⟩ := ((run_check hline rfl).2 .recommended hrules).2.1 goneImport hsupplies
  rw [if_pos exists_error_goneImport] at hexit
  have hpassed := (hjson rfl).2
  rw [hexit] at hpassed
  exact ⟨hexit, hpassed⟩

end Command

end ImportLint
