import ImportLint.Command.Source
import ImportLint.Proofs.Config.Recommended

/-!
# The source of the rules

`RuleSource.candidates` lists the sources that a run may take its rules from, and the run takes the first that
stands (`find?_candidates`): a file of the project or the one for all projects stands only if it is a regular file,
a file that the user names stands whether it exists or not.

Everything a run learns of its rules then comes from that one source (`load_first`). It depends on no file behind it,
and if the file cannot be read or does not check, the run has an error and no rules.
-/

namespace ImportLint

namespace RuleSet

/-- Reads the rules in the file at a path. -/
def ofFile (w : World) (path : String) : Except Failure RuleSet :=
  match (w.look path).text? with
  | none => .error .configUnreadable
  | some text => (parse text).mapError .config

end RuleSet

namespace RuleSource

/-! ## Candidates -/

/-- The path of the file that holds the rules. -/
def path? : RuleSource → Option String
  | named path => some path
  | project path => some path
  | global path => some path
  | builtin => none

/-- The rules of a source: those in its file, or the recommended ones. -/
def rules (w : World) (s : RuleSource) : Except Failure RuleSet :=
  match s.path? with
  | some path => RuleSet.ofFile w path
  | none => .ok .recommended

/-- Whether a source can be taken. -/
def stands (w : World) : RuleSource → Bool
  | named _ => true
  | project path => (w.look path).isFile
  | global path => (w.look path).isFile
  | builtin => true

/-- The sources for a project, the preferred one first. -/
def candidates (dir : String) (named? global? : Option String) : List RuleSource :=
  named?.toList.map named ++
    [project (joinPath dir "modgraph-lint.toml"), project (joinPath dir ".modgraph-lint.toml")] ++
    global?.toList.map (fun g => global (joinPath g "config.toml")) ++ [builtin]

theorem joinPath_eq {dir name : String} (hdir : ¬(dir = "" ∨ dir.endsWith "/")) (hname : ¬name.startsWith "/") :
    joinPath dir name = dir ++ "/" ++ name := by
  rw [joinPath, if_neg hname, if_neg hdir]

/-- The files of a project and the one for all projects, in directories written without a slash at the end. -/
theorem candidates_eq {dir g : String} (hdir : ¬(dir = "" ∨ dir.endsWith "/")) (hg : ¬(g = "" ∨ g.endsWith "/")) :
    candidates dir none (some g) =
      [project (dir ++ "/" ++ "modgraph-lint.toml"), project (dir ++ "/" ++ ".modgraph-lint.toml"),
       global (g ++ "/" ++ "config.toml"), builtin] := by
  show [project (joinPath dir "modgraph-lint.toml"), project (joinPath dir ".modgraph-lint.toml"),
    global (joinPath g "config.toml"), builtin] = _
  rw [joinPath_eq hdir (by decide +kernel), joinPath_eq hdir (by decide +kernel), joinPath_eq hg (by decide +kernel)]

example : candidates "app" none (some "/etc/lint") =
    [project "app/modgraph-lint.toml", project "app/.modgraph-lint.toml", global "/etc/lint/config.toml", builtin] := by
  decide +kernel

/-- Whether two worlds hold the same at the path of a source. -/
def SameFile (w w' : World) (s : RuleSource) : Prop :=
  ∀ path, s.path? = some path → w'.look path = w.look path

/-- The source of the rules is the first candidate that stands. -/
theorem find?_candidates (w : World) (dir : String) (named? : Option String) :
    (candidates dir named? (globalDirectory? w)).find? (stands w) = some (find w dir named?) := by
  cases named? with
  | some path => rfl
  | none =>
    simp only [candidates, find, projectPaths, globalPath?]
    cases hf : (w.look (joinPath dir "modgraph-lint.toml")).isFile
    case true => simp [stands, hf]
    cases hs : (w.look (joinPath dir ".modgraph-lint.toml")).isFile
    case true => simp [stands, hf, hs]
    cases globalDirectory? w with
    | none => simp [stands, hf, hs]
    | some g => cases hg : (w.look (joinPath g "config.toml")).isFile <;> simp [stands, Option.filter, hf, hs, hg]

/-- A candidate is taken if it stands and none before it does. -/
theorem find_eq {w : World} {dir : String} {named? : Option String} {s : RuleSource} {before behind : List RuleSource}
    (hsplit : candidates dir named? (globalDirectory? w) = before ++ s :: behind)
    (hbefore : ∀ c ∈ before, c.stands w = false) (hstands : s.stands w = true) : find w dir named? = s := by
  have hfirst : (candidates dir named? (globalDirectory? w)).find? (stands w) = some s :=
    List.find?_eq_some_iff_append.mpr ⟨hstands, before, behind, hsplit, fun c hc => by simp [hbefore c hc]⟩
  exact Option.some.inj ((find?_candidates w dir named?).symm.trans hfirst)

/-- Whether a source stands is seen from its file. -/
theorem SameFile.stands_eq {w w' : World} {s : RuleSource} (h : SameFile w w' s) : s.stands w' = s.stands w := by
  cases s with
  | named path => rfl
  | project path => simp only [stands, h path rfl]
  | global path => simp only [stands, h path rfl]
  | builtin => rfl

/-! ## Loading -/

theorem text?_eq_of_path? {w : World} {s : RuleSource} {path : String} (h : s.path? = some path) :
    s.text? w = (w.look path).text? := by
  cases s <;> cases h <;> rfl

theorem text?_of_path?_eq_none {w : World} {s : RuleSource} (h : s.path? = none) : s.text? w = some "" := by
  cases s <;> cases h
  rfl

/-- What is noted on the way has no effect on the rules. -/
theorem load_snd_of_text? {w : World} {s : RuleSource} {text : String} (h : s.text? w = some text) :
    (s.load w).2 = (RuleSet.parse text).mapError .config := by
  simp only [load, h, RuleSet.parse, bind, Except.bind]
  cases Config.parse text with
  | error e => rfl
  | ok c =>
    dsimp only
    cases c.load <;> rfl

/-- A source gives the rules in its file. -/
theorem load_snd (w : World) (s : RuleSource) : (s.load w).2 = s.rules w := by
  cases hp : s.path? with
  | none =>
    rw [load_snd_of_text? (text?_of_path?_eq_none hp), RuleSet.parse_empty, rules, hp]
    rfl
  | some path =>
    have ht : s.text? w = (w.look path).text? := text?_eq_of_path? hp
    simp only [rules, hp, RuleSet.ofFile]
    cases hl : (w.look path).text? with
    | none => simp only [load, ht, hl]
    | some text =>
      rw [load_snd_of_text? (ht.trans hl)]

/-- A source gives the same in worlds that agree on its file. -/
theorem SameFile.load_eq {w w' : World} {s : RuleSource} (h : SameFile w w' s) : s.load w' = s.load w := by
  have ht : s.text? w' = s.text? w := by
    cases hp : s.path? with
    | none => rw [text?_of_path?_eq_none hp, text?_of_path?_eq_none hp]
    | some path => rw [text?_eq_of_path? hp, text?_eq_of_path? hp, h path hp]
  simp only [load, ht]

/-- A file that cannot be read gives no rules. -/
theorem load_of_unreadable {w : World} {s : RuleSource} {path : String} (hpath : s.path? = some path)
    (hread : (w.look path).text? = none) : (s.load w).2 = .error .configUnreadable := by
  simp only [load_snd, rules, hpath, RuleSet.ofFile, hread]

/-- A file whose text does not check gives no rules. -/
theorem load_of_invalid {w : World} {s : RuleSource} {path text : String} {e : ConfigError}
    (hpath : s.path? = some path) (hread : (w.look path).text? = some text) (hparse : RuleSet.parse text = .error e) :
    (s.load w).2 = .error (.config e) := by
  simp only [load_snd, rules, hpath, RuleSet.ofFile, hread, hparse, Except.mapError]

/-- The rules of a run are those of the first candidate `s` that stands. They are the same in every world whose
candidates begin alike and that holds the same in the files up to that of `s`. If the file of `s` cannot be read, or
its text does not check, then there is an error and no rules. -/
theorem load_first (w : World) (dir : String) (named? : Option String) :
    ∃ before s behind, candidates dir named? (globalDirectory? w) = before ++ s :: behind ∧
      (∀ c ∈ before, c.stands w = false) ∧ s.stands w = true ∧
      find w dir named? = s ∧ (s.load w).2 = s.rules w ∧
      (∀ w', before ++ [s] <+: candidates dir named? (globalDirectory? w') →
        (∀ c ∈ before ++ [s], SameFile w w' c) → find w' dir named? = s ∧ s.load w' = s.load w) ∧
      ∀ path, s.path? = some path →
        ((w.look path).text? = none → (s.load w).2 = .error .configUnreadable) ∧
        ∀ text e, (w.look path).text? = some text → RuleSet.parse text = .error e →
          (s.load w).2 = .error (.config e) := by
  obtain ⟨hstands, before, behind, hsplit, hbefore⟩ :=
    List.find?_eq_some_iff_append.mp (find?_candidates w dir named?)
  have hbefore : ∀ c ∈ before, c.stands w = false := fun c hc => by simpa using hbefore c hc
  refine ⟨before, find w dir named?, behind, hsplit, hbefore, hstands, rfl, load_snd w _, ?_, fun path hpath =>
    ⟨load_of_unreadable hpath, fun text e => load_of_invalid hpath⟩⟩
  rintro w' ⟨tail, htail⟩ hsame
  have hlast : SameFile w w' (find w dir named?) := hsame _ (by simp)
  have hsplit' : candidates dir named? (globalDirectory? w') = before ++ find w dir named? :: tail := by
    simp [← htail]
  have hbefore' : ∀ c ∈ before, c.stands w' = false := by
    intro c hc
    rw [(hsame c (by simp [hc])).stands_eq, hbefore c hc]
  exact ⟨find_eq hsplit' hbefore' (hlast.stands_eq.trans hstands), hlast.load_eq⟩

end RuleSource

end ImportLint
