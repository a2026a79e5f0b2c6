import ImportLint.Check
import ImportLint.Proofs.Document.Value
import ImportLint.Proofs.Report.Sorted
import ImportLint.Proofs.Report.Written

/-!
# Reports that are read

Reports are sorted when they are made (`Report.IsSorted`). Nothing sorts a report that is read: its violations are the
items of the list that the text gives for them (`Report.exists_items_of_parse`). So of all ways to obtain a report
(`Report.Origin`) reading is the only one that need not give a sorted one, and it does so if and only if the items of the
text stand in order (`Report.sorted_unless_read`).
-/

namespace ImportLint

open Document (Reader Shape Tree)

/-- A list is read item by item, up to its closing bracket. -/
theorem Document.Reader.list_eq_ok_iff {α : Type} {r : Reader α} {t : Tree} {as : List α} :
    Reader.list r t = .ok as ↔ ∃ items, t = .list items .closed ∧ List.Forall₂ (fun u a => r u = .ok a) items as := by
  constructor
  · intro h
    cases t with
    | list items stop =>
      obtain ⟨xs, hxs, h⟩ := bind_eq_ok_iff.mp h
      cases stop with
      | closed =>
        obtain rfl : xs = as := Except.ok.inj h
        exact ⟨items, rfl, mapM_eq_ok_iff.mp hxs⟩
      | beforeComma b => cases h
      | beforeKey b => cases h
    | _ => cases h
  · rintro ⟨items, rfl, h⟩
    exact bind_eq_ok_iff.mpr ⟨as, mapM_eq_ok_iff.mpr h, rfl⟩

namespace Report

/-- The violations of a report stand in order: each comes before those behind it, or agrees with them in all that the
order looks at. -/
def IsSorted (r : Report) : Prop := r.violations.Pairwise fun a b => a.Before b ∨ a.sortKey = b.sortKey

theorem isSorted_iff_mayPrecede (r : Report) : r.IsSorted ↔ r.violations.Pairwise (·.mayPrecede ·) := by
  simp only [IsSorted, Violation.mayPrecede_iff]

theorem isSorted_ofViolations (vs : List Violation) (m e : Nat) : (ofViolations vs m e).IsSorted := by
  rw [isSorted_iff_mayPrecede]
  exact sorted_ofViolations vs m e

/-- The violations of a report are those of its first field, whatever the other fields say. -/
theorem shows_violations :
    shape.Shows (.need "violations" (Reader.list Violation.shape.reader) fun vs r => { r with violations := vs })
      (Reader.list Violation.shape.reader) violations where
  mem := List.mem_cons_self
  read a t b h := by
    obtain ⟨vs, hvs, rfl⟩ := map_eq_ok_iff.mp h
    exact hvs
  other g hg hne a t b h := by
    simp only [shape, List.mem_cons, List.not_mem_nil, or_false] at hg
    obtain rfl | rfl | rfl := hg
    · exact absurd rfl hne
    · obtain ⟨n, -, rfl⟩ := map_eq_ok_iff.mp h
      rfl
    · obtain ⟨n, -, rfl⟩ := map_eq_ok_iff.mp h
      rfl

/-- The violations of a report that is read are the items of a list in its text, in the order of the text. -/
theorem exists_items_of_parse {text : String} {r : Report} (h : parse text = .ok r) :
    ∃ items, shape.Gives (Json.parse text).1 "violations" (.list items .closed) ∧
      List.Forall₂ (fun t v => Violation.shape.reader t = .ok v) items r.violations := by
  obtain ⟨hread, -⟩ := Json.read_eq_ok_iff.mp h
  obtain ⟨u, hu, hvs⟩ := shows_violations.exists_gives_of_reader shape_lawful.names rfl hread
  obtain ⟨items, rfl, hitems⟩ := Reader.list_eq_ok_iff.mp hvs
  exact ⟨items, hu, hitems⟩

/-- The violations that are read from the items of a list stand in order. -/
def ItemsSorted (items : List Tree) : Prop :=
  (items.map Violation.shape.reader).Pairwise fun x y =>
    ∀ a b, x = .ok a → y = .ok b → a.Before b ∨ a.sortKey = b.sortKey

theorem isSorted_iff_itemsSorted {r : Report} {items : List Tree}
    (h : List.Forall₂ (fun t v => Violation.shape.reader t = .ok v) items r.violations) :
    r.IsSorted ↔ ItemsSorted items := by
  have hsame : r.violations.map Except.ok = items.map Violation.shape.reader :=
    forall₂_iff_map_eq.mp (List.forall₂_map_left_iff.mpr (h.imp fun _ _ hread => hread.symm))
  rw [ItemsSorted, ← hsame, List.pairwise_map, IsSorted]
  simp

/-- A way to obtain a report. -/
inductive Origin
  | violations (vs : List Violation) (modules edges : Nat)
  | check (s : RuleSet) (g : Graph)
  | blank
  | text (t : String)

/-- What is obtained. -/
def Origin.report : Origin → Except Document.ReadError Report
  | .violations vs m e => .ok (ofViolations vs m e)
  | .check s g => .ok (s.check g)
  | .blank => .ok Report.shape.blank
  | .text t => Report.parse t

/-- A report that is not read from a text is sorted. One that is read has the violations that the text lists, one by one,
and is sorted if and only if they stand in order there. -/
theorem sorted_unless_read (o : Origin) {r : Report} (h : o.report = .ok r) :
    ((∀ text, o ≠ .text text) → r.IsSorted) ∧
    ∀ text, o = .text text →
      ∃ items, shape.Gives (Json.parse text).1 "violations" (.list items .closed) ∧
        List.Forall₂ (fun t v => Violation.shape.reader t = .ok v) items r.violations ∧
        (r.IsSorted ↔ ItemsSorted items) := by
  constructor
  · intro hmade
    cases o with
    | violations vs m e => exact Except.ok.inj h ▸ isSorted_ofViolations vs m e
    | check s g => exact Except.ok.inj h ▸ isSorted_ofViolations _ _ _
    | blank => exact Except.ok.inj h ▸ List.Pairwise.nil
    | text text => exact absurd rfl (hmade text)
  · rintro text rfl
    obtain ⟨items, hgives, hreads⟩ := exists_items_of_parse h
    exact ⟨items, hgives, hreads, isSorted_iff_itemsSorted hreads⟩

/-- An error behind an info. -/
def disordered : Report :=
  { violations :=
      [{ rule := "no-legacy", severity := .info, source := "a", target? := none, message := "m", comment? := none },
       { rule := "no-circular", severity := .error, source := "b", target? := none, message := "m", comment? := none }]
    modulesChecked := 2
    edgesChecked := 1 }

def disorderedText : String :=
  "\x7b\"violations\":[" ++
    "\x7b\"rule\":\"no-legacy\",\"severity\":\"info\",\"from\":\"a\",\"message\":\"m\"\x7d," ++
    "\x7b\"rule\":\"no-circular\",\"severity\":\"error\",\"from\":\"b\",\"message\":\"m\"\x7d]," ++
    "\"modules_checked\":2,\"edges_checked\":1\x7d"

theorem reads_disorderedText : parse disorderedText = .ok disordered := by
  have htext : disordered.json.render = disorderedText := by cbv
  rw [← htext]
  exact Json.Value.read_render (reader_json (by decide) (by decide))

theorem not_isSorted_disordered : ¬disordered.IsSorted := by
  rw [isSorted_iff_mayPrecede]
  decide

/-- The items of the text do not stand in order. -/
theorem disordered_as_written :
    (Origin.text disorderedText).report = .ok disordered ∧
      ∃ items, shape.Gives (Json.parse disorderedText).1 "violations" (.list items .closed) ∧ ¬ItemsSorted items := by
  have hread : (Origin.text disorderedText).report = .ok disordered := reads_disorderedText
  obtain ⟨items, hgives, -, hsorted⟩ := (sorted_unless_read _ hread).2 disorderedText rfl
  exact ⟨hread, items, hgives, fun h => not_isSorted_disordered (hsorted.mpr h)⟩

/-- Reading keeps the order of a text with an error behind an info. -/
theorem parse_disorderedText : parse disorderedText = .ok disordered ∧ ¬disordered.IsSorted :=
  ⟨reads_disorderedText, not_isSorted_disordered⟩

end Report

end ImportLint
