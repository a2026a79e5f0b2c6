import ImportLint.Config.Load
import Mathlib.Data.List.Induction
import Mathlib.Data.List.Nodup
import Mathlib.Tactic.Common

/-!
# Merging rules with a preset

What becomes of the rules of a configuration and of a preset, without the order in which they are gone through
(`mergeEntries`): each rule of the preset is replaced by the rule of the configuration with its name, if there is one,
and the other rules of the configuration come behind. `Merge.Holds` is what every step of merging keeps, and merging
fails if and only if a name is used twice in the configuration (`Config.mergedRules_eq`). A rule in the place of one with
the same name takes its place among the merged rules as well (`mergeEntries_replace`).
-/

namespace ImportLint

/-! ## Repeated names -/

/-- The names that occur more than once, in the order in which they occur for the second time. -/
def repeatedNames (names : List String) : List String :=
  (names.zipIdx.filter fun (n, i) => (names.take i).count n = 1).map Prod.fst

theorem repeatedNames_concat (names : List String) (n : String) :
    repeatedNames (names ++ [n]) = repeatedNames names ++ if names.count n = 1 then [n] else [] := by
  have hold : (names.zipIdx.filter fun (x, i) => ((names ++ [n]).take i).count x = 1) =
      names.zipIdx.filter fun (x, i) => (names.take i).count x = 1 := by
    refine List.filter_congr fun p hp => ?_
    have hlt : p.2 < names.length := by simpa using List.snd_lt_of_mem_zipIdx hp
    show decide (((names ++ [n]).take p.2).count p.1 = 1) = decide ((names.take p.2).count p.1 = 1)
    rw [List.take_append_of_le_length (Nat.le_of_lt hlt)]
  have hnew : (([n].zipIdx names.length).filter fun (x, i) => ((names ++ [n]).take i).count x = 1).map Prod.fst =
      if names.count n = 1 then [n] else [] := by
    by_cases h : names.count n = 1 <;> simp [h]
  rw [repeatedNames, List.zipIdx_append, List.filter_append, List.map_append, Nat.zero_add, hold, hnew, repeatedNames]

theorem mem_repeatedNames (names : List String) (n : String) : n ∈ repeatedNames names ↔ 1 < names.count n := by
  induction names using List.reverseRecOn with
  | nil => simp [repeatedNames]
  | append_singleton names x ih =>
    rw [repeatedNames_concat, List.mem_append, ih, List.count_append, List.count_singleton]
    by_cases hx : x = n
    · subst hx
      by_cases h : names.count x = 1
      · simp [h]
      · have hnext : 1 < names.count x ↔ 1 < names.count x + 1 := by omega
        simpa [h] using hnext
    · have hne : n ∉ if names.count x = 1 then [x] else [] := by
        split_ifs <;> simp [Ne.symm hx]
      simp [hx, hne]

/-- A name stands for the second time only once. -/
theorem repeatedNames_nodup (names : List String) : (repeatedNames names).Nodup := by
  induction names using List.reverseRecOn with
  | nil => exact List.nodup_nil
  | append_singleton names x ih =>
    rw [repeatedNames_concat]
    by_cases hx : names.count x = 1
    · have hnew : x ∉ repeatedNames names := by
        rw [mem_repeatedNames, hx]
        omega
      rw [if_pos hx]
      simpa [List.nodup_append, ih] using fun n hn => ne_of_mem_of_not_mem hn hnew
    · rw [if_neg hx, List.append_nil]
      exact ih

theorem repeatedNames_eq_nil_iff (names : List String) : repeatedNames names = [] ↔ names.Nodup := by
  rw [List.eq_nil_iff_forall_not_mem, List.nodup_iff_count_le_one]
  simp only [mem_repeatedNames, Nat.not_lt]

/-! ## The merged rules -/

/-- The entry of a list that has the name of an entry of a preset; if there is none, the entry of the preset. -/
def RuleEntry.replacement (rs : List RuleEntry) (b : RuleEntry) : RuleEntry :=
  (rs.find? fun r => r.name == b.name).getD b

/-- The rules of a preset, each replaced by the rule with its name if there is one, and behind them the rules with names
of their own. -/
def mergeEntries (base rs : List RuleEntry) : List RuleEntry :=
  base.map (RuleEntry.replacement rs) ++ rs.filter fun r => r.name ∉ base.map RuleEntry.name

namespace RuleEntry

variable (rs : List RuleEntry) (b r : RuleEntry)

@[simp] theorem name_replacement : (b.replacement rs).name = b.name := by
  rw [replacement]
  cases h : rs.find? fun r => r.name == b.name with
  | none => rfl
  | some r => simpa using List.find?_some h

theorem replacement_concat :
    b.replacement (rs ++ [r]) =
      if b.name = r.name ∧ r.name ∉ rs.map name then r else b.replacement rs := by
  rw [replacement, List.find?_append, replacement]
  cases h : rs.find? fun x => x.name == b.name with
  | some x =>
    have hx : x ∈ rs := List.mem_of_find?_eq_some h
    have hname : x.name = b.name := by simpa using List.find?_some h
    rw [if_neg fun hand => hand.2 (hand.1 ▸ hname ▸ List.mem_map_of_mem hx)]
    rfl
  | none =>
    have hnone : b.name ∉ rs.map name := fun hmem => by
      obtain ⟨x, hx, hname⟩ := List.mem_map.mp hmem
      exact absurd (beq_iff_eq.mpr hname) (List.find?_eq_none.mp h x hx)
    by_cases hb : b.name = r.name
    · rw [if_pos ⟨hb, hb ▸ hnone⟩]
      simp [hb]
    · rw [if_neg fun hand => hb hand.1]
      simp [Ne.symm hb]

variable {rs : List RuleEntry} {b r : RuleEntry}

theorem replacement_of_mem (hn : (rs.map name).Nodup) (hr : r ∈ rs) (hname : r.name = b.name) :
    b.replacement rs = r := by
  rw [replacement]
  cases hf : rs.find? fun x => x.name == b.name with
  | none => exact absurd (beq_iff_eq.mpr hname) (List.find?_eq_none.mp hf r hr)
  | some x =>
    have hx : x.name = b.name := by simpa using List.find?_some hf
    exact List.inj_on_of_nodup_map hn (List.mem_of_find?_eq_some hf) hr (hx.trans hname.symm)

theorem replacement_of_not_mem (h : b.name ∉ rs.map name) : b.replacement rs = b := by
  have hf : (rs.find? fun x => x.name == b.name) = none :=
    List.find?_eq_none.mpr fun x hx hname => h (beq_iff_eq.mp hname ▸ List.mem_map_of_mem hx)
  rw [replacement, hf, Option.getD_none]

end RuleEntry

namespace Merge

/-- An entry of the preset in the course of merging, after some entries of the configuration: its replacement, with
whether there is one. -/
def slot (rs : List RuleEntry) (b : RuleEntry) : RuleEntry × Bool :=
  (b.replacement rs, decide (b.name ∈ rs.map RuleEntry.name))

theorem slot_concat_of_mem {rs : List RuleEntry} {r : RuleEntry} (hr : r.name ∈ rs.map RuleEntry.name)
    (b : RuleEntry) : slot (rs ++ [r]) b = slot rs b := by
  rw [slot, b.replacement_concat, if_neg fun hand => hand.2 hr, slot, List.map_append, List.map_singleton]
  congr 1
  simp only [List.mem_append, List.mem_singleton, decide_eq_decide]
  exact or_iff_left_of_imp fun hbr => hbr ▸ hr

theorem slot_concat {rs : List RuleEntry} {r : RuleEntry} (hr : r.name ∉ rs.map RuleEntry.name) (b : RuleEntry) :
    slot (rs ++ [r]) b = if b.name = r.name then (r, true) else slot rs b := by
  rw [slot, b.replacement_concat, slot, List.map_append, List.map_singleton]
  by_cases hbr : b.name = r.name
  · rw [if_pos ⟨hbr, hr⟩, if_pos hbr]
    simp [hbr]
  · rw [if_neg fun hand => hbr hand.1, if_neg hbr]
    simp [hbr]

/-- What merging has done after some entries of the configuration. -/
structure Holds (base rs : List RuleEntry) (m : Merge) : Prop where
  preset : m.preset = base.map (slot rs)
  mem_added : ∀ n, n ∈ m.added.map RuleEntry.name ↔ n ∈ rs.map RuleEntry.name ∧ n ∉ base.map RuleEntry.name
  added : (rs.map RuleEntry.name).Nodup → m.added = rs.filter fun r => r.name ∉ base.map RuleEntry.name
  repeated : m.repeated.reverse = repeatedNames (rs.map RuleEntry.name)

variable {base rs : List RuleEntry} {m : Merge} (r : RuleEntry)

theorem holds_start (base : List RuleEntry) : (start base).Holds base [] where
  preset := by simp [start, slot, RuleEntry.replacement]
  mem_added n := by simp [start]
  added _ := rfl
  repeated := rfl

namespace Holds

/-- What a step of merging does: a name that is used again is noted, a name of the preset takes its place there, and any
other name comes last. -/
theorem add_cases (h : m.Holds base rs) :
    (r.name ∈ rs.map RuleEntry.name ∧ m.add r = m.addRepeated r.name) ∨
    (r.name ∉ rs.map RuleEntry.name ∧ r.name ∈ base.map RuleEntry.name ∧
      m.add r = { m with preset := m.preset.map fun p => if p.1.name = r.name then (r, true) else p }) ∨
    (r.name ∉ rs.map RuleEntry.name ∧ r.name ∉ base.map RuleEntry.name ∧
      m.add r = { m with added := m.added ++ [r] }) := by
  have hfind : (m.preset.find? fun p => p.1.name == r.name) =
      (base.find? fun b => b.name == r.name).map (slot rs) := by
    rw [h.preset, List.find?_map]
    simp only [Function.comp_def, slot, RuleEntry.name_replacement]
  have hadded : (m.added.any fun a => a.name == r.name) = true ↔ r.name ∈ m.added.map RuleEntry.name := by
    simp
  rw [add, hfind]
  cases hb : base.find? fun b => b.name == r.name with
  | some b =>
    have hname : b.name = r.name := by simpa using List.find?_some hb
    have hbase : r.name ∈ base.map RuleEntry.name := hname ▸ List.mem_map_of_mem (List.mem_of_find?_eq_some hb)
    rw [Option.map_some, slot, hname]
    by_cases hr : r.name ∈ rs.map RuleEntry.name
    · rw [decide_eq_true hr]
      exact Or.inl ⟨hr, rfl⟩
    · rw [decide_eq_false hr]
      exact Or.inr (Or.inl ⟨hr, hbase, rfl⟩)
  | none =>
    have hbase : r.name ∉ base.map RuleEntry.name := fun hmem => by
      obtain ⟨b, hbm, hname⟩ := List.mem_map.mp hmem
      exact absurd (beq_iff_eq.mpr hname) (List.find?_eq_none.mp hb b hbm)
    rw [Option.map_none]
    by_cases hr : r.name ∈ rs.map RuleEntry.name
    · exact Or.inl ⟨hr, if_pos (hadded.mpr ((h.mem_added _).mpr ⟨hr, hbase⟩))⟩
    · exact Or.inr (Or.inr ⟨hr, hbase, if_neg fun ha => hr ((h.mem_added _).mp (hadded.mp ha)).1⟩)

/-- A name that is used again is noted once, in its place. -/
theorem addRepeated (h : m.Holds base rs) (hr : r.name ∈ rs.map RuleEntry.name) :
    (m.addRepeated r.name).Holds base (rs ++ [r]) := by
  have hkeep : (m.addRepeated r.name).preset = m.preset ∧ (m.addRepeated r.name).added = m.added := by
    unfold Merge.addRepeated
    split_ifs <;> exact ⟨rfl, rfl⟩
  have hnames : (rs ++ [r]).map RuleEntry.name = rs.map RuleEntry.name ++ [r.name] := by simp
  refine
    { preset := ?_
      mem_added := fun n => ?_
      added := fun hn => ?_
      repeated := ?_ }
  · rw [hkeep.1, h.preset, funext (slot_concat_of_mem hr)]
  · rw [hkeep.2, h.mem_added, hnames, List.mem_append, List.mem_singleton]
    exact and_congr_left fun _ => (or_iff_left_of_imp fun hnr => hnr ▸ hr).symm
  · rw [hnames, List.nodup_append] at hn
    exact absurd rfl (hn.2.2 _ hr _ List.mem_cons_self)
  · have hmem : m.repeated.contains r.name = true ↔ 1 < (rs.map RuleEntry.name).count r.name := by
      rw [List.contains_iff_mem, ← List.mem_reverse, h.repeated, mem_repeatedNames]
    have hpos : 0 < (rs.map RuleEntry.name).count r.name := List.count_pos_iff.mpr hr
    rw [hnames, repeatedNames_concat, ← h.repeated, Merge.addRepeated]
    by_cases hc : 1 < (rs.map RuleEntry.name).count r.name
    · rw [if_pos (hmem.mpr hc), if_neg (by omega), List.append_nil]
    · rw [if_neg (mt hmem.mp hc), if_pos (by omega), List.reverse_cons]

/-- Nothing is noted about a new name. -/
theorem repeated_concat (h : m.Holds base rs) (hr : r.name ∉ rs.map RuleEntry.name) :
    m.repeated.reverse = repeatedNames ((rs ++ [r]).map RuleEntry.name) := by
  rw [List.map_append, List.map_singleton, repeatedNames_concat, h.repeated, List.count_eq_zero_of_not_mem hr]
  simp

/-- A new name of the preset takes its place there. -/
theorem replace (h : m.Holds base rs) (hr : r.name ∉ rs.map RuleEntry.name) (hb : r.name ∈ base.map RuleEntry.name) :
    Holds base (rs ++ [r])
      { m with preset := m.preset.map fun p => if p.1.name = r.name then (r, true) else p } := by
  have hnames : (rs ++ [r]).map RuleEntry.name = rs.map RuleEntry.name ++ [r.name] := by simp
  refine
    { preset := ?_
      mem_added := fun n => ?_
      added := fun hn => ?_
      repeated := h.repeated_concat r hr }
  · show m.preset.map _ = _
    rw [h.preset, List.map_map]
    refine List.map_congr_left fun b _ => ?_
    rw [slot_concat hr, Function.comp_apply, slot, RuleEntry.name_replacement]
  · show n ∈ m.added.map RuleEntry.name ↔ _
    rw [h.mem_added, hnames, List.mem_append, List.mem_singleton]
    exact and_congr_left fun hn => (or_iff_left fun hnr : n = r.name => hn (hnr ▸ hb)).symm
  · show m.added = _
    rw [h.added (hnames ▸ hn).of_append_left, List.filter_append, List.filter_singleton,
      decide_eq_false (not_not.mpr hb)]
    exact (List.append_nil _).symm

/-- A new name that is not of the preset comes last. -/
theorem append (h : m.Holds base rs) (hr : r.name ∉ rs.map RuleEntry.name) (hb : r.name ∉ base.map RuleEntry.name) :
    Holds base (rs ++ [r]) { m with added := m.added ++ [r] } := by
  have hnames : (rs ++ [r]).map RuleEntry.name = rs.map RuleEntry.name ++ [r.name] := by simp
  refine
    { preset := ?_
      mem_added := fun n => ?_
      added := fun hn => ?_
      repeated := h.repeated_concat r hr }
  · show m.preset = _
    rw [h.preset]
    refine List.map_congr_left fun b hbm => ?_
    have hbr : b.name ≠ r.name := fun hbr => hb (hbr ▸ List.mem_map_of_mem hbm)
    rw [slot_concat hr, if_neg hbr]
  · show n ∈ (m.added ++ [r]).map RuleEntry.name ↔ _
    rw [List.map_append, List.mem_append, h.mem_added, hnames, List.mem_append, List.map_singleton,
      List.mem_singleton, or_and_right]
    exact or_congr_right (iff_self_and.mpr fun hnr => hnr ▸ hb)
  · show m.added ++ [r] = _
    rw [h.added (hnames ▸ hn).of_append_left, List.filter_append, List.filter_singleton, decide_eq_true hb]
    rfl

/-- Every step keeps what merging does. -/
theorem add (h : m.Holds base rs) : (m.add r).Holds base (rs ++ [r]) := by
  rcases h.add_cases r with ⟨hr, he⟩ | ⟨hr, hb, he⟩ | ⟨hr, hb, he⟩
  · exact he ▸ h.addRepeated r hr
  · exact he ▸ h.replace r hr hb
  · exact he ▸ h.append r hr hb

end Holds

theorem holds_foldl (base rs : List RuleEntry) : (rs.foldl Merge.add (start base)).Holds base rs := by
  induction rs using List.reverseRecOn with
  | nil => exact holds_start base
  | append_singleton rs r ih =>
    rw [List.foldl_append, List.foldl_cons, List.foldl_nil]
    exact ih.add r

end Merge

namespace Config

/-- Merging fails with the names that the configuration repeats; if it repeats none, it gives the merged rules. -/
theorem mergedRules_eq (c : Config) (p : Preset) :
    c.mergedRules p =
      match repeatedNames (c.rules.map RuleEntry.name) with
      | [] => .ok (mergeEntries p.rules c.rules)
      | names => .error (.inconsistent (names.map .duplicateRule)) := by
  have h := Merge.holds_foldl p.rules c.rules
  have hrepeated : (c.rules.foldl Merge.add (.start p.rules)).repeated =
      (repeatedNames (c.rules.map RuleEntry.name)).reverse := by
    rw [← h.repeated, List.reverse_reverse]
  rw [mergedRules, hrepeated]
  cases hn : repeatedNames (c.rules.map RuleEntry.name) with
  | nil =>
    have hadded := h.added ((repeatedNames_eq_nil_iff _).mp hn)
    simp only [List.reverse_nil, List.isEmpty_nil, if_true, Merge.rules, h.preset, hadded, mergeEntries, List.map_map]
    rfl
  | cons n names => simp

end Config

/-! ## Names -/

theorem Preset.names_nodup (p : Preset) : (p.rules.map RuleEntry.name).Nodup := by
  cases p <;> decide

/-- No two merged rules share a name. -/
theorem mergeEntries_names_nodup {base rs : List RuleEntry} (hb : (base.map RuleEntry.name).Nodup)
    (hr : (rs.map RuleEntry.name).Nodup) : ((mergeEntries base rs).map RuleEntry.name).Nodup := by
  have hbase : (base.map (RuleEntry.replacement rs)).map RuleEntry.name = base.map RuleEntry.name := by
    rw [List.map_map]
    exact List.map_congr_left fun b _ => b.name_replacement rs
  rw [mergeEntries, List.map_append, hbase]
  refine hb.append (hr.sublist (List.filter_sublist.map _)) fun n hn hn' => ?_
  obtain ⟨r, hr, rfl⟩ := List.mem_map.mp hn'
  exact of_decide_eq_true (List.mem_filter.mp hr).2 hn

/-- No rule of the configuration is lost: it takes the place of a rule of the preset, or stands behind them. -/
theorem mem_mergeEntries {base rs : List RuleEntry} {r : RuleEntry} (hn : (rs.map RuleEntry.name).Nodup) (hr : r ∈ rs) :
    r ∈ mergeEntries base rs := by
  rw [mergeEntries, List.mem_append]
  by_cases hb : r.name ∈ base.map RuleEntry.name
  · left
    obtain ⟨b, hb, hname⟩ := List.mem_map.mp hb
    rw [← RuleEntry.replacement_of_mem hn hr hname.symm]
    exact List.mem_map_of_mem hb
  · right
    exact List.mem_filter.mpr ⟨hr, decide_eq_true hb⟩

/-- A change of rules that keeps the names, and that is none for the rules of the preset that stay, changes the merged
rules in the same way. -/
theorem mergeEntries_map {base rs : List RuleEntry} {f : RuleEntry → RuleEntry} (hname : ∀ r, (f r).name = r.name)
    (hbase : ∀ b ∈ base, b.name ∉ rs.map RuleEntry.name → f b = b) :
    mergeEntries base (rs.map f) = (mergeEntries base rs).map f := by
  have hreplaced : ∀ b ∈ base, b.replacement (rs.map f) = f (b.replacement rs) := by
    intro b hb
    have hfind : (rs.map f).find? (fun r => r.name == b.name) = (rs.find? fun r => r.name == b.name).map f := by
      rw [List.find?_map]
      simp only [Function.comp_def, hname]
    rw [RuleEntry.replacement, hfind, RuleEntry.replacement]
    cases hr : rs.find? fun r => r.name == b.name with
    | some r => rfl
    | none =>
      have hnone : b.name ∉ rs.map RuleEntry.name := by
        intro hmem
        obtain ⟨x, hx, hxb⟩ := List.mem_map.mp hmem
        exact absurd (beq_iff_eq.mpr hxb) (List.find?_eq_none.mp hr x hx)
      exact (hbase b hb hnone).symm
  have hadded : (rs.map f).filter (fun r => r.name ∉ base.map RuleEntry.name) =
      (rs.filter fun r => r.name ∉ base.map RuleEntry.name).map f := by
    rw [List.filter_map]
    simp only [Function.comp_def, hname]
  rw [mergeEntries, List.map_congr_left hreplaced, hadded, mergeEntries, List.map_append, List.map_map]
  rfl

/-- Where no name is used twice, a change of the entries with one name is a change of one entry. -/
theorem RuleEntry.map_replace {xs ys : List RuleEntry} {e : RuleEntry} (hn : ((xs ++ e :: ys).map name).Nodup)
    (e' : RuleEntry) : ((xs ++ e :: ys).map fun r => if r.name = e.name then e' else r) = xs ++ e' :: ys := by
  rw [List.map_append, List.map_cons, List.nodup_middle, List.nodup_cons, ← List.map_append] at hn
  have hkeep : ∀ zs : List RuleEntry, zs ⊆ xs ++ ys → (zs.map fun r => if r.name = e.name then e' else r) = zs := by
    intro zs hzs
    have hname : ∀ r ∈ zs, (if r.name = e.name then e' else r) = r := by
      intro r hr
      refine if_neg fun heq => hn.1 ?_
      exact heq ▸ List.mem_map_of_mem (hzs hr)
    rw [List.map_congr_left hname, List.map_id']
  rw [List.map_append, List.map_cons, if_pos rfl, hkeep xs (List.subset_append_left _ _),
    hkeep ys (List.subset_append_right _ _)]

/-- An entry in the place of one with the same name takes its place among the merged rules as well. -/
theorem mergeEntries_replace {base before behind : List RuleEntry} {e : RuleEntry}
    (hb : (base.map RuleEntry.name).Nodup) (hn : ((before ++ e :: behind).map RuleEntry.name).Nodup) :
    ∃ xs ys, mergeEntries base (before ++ e :: behind) = xs ++ e :: ys ∧
      ∀ e', e'.name = e.name → mergeEntries base (before ++ e' :: behind) = xs ++ e' :: ys := by
  have hmem : e ∈ before ++ e :: behind := List.mem_append_right _ List.mem_cons_self
  have hkept : e ∈ mergeEntries base (before ++ e :: behind) := mem_mergeEntries hn hmem
  obtain ⟨xs, ys, hmerged⟩ := List.append_of_mem hkept
  refine ⟨xs, ys, hmerged, fun e' hname => ?_⟩
  have hnames := mergeEntries_names_nodup hb hn
  rw [hmerged] at hnames
  rw [← RuleEntry.map_replace hn e', ← RuleEntry.map_replace hnames e', ← hmerged]
  apply mergeEntries_map
  · intro r
    split_ifs with hr
    · exact hname.trans hr.symm
    · rfl
  · intro b _ hnot
    refine if_neg fun heq => hnot ?_
    exact heq ▸ List.mem_map_of_mem hmem

end ImportLint
