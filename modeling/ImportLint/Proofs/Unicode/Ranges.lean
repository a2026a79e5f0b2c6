import ImportLint.Unicode.Ranges
import Mathlib.Data.List.Basic

/-!
# Operations on ranges

Union, intersection, differences and complement of ascending ranges are ascending again and cover what their names
say. So a set of code points that is put together from ascending tables has just the code points that it lists
(`CodeSet.contains_ranges`): the sizes of automata, which are taken from the list, are those of the set that is matched.
-/

namespace ImportLint.Unicode

namespace Ranges

/-- One of the ranges has the code point. -/
def Covers (rs : Ranges) (n : Nat) : Prop := ∃ r ∈ rs, r.1 ≤ n ∧ n ≤ r.2

/-- The ranges stand in the order of their starts. -/
def IsSorted (rs : Ranges) : Prop := rs.Pairwise fun r s => r.1 ≤ s.1

/-- No range is empty, and each ends before the next one starts. -/
structure IsAscending (rs : Ranges) : Prop where
  nonempty : ∀ r ∈ rs, r.1 ≤ r.2
  apart : rs.Pairwise fun r s => r.2 < s.1

variable {r s : Nat × Nat} {rs ss : Ranges} {n k : Nat}

theorem covers_cons_iff : Covers (r :: rs) n ↔ (r.1 ≤ n ∧ n ≤ r.2) ∨ Covers rs n := by
  simp [Covers]

theorem not_covers_nil : ¬ Covers [] n := by
  simp [Covers]

theorem isAscending_nil : IsAscending [] := ⟨List.forall_mem_nil _, .nil⟩

theorem isAscending_cons_iff :
    IsAscending (r :: rs) ↔ (r.1 ≤ r.2 ∧ ∀ s ∈ rs, r.2 < s.1) ∧ IsAscending rs := by
  constructor
  · rintro ⟨hne, hap⟩
    obtain ⟨hr, hrs⟩ := List.forall_mem_cons.mp hne
    obtain ⟨hlt, hap⟩ := List.pairwise_cons.mp hap
    exact ⟨⟨hr, hlt⟩, hrs, hap⟩
  · rintro ⟨⟨hr, hlt⟩, hrs, hap⟩
    exact ⟨List.forall_mem_cons.mpr ⟨hr, hrs⟩, List.pairwise_cons.mpr ⟨hlt, hap⟩⟩

theorem IsAscending.isSorted (h : IsAscending rs) : IsSorted rs :=
  h.apart.imp_of_mem fun {r s} hr _ hlt => by
    have := h.nonempty r hr
    omega

theorem contains_iff (h : IsAscending rs) : rs.contains n = true ↔ Covers rs n := by
  induction rs with
  | nil => simp [contains, Covers]
  | cons r rs ih =>
    obtain ⟨⟨hr, hlt⟩, hrs⟩ := isAscending_cons_iff.mp h
    rw [contains, covers_cons_iff, ← ih hrs]
    split_ifs with hn
    · -- the ranges behind start above the code point, too
      have hbehind : ¬ Covers rs n := fun ⟨s, hs, hle, _⟩ => by
        have := hlt s hs
        omega
      rw [ih hrs]
      simp only [hbehind, or_false, false_iff]
      omega
    · simp only [Bool.or_eq_true, decide_eq_true_eq]
      have hle : r.1 ≤ n := by omega
      simp only [hle, true_and]

/-! ## Union -/

theorem mem_mergeAt {next : Ranges → Ranges} (hnext : ∀ ss, s ∈ next ss ↔ s ∈ rs ∨ s ∈ ss) :
    s ∈ mergeAt r next ss ↔ s ∈ r :: rs ∨ s ∈ ss := by
  induction ss with
  | nil => simp [mergeAt, hnext]
  | cons t ss ih =>
    rw [mergeAt]
    split_ifs
    · rw [List.mem_cons, ih, List.mem_cons (a := s) (b := t)]
      tauto
    · rw [List.mem_cons, hnext, List.mem_cons (a := s) (b := r), or_assoc]

theorem mem_merge : s ∈ merge rs ss ↔ s ∈ rs ∨ s ∈ ss := by
  induction rs generalizing ss with
  | nil => simp [merge]
  | cons r rs ih => exact mem_mergeAt fun _ => ih

theorem covers_merge_iff : Covers (merge rs ss) n ↔ Covers rs n ∨ Covers ss n := by
  simp only [Covers, mem_merge, or_and_right, exists_or]

theorem mergeAt_isSorted (hr : ∀ s ∈ rs, r.1 ≤ s.1) (hss : IsSorted ss)
    (hnext : ∀ ss, IsSorted ss → IsSorted (merge rs ss)) : IsSorted (mergeAt r (merge rs) ss) := by
  induction ss with
  | nil => exact List.pairwise_cons.mpr ⟨fun s hs => hr s ((mem_merge.mp hs).resolve_right List.not_mem_nil),
      hnext [] .nil⟩
  | cons t ss ih =>
    obtain ⟨ht, hss'⟩ := List.pairwise_cons.mp hss
    rw [mergeAt]
    split_ifs with hlt
    · refine List.pairwise_cons.mpr ⟨fun s hs => ?_, ih hss'⟩
      have hs : s ∈ r :: rs ∨ s ∈ ss := (mem_mergeAt fun _ => mem_merge).mp hs
      rcases hs with hs | hs
      · rcases List.mem_cons.mp hs with rfl | hs
        · omega
        · have := hr s hs
          omega
      · exact ht s hs
    · refine List.pairwise_cons.mpr ⟨fun s hs => ?_, hnext _ hss⟩
      rcases mem_merge.mp hs with hs | hs
      · exact hr s hs
      · rcases List.mem_cons.mp hs with rfl | hs
        · omega
        · have := ht s hs
          omega

theorem merge_isSorted (hrs : IsSorted rs) (hss : IsSorted ss) : IsSorted (merge rs ss) := by
  induction rs generalizing ss with
  | nil => exact hss
  | cons r rs ih =>
    obtain ⟨hr, hrs⟩ := List.pairwise_cons.mp hrs
    exact mergeAt_isSorted hr hss fun _ => ih hrs

/-- A range that is joined with the one behind it still starts first. -/
theorem IsSorted.joined (h : IsSorted (r :: s :: rs)) (stop : Nat) : IsSorted ((r.1, stop) :: rs) := by
  obtain ⟨hr, hrest⟩ := List.pairwise_cons.mp h
  exact List.pairwise_cons.mpr ⟨fun t ht => hr t (List.mem_cons_of_mem _ ht), (List.pairwise_cons.mp hrest).2⟩

theorem covers_joinTo_iff (h : IsSorted (r :: rs)) : Covers (joinTo r rs) n ↔ Covers (r :: rs) n := by
  induction rs generalizing r with
  | nil => rfl
  | cons s rs ih =>
    obtain ⟨hr, hsrs⟩ := List.pairwise_cons.mp h
    have hs := hr s List.mem_cons_self
    rw [joinTo]
    split_ifs with htouch
    · rw [ih (h.joined _), covers_cons_iff, covers_cons_iff, covers_cons_iff, ← or_assoc]
      refine or_congr_left ?_
      simp only
      omega
    · rw [covers_cons_iff, ih hsrs, covers_cons_iff (r := r)]

theorem le_of_mem_joinTo (h : IsSorted (r :: rs)) (hs : s ∈ joinTo r rs) : r.1 ≤ s.1 := by
  induction rs generalizing r with
  | nil => exact Nat.le_of_eq (congrArg Prod.fst (List.mem_singleton.mp hs)).symm
  | cons t rs ih =>
    obtain ⟨hr, htrs⟩ := List.pairwise_cons.mp h
    rw [joinTo] at hs
    split_ifs at hs with htouch
    · have hstart : (r.1, max r.2 t.2).1 ≤ s.1 := ih (h.joined _) hs
      exact hstart
    · rcases List.mem_cons.mp hs with rfl | hs
      · exact Nat.le_refl _
      · exact Nat.le_trans (hr t List.mem_cons_self) (ih htrs hs)

theorem joinTo_isAscending (h : IsSorted (r :: rs)) (hne : ∀ s ∈ r :: rs, s.1 ≤ s.2) : IsAscending (joinTo r rs) := by
  induction rs generalizing r with
  | nil => exact ⟨hne, List.pairwise_singleton _ _⟩
  | cons s rs ih =>
    obtain ⟨hr, hsrs⟩ := List.pairwise_cons.mp h
    obtain ⟨hrr, hner⟩ := List.forall_mem_cons.mp hne
    rw [joinTo]
    split_ifs with htouch
    · refine ih (h.joined _) (List.forall_mem_cons.mpr ⟨?_, (List.forall_mem_cons.mp hner).2⟩)
      exact Nat.le_trans hrr (Nat.le_max_left _ _)
    · refine isAscending_cons_iff.mpr ⟨⟨hrr, fun t ht => ?_⟩, ih hsrs hner⟩
      have := le_of_mem_joinTo hsrs ht
      omega

theorem covers_join_iff (h : IsSorted rs) : Covers rs.join n ↔ Covers rs n := by
  cases rs with
  | nil => rfl
  | cons r rs => exact covers_joinTo_iff h

theorem join_isAscending (h : IsSorted rs) (hne : ∀ s ∈ rs, s.1 ≤ s.2) : IsAscending rs.join := by
  cases rs with
  | nil => exact isAscending_nil
  | cons r rs => exact joinTo_isAscending h hne

theorem IsAscending.union (hrs : IsAscending rs) (hss : IsAscending ss) : IsAscending (rs.union ss) :=
  join_isAscending (merge_isSorted hrs.isSorted hss.isSorted) fun s hs =>
    (mem_merge.mp hs).elim (hrs.nonempty s) (hss.nonempty s)

theorem covers_union_iff (hrs : IsAscending rs) (hss : IsAscending ss) :
    Covers (rs.union ss) n ↔ Covers rs n ∨ Covers ss n := by
  rw [Ranges.union, covers_join_iff (merge_isSorted hrs.isSorted hss.isSorted), covers_merge_iff]

/-! ## Complement -/

theorem le_of_mem_gapsFrom (h : IsAscending rs) (hk : ∀ r ∈ rs, k ≤ r.1) (hs : s ∈ gapsFrom k rs) : k ≤ s.1 := by
  induction rs generalizing k with
  | nil =>
    rw [gapsFrom] at hs
    split_ifs at hs
    · exact Nat.le_of_eq (congrArg Prod.fst (List.mem_singleton.mp hs)).symm
    · cases hs
  | cons r rs ih =>
    obtain ⟨⟨hr, hlt⟩, hrs⟩ := isAscending_cons_iff.mp h
    have hkr := hk r List.mem_cons_self
    have hlater (hs : s ∈ gapsFrom (r.2 + 1) rs) : k ≤ s.1 := by
      have := ih hrs hlt hs
      omega
    rw [gapsFrom] at hs
    split_ifs at hs
    · rcases List.mem_cons.mp hs with rfl | hs
      · exact Nat.le_refl _
      · exact hlater hs
    · exact hlater hs

theorem gapsFrom_isAscending (h : IsAscending rs) : IsAscending (gapsFrom k rs) := by
  induction rs generalizing k with
  | nil =>
    rw [gapsFrom]
    split_ifs with hk
    · exact isAscending_cons_iff.mpr ⟨⟨by simp only; omega, List.forall_mem_nil _⟩, isAscending_nil⟩
    · exact isAscending_nil
  | cons r rs ih =>
    obtain ⟨⟨hr, hlt⟩, hrs⟩ := isAscending_cons_iff.mp h
    rw [gapsFrom]
    split_ifs with hk
    · refine isAscending_cons_iff.mpr ⟨⟨by simp only; omega, fun s hs => ?_⟩, ih hrs⟩
      have := le_of_mem_gapsFrom hrs hlt hs
      simp only
      omega
    · exact ih hrs

theorem covers_gapsFrom_iff (h : IsAscending rs) (hk : ∀ r ∈ rs, k ≤ r.1) (hn : n < 0x110000) :
    Covers (gapsFrom k rs) n ↔ k ≤ n ∧ ¬ Covers rs n := by
  induction rs generalizing k with
  | nil =>
    rw [gapsFrom]
    split_ifs with hk
    · simp only [covers_cons_iff, not_covers_nil, or_false, not_false_eq_true, and_true]
      omega
    · simp only [not_covers_nil, not_false_eq_true, and_true, false_iff]
      omega
  | cons r rs ih =>
    obtain ⟨⟨hr, hlt⟩, hrs⟩ := isAscending_cons_iff.mp h
    have hkr := hk r List.mem_cons_self
    -- what lies before the end of `r` is not covered by the ranges behind it
    have hbehind (hle : n ≤ r.2) : ¬ Covers rs n := fun ⟨s, hs, hsn, _⟩ => by
      have := hlt s hs
      omega
    have hgap : Covers (gapsFrom (r.2 + 1) rs) n ↔ r.2 + 1 ≤ n ∧ ¬ Covers rs n := ih hrs hlt
    rw [gapsFrom, covers_cons_iff]
    by_cases hcovers : Covers rs n
    · have hlater : r.2 < n := Nat.lt_of_not_le fun hle => hbehind hle hcovers
      split_ifs with hk
      · simp only [covers_cons_iff, hgap, hcovers, not_true_eq_false, and_false, or_false, or_true, iff_false]
        omega
      · simp only [hgap, hcovers, not_true_eq_false, and_false, or_true]
    · split_ifs with hk
      · simp only [covers_cons_iff, hgap, hcovers, not_false_eq_true, and_true, or_false]
        omega
      · simp only [hgap, hcovers, not_false_eq_true, and_true, or_false]
        omega

theorem IsAscending.compl (h : IsAscending rs) : IsAscending rs.compl := gapsFrom_isAscending h

theorem covers_compl_iff (h : IsAscending rs) (hn : n < 0x110000) : Covers rs.compl n ↔ ¬ Covers rs n := by
  rw [Ranges.compl, covers_gapsFrom_iff h (fun _ _ => Nat.zero_le _) hn, and_iff_right (Nat.zero_le n)]

/-! ## Intersection and differences -/

theorem IsAscending.inter (hrs : IsAscending rs) (hss : IsAscending ss) : IsAscending (rs.inter ss) :=
  (hrs.compl.union hss.compl).compl

theorem covers_inter_iff (hrs : IsAscending rs) (hss : IsAscending ss) (hn : n < 0x110000) :
    Covers (rs.inter ss) n ↔ Covers rs n ∧ Covers ss n := by
  rw [Ranges.inter, covers_compl_iff (hrs.compl.union hss.compl) hn, covers_union_iff hrs.compl hss.compl,
    covers_compl_iff hrs hn, covers_compl_iff hss hn]
  tauto

theorem IsAscending.diff (hrs : IsAscending rs) (hss : IsAscending ss) : IsAscending (rs.diff ss) :=
  (hrs.compl.union hss).compl

theorem covers_diff_iff (hrs : IsAscending rs) (hss : IsAscending ss) (hn : n < 0x110000) :
    Covers (rs.diff ss) n ↔ Covers rs n ∧ ¬ Covers ss n := by
  rw [Ranges.diff, covers_compl_iff (hrs.compl.union hss) hn, covers_union_iff hrs.compl hss, covers_compl_iff hrs hn]
  tauto

theorem IsAscending.symmDiff (hrs : IsAscending rs) (hss : IsAscending ss) : IsAscending (rs.symmDiff ss) :=
  (hrs.diff hss).union (hss.diff hrs)

theorem covers_symmDiff_iff (hrs : IsAscending rs) (hss : IsAscending ss) (hn : n < 0x110000) :
    Covers (rs.symmDiff ss) n ↔ ¬ (Covers rs n ↔ Covers ss n) := by
  rw [Ranges.symmDiff, covers_union_iff (hrs.diff hss) (hss.diff hrs), covers_diff_iff hrs hss hn,
    covers_diff_iff hss hrs hn]
  tauto

end Ranges

/-! ## Sets of code points -/

namespace CodeSet

/-- The tables of the set are in ascending order. -/
def IsAscending : CodeSet → Prop
  | table rs => rs.IsAscending
  | union a b | inter a b | diff a b | symmDiff a b => a.IsAscending ∧ b.IsAscending
  | compl a => a.IsAscending

theorem ranges_isAscending {a : CodeSet} (h : a.IsAscending) : a.ranges.IsAscending := by
  induction a with
  | table rs => exact h
  | union a b iha ihb => exact (iha h.1).union (ihb h.2)
  | inter a b iha ihb => exact (iha h.1).inter (ihb h.2)
  | diff a b iha ihb => exact (iha h.1).diff (ihb h.2)
  | symmDiff a b iha ihb => exact (iha h.1).symmDiff (ihb h.2)
  | compl a ih => exact (ih h).compl

theorem covers_ranges_iff {a : CodeSet} (h : a.IsAscending) {n : Nat} (hn : n < 0x110000) :
    a.ranges.Covers n ↔ a.has n = true := by
  induction a with
  | table rs => exact (Ranges.contains_iff h).symm
  | union a b iha ihb =>
    rw [ranges, Ranges.covers_union_iff (ranges_isAscending h.1) (ranges_isAscending h.2), iha h.1, ihb h.2]
    simp [has]
  | inter a b iha ihb =>
    rw [ranges, Ranges.covers_inter_iff (ranges_isAscending h.1) (ranges_isAscending h.2) hn, iha h.1, ihb h.2]
    simp [has]
  | diff a b iha ihb =>
    rw [ranges, Ranges.covers_diff_iff (ranges_isAscending h.1) (ranges_isAscending h.2) hn, iha h.1, ihb h.2]
    simp [has]
  | symmDiff a b iha ihb =>
    rw [ranges, Ranges.covers_symmDiff_iff (ranges_isAscending h.1) (ranges_isAscending h.2) hn, iha h.1, ihb h.2]
    rw [has, bne_iff_ne, ne_eq, not_iff_not]
    exact Bool.eq_iff_iff.symm
  | compl a ih =>
    rw [ranges, Ranges.covers_compl_iff (ranges_isAscending (a := a) h) hn, ih h]
    simp [has]

/-- A set that is put together from ascending tables has the code points that it lists, and no others. -/
theorem contains_ranges {a : CodeSet} (h : a.IsAscending) {n : Nat} (hn : n < 0x110000) :
    a.ranges.contains n = a.has n := by
  rw [Bool.eq_iff_iff, Ranges.contains_iff (ranges_isAscending h), covers_ranges_iff h hn]

end CodeSet

end ImportLint.Unicode
