import ImportLint.Proofs.Rule.Set

/-!
# What is wrong with the parts of a rule set

The problems of parts that do not fit together, told by where they come from: a rule whose name an earlier rule has
(`RuleSet.laterNamesakes`), and a place where a policy names an element that no pattern declares (`Policy.namings`). Without such
places the parts make a rule set with just these parts. Otherwise there is one problem for each of them, in order, and no
other (`RuleSet.ofParts_eq_iff`).
-/

namespace ImportLint

variable [PatternLanguage]

/-- The elements that a policy names, each with the source of the relation that names it. The allowing relations come
first, and in each relation its source comes before its targets. -/
def Policy.namings (p : Policy) : List (ElementName × ElementName) :=
  (p.allow ++ p.disallow).flatMap fun r => (r.source :: r.targets).map fun n => (r.source, n)

namespace RuleSet

/-- The places of the rules whose name an earlier rule has, in order. -/
def laterNamesakes (rules : List Rule) : List (Fin rules.length) :=
  (List.finRange rules.length).filter fun i => ∃ j < i, rules[j].name = rules[i].name

/-! ## Names of rules -/

/-- The name of a rule is among those that were seen before the list, or an earlier rule of the list has it. -/
def NameTaken (seen : List String) (rules : List Rule) (i : Fin rules.length) : Prop :=
  rules[i].name ∈ seen ∨ ∃ j < i, rules[j].name = rules[i].name

instance (seen : List String) (rules : List Rule) (i : Fin rules.length) : Decidable (NameTaken seen rules i) :=
  inferInstanceAs (Decidable (_ ∨ _))

theorem nameTaken_zero (seen : List String) (r : Rule) (rs : List Rule) :
    NameTaken seen (r :: rs) 0 ↔ r.name ∈ seen := by
  simp [NameTaken]

/-- Behind the first rule, its name counts as seen. -/
theorem nameTaken_succ (seen : List String) (r : Rule) (rs : List Rule) (i : Fin rs.length) :
    NameTaken seen (r :: rs) i.succ ↔ NameTaken (r.name :: seen) rs i := by
  have hearlier : (∃ j < i.succ, (r :: rs)[j].name = rs[i].name) ↔
      r.name = rs[i].name ∨ ∃ j < i, rs[j].name = rs[i].name := by
    simp [Fin.exists_fin_succ, Fin.succ_lt_succ_iff]
  show (rs[i].name ∈ seen ∨ ∃ j < i.succ, (r :: rs)[j].name = rs[i].name) ↔
    (rs[i].name ∈ r.name :: seen ∨ ∃ j < i, rs[j].name = rs[i].name)
  rw [hearlier, List.mem_cons, eq_comm (a := rs[i].name)]
  tauto

/-- Only which names were seen matters. -/
theorem nameTaken_congr {seen seen' : List String} (h : ∀ n, n ∈ seen ↔ n ∈ seen') (rules : List Rule)
    (i : Fin rules.length) : NameTaken seen rules i ↔ NameTaken seen' rules i := by
  rw [NameTaken, NameTaken, h]

/-- There is one problem for each rule whose name is taken. -/
theorem duplicates_eq (seen : List String) (rules : List Rule) :
    duplicates seen rules =
      ((List.finRange rules.length).filter fun i => NameTaken seen rules i).map
        fun i => .duplicateRule rules[i].name := by
  induction rules generalizing seen with
  | nil => rfl
  | cons r rs ih =>
    have hrest : duplicates (r.name :: seen) rs =
        (((List.finRange rs.length).map Fin.succ).filter fun i => NameTaken seen (r :: rs) i).map
          fun i => .duplicateRule (r :: rs)[i].name := by
      rw [ih, List.filter_map, List.map_map]
      refine congrArg _ (List.filter_congr fun i _ => decide_eq_decide.mpr ?_)
      exact (nameTaken_succ seen r rs i).symm
    have hrange : List.finRange (r :: rs).length = 0 :: (List.finRange rs.length).map Fin.succ :=
      List.finRange_succ
    rw [hrange, List.filter_cons]
    by_cases hr : r.name ∈ seen
    · have hseen : ∀ n, n ∈ seen ↔ n ∈ r.name :: seen := by
        intro n
        rw [List.mem_cons, or_iff_right_of_imp fun h => h ▸ hr]
      have hsame : duplicates seen rs = duplicates (r.name :: seen) rs := by
        rw [ih, ih]
        refine congrArg _ (List.filter_congr fun i _ => decide_eq_decide.mpr ?_)
        exact nameTaken_congr hseen rs i
      rw [duplicates, if_pos (List.contains_iff_mem.mpr hr), hsame, hrest,
        if_pos (decide_eq_true ((nameTaken_zero seen r rs).mpr hr))]
      rfl
    · rw [duplicates, if_neg (fun h => hr (List.contains_iff_mem.mp h)), hrest,
        if_neg fun h => hr ((nameTaken_zero seen r rs).mp (of_decide_eq_true h))]

/-- There is one problem for each rule whose name an earlier rule has. -/
theorem duplicates_nil_eq (rules : List Rule) :
    duplicates [] rules = (laterNamesakes rules).map fun i => .duplicateRule rules[i].name := by
  rw [duplicates_eq, laterNamesakes]
  refine congrArg _ (List.filter_congr fun i _ => decide_eq_decide.mpr ?_)
  rw [NameTaken, or_iff_right List.not_mem_nil]

/-! ## Names of elements -/

/-- A policy names an element that no pattern declares. -/
def Undeclared (elements : List ElementPattern) (naming : ElementName × ElementName) : Prop :=
  ∀ e ∈ elements, e.element ≠ naming.2

instance (elements : List ElementPattern) (naming : ElementName × ElementName) :
    Decidable (Undeclared elements naming) :=
  inferInstanceAs (Decidable (∀ e ∈ elements, _))

theorem undeclared_eq (elements : List ElementPattern) (r : Relation) :
    undeclared elements r =
      ((r.names.map fun n => (r.source, n)).filter fun naming => Undeclared elements naming).map
        fun naming => .unknownElement naming.1.text naming.2.text := by
  rw [undeclared, List.filter_map, List.map_map]
  refine congrArg _ (List.filter_congr fun n _ => ?_)
  rw [Bool.eq_iff_iff, Function.comp_apply, decide_eq_true_eq]
  simp [Undeclared]

/-- There is one problem for each place where the policy names an element without a pattern. -/
theorem undeclared_flatMap_eq (elements : List ElementPattern) (policy? : Option Policy) :
    (policy?.toList.flatMap Policy.relations).flatMap (undeclared elements) =
      ((policy?.toList.flatMap Policy.namings).filter fun naming => Undeclared elements naming).map
        fun naming => .unknownElement naming.1.text naming.2.text := by
  have hnamings : policy?.toList.flatMap Policy.namings =
      (policy?.toList.flatMap Policy.relations).flatMap fun r => r.names.map fun n => (r.source, n) := by
    rw [List.flatMap_assoc]
    rfl
  rw [hnamings, List.filter_flatMap, List.map_flatMap]
  exact List.flatMap_congr fun r _ => undeclared_eq elements r

/-! ## Rule sets -/

/-- Parts make a rule set, which has just these parts, if and only if no two rules share a name and every element that a
relation names has a pattern. Otherwise they make what is wrong with them: one problem for each rule whose name an earlier
rule has, in the order of the rules, and then one for each place where a relation names an element without a pattern, the
allowing relations before the others and in each its source before its targets. -/
theorem ofParts_eq_iff (elements : List ElementPattern) (rules : List Rule) (policy? : Option Policy)
    (parallel : Bool) :
    ((∃ s, ofParts elements rules policy? parallel = .ok s ∧ s.elements = elements ∧ s.rules = rules ∧
        s.policy? = policy? ∧ s.parallel = parallel) ↔
      (rules.map Rule.name).Nodup ∧ Declared elements policy?) ∧
    ∀ errors, ofParts elements rules policy? parallel = .error errors ↔
      ¬((rules.map Rule.name).Nodup ∧ Declared elements policy?) ∧
        errors =
          ((laterNamesakes rules).map fun i => .duplicateRule rules[i].name) ++
            ((policy?.toList.flatMap Policy.namings).filter fun naming => Undeclared elements naming).map
              fun naming => .unknownElement naming.1.text naming.2.text := by
  have hproblems : problems elements rules policy? =
      ((laterNamesakes rules).map fun i => .duplicateRule rules[i].name) ++
        ((policy?.toList.flatMap Policy.namings).filter fun naming => Undeclared elements naming).map
          fun naming => .unknownElement naming.1.text naming.2.text := by
    rw [problems, duplicates_nil_eq, undeclared_flatMap_eq]
  rw [← hproblems, ← problems_eq_nil_iff]
  constructor
  · refine Iff.trans (exists_congr fun s => and_iff_left_of_imp fun h => ?_) exists_ofParts_iff
    exact ofParts_eq_ok_iff.mp h
  · intro errors
    rw [ofParts]
    split_ifs with h
    · exact iff_of_false (fun hok => by cases hok) fun hn => hn.1 h
    · rw [Except.error.injEq, and_iff_right h, eq_comm]

end RuleSet

end ImportLint
