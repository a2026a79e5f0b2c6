import ImportLint.Check
import ImportLint.Proofs.Config.Recommended
import ImportLint.Proofs.Graph.Coherence
import ImportLint.Proofs.Rule.Set

/-!
# The order of element patterns

The first pattern that matches an id decides its element, so the order of the patterns matters where patterns of two
elements match one id. Where none is so ambiguous, any order gives the same element, although another pattern may decide
(`classify_perm`). So on a graph without such modules the patterns in another order make a rule set with the same report
(`RuleSet.check_elements_perm`).
-/

namespace ImportLint

section

variable [PatternLanguage]

/-- The patterns that match the id put it into one element. Several patterns of that element may match. -/
def Unambiguous (patterns : List ElementPattern) (id : String) : Prop :=
  ∀ p ∈ patterns, ∀ q ∈ patterns, p.pattern.isMatch id = true → q.pattern.isMatch id = true → p.element = q.element

instance (patterns : List ElementPattern) (id : String) : Decidable (Unambiguous patterns id) := by
  unfold Unambiguous
  infer_instance

section

variable {patterns patterns' : List ElementPattern} {id : String}

/-- If the id is not ambiguous, every pattern that matches it tells its element, not only the first one. -/
theorem Unambiguous.classify_eq_some_iff (h : Unambiguous patterns id) {n : ElementName} :
    classify patterns id = some n ↔ ∃ p ∈ patterns, p.pattern.isMatch id = true ∧ p.element = n := by
  rw [classify]
  cases hfind : patterns.find? fun p => p.pattern.isMatch id with
  | none =>
    have hnone := List.find?_eq_none.mp hfind
    constructor
    · intro hn
      cases hn
    · rintro ⟨p, hp, hmatch, -⟩
      exact absurd hmatch (hnone p hp)
  | some q =>
    have hq : q ∈ patterns := List.mem_of_find?_eq_some hfind
    have hmatch : q.pattern.isMatch id = true := by simpa using List.find?_some hfind
    constructor
    · intro hn
      exact ⟨q, hq, hmatch, Option.some.inj hn⟩
    · rintro ⟨p, hp, hpmatch, rfl⟩
      exact congrArg some (h q hq p hp hmatch hpmatch)

theorem Unambiguous.perm (h : Unambiguous patterns id) (hperm : patterns.Perm patterns') : Unambiguous patterns' id := by
  intro p hp q hq
  exact h p (hperm.mem_iff.mpr hp) q (hperm.mem_iff.mpr hq)

/-- The order of the patterns does not matter for an id that is not ambiguous. -/
theorem classify_perm (h : Unambiguous patterns id) (hperm : patterns.Perm patterns') :
    classify patterns id = classify patterns' id := by
  ext n
  rw [h.classify_eq_some_iff, (h.perm hperm).classify_eq_some_iff]
  simp only [hperm.mem_iff]

/-- A policy looks at elements only through the classification of the modules of the graph. -/
theorem Policy.check_classify_congr {g : Graph} (hg : g.Coherent) (p : Policy)
    (h : ∀ id ∈ g.modules, classify patterns id = classify patterns' id) :
    p.check patterns g = p.check patterns' g := by
  refine List.flatMap_congr fun e he => ?_
  have he : e ∈ g.edges := Array.mem_toList_iff.mp he
  have hsource := h e.source (hg.source_mem e he)
  unfold checkEdge
  split
  · next target _ htarget =>
    have htarget := h target (hg.target_mem e he target htarget)
    simp only [checkDependency, hsource, htarget]
  · rfl

end

namespace RuleSet

/-- If no module of a graph is matched by patterns of two different elements, the patterns in any other order make a rule
set as well, and it has the same report on that graph. -/
theorem check_elements_perm (s : RuleSet) {patterns : List ElementPattern} (hperm : s.elements.Perm patterns)
    (ms : List Mention) (h : ∀ id ∈ (Graph.ofMentions ms).modules, Unambiguous s.elements id) :
    ∃ s', ofParts patterns s.rules s.policy? s.parallel = .ok s' ∧
      s'.check (Graph.ofMentions ms) = s.check (Graph.ofMentions ms) := by
  have hdeclared : Declared patterns s.policy? := by
    intro p hp r hr n hn
    obtain ⟨e, he, hname⟩ := s.declared p hp r hr n hn
    exact ⟨e, hperm.mem_iff.mp he, hname⟩
  have hsound : problems patterns s.rules s.policy? = [] := problems_eq_nil_iff.mpr ⟨s.names_nodup, hdeclared⟩
  refine ⟨⟨patterns, s.rules, s.policy?, s.parallel, hsound⟩, dif_pos hsound, ?_⟩
  have hpolicy : ∀ p : Policy, p.check patterns (Graph.ofMentions ms) = p.check s.elements (Graph.ofMentions ms) := by
    intro p
    apply p.check_classify_congr (Graph.ofMentions_reflects ms).coherent
    intro id hid
    exact (classify_perm (h id hid) hperm).symm
  simp only [check, violations, hpolicy]

end RuleSet

end

namespace RuleSet

/-- Pages, found by either of two patterns, may depend on common modules, and nothing else is allowed. -/
def pagesAboveCommon : RuleSet :=
  let page : ElementName := { text := "page", valid := by decide }
  let common : ElementName := { text := "common", valid := by decide }
  { elements :=
      [{ element := page, pattern := .ofAccepted "^src/pages/" (by decide +kernel) },
       { element := page, pattern := .ofAccepted "page" (by decide +kernel) },
       { element := common, pattern := .ofAccepted "^src/common/" (by decide +kernel) }]
    rules := []
    policy? :=
      some
        { allowByDefault := false, allow := [{ source := page, targets := [common] }], disallow := [],
          ignore := [], noUnknown := true, noIgnored := false, severity := .warning }
    parallel := false
    sound := by decide }

/-- A page and a common module that import each other. Both patterns of pages match the page. -/
def pageImports : List Mention :=
  [.record (.resolvedTo "src/pages/home.page.ts" "src/common/log.ts" .internal),
   .record (.resolvedTo "src/common/log.ts" "src/pages/home.page.ts" .internal), .module "lib/page-size.ts"]

theorem check_pagesAboveCommon_reverse :
    pagesAboveCommon.elements.Perm pagesAboveCommon.elements.reverse ∧
      (∀ id ∈ (Graph.ofMentions pageImports).modules, Unambiguous pagesAboveCommon.elements id) ∧
      ∃ s', ofParts pagesAboveCommon.elements.reverse pagesAboveCommon.rules pagesAboveCommon.policy?
          pagesAboveCommon.parallel = .ok s' ∧
        s'.check (Graph.ofMentions pageImports) = pagesAboveCommon.check (Graph.ofMentions pageImports) := by
  have hperm : pagesAboveCommon.elements.Perm pagesAboveCommon.elements.reverse := (List.reverse_perm _).symm
  have hmentioned : ∀ m ∈ pageImports, ∀ id ∈ m.ids, Unambiguous pagesAboveCommon.elements id := by decide +kernel
  have hmodules : ∀ id ∈ (Graph.ofMentions pageImports).modules, Unambiguous pagesAboveCommon.elements id := by
    intro id hid
    obtain ⟨m, hm, hid⟩ := ((Graph.ofMentions_reflects pageImports).mem_modules id).mp hid
    exact hmentioned m hm id hid
  exact ⟨hperm, hmodules, pagesAboveCommon.check_elements_perm hperm pageImports hmodules⟩

end RuleSet

end ImportLint
