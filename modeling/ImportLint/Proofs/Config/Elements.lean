import ImportLint.Proofs.Config.Rearranged
import Mathlib

/-!
# Elements of configurations

The elements of a configuration are loaded one by one, so those of one type all stay. Which types there are decides
whether the boundaries name an element that is not there, and how many patterns a type has decides nothing: if a
configuration is loaded, it is loaded with any other readable patterns for its types (`Config.load_elements`).
-/

namespace ImportLint

section

variable [PatternLanguage]

namespace Config

variable {c : Config} {s : RuleSet}

/-- The types and patterns of elements are kept as they are written. -/
theorem texts_of_reads {es : List ElementEntry} {ps : List ElementPattern} (h : List.Forall₂ ElementEntry.Reads es ps) :
    ps.map (fun p => (p.element.text, p.pattern.text)) = es.map fun e => (e.element, e.pattern) := by
  rw [← List.forall₂_eq_eq_eq, List.forall₂_map_left_iff, List.forall₂_map_right_iff]
  refine h.flip.imp fun p e hread => ?_
  rw [hread.1, hread.2]

theorem types_of_reads {es : List ElementEntry} {ps : List ElementPattern} (h : List.Forall₂ ElementEntry.Reads es ps) :
    (ps.map ElementPattern.element).map ElementName.text = es.map ElementEntry.element := by
  have htexts := congrArg (List.map Prod.fst) (texts_of_reads h)
  simpa only [List.map_map, Function.comp_def] using htexts

/-- No two patterns share an element if and only if no two entries share a type. -/
theorem elements_nodup_iff {es : List ElementEntry} {ps : List ElementPattern}
    (h : List.Forall₂ ElementEntry.Reads es ps) :
    (ps.map ElementPattern.element).Nodup ↔ (es.map ElementEntry.element).Nodup := by
  rw [← types_of_reads h]
  exact (List.nodup_map_iff fun _ _ => ElementName.eq_of_text_eq).symm

/-- An entry is read if its type is that of an entry that has been read and its pattern is a regular expression. -/
theorem exists_reads_of_type {es : List ElementEntry} {ps : List ElementPattern}
    (h : List.Forall₂ ElementEntry.Reads es ps) {e : ElementEntry} (htype : e.element ∈ es.map ElementEntry.element)
    (hpattern : (PatternLanguage.regex? e.pattern).isSome = true) : ∃ p, e.Reads p := by
  rw [← types_of_reads h] at htype
  obtain ⟨n, -, hn⟩ := List.mem_map.mp htype
  obtain ⟨q, hq⟩ := Option.isSome_iff_exists.mp hpattern
  exact ⟨⟨n, ⟨e.pattern, q, hq⟩⟩, hn, rfl⟩

/-- With other patterns for its types a configuration is read as the same rule set, but for the elements. -/
theorem Reads.replace_elements (h : c.Reads s) {es : List ElementEntry} {ps : List ElementPattern}
    (hes : List.Forall₂ ElementEntry.Reads es ps)
    (htypes : ∀ name ∈ c.elements.map ElementEntry.element, name ∈ es.map ElementEntry.element) :
    ∃ s', Config.load { c with elements := es } = .ok s' ∧ s'.elements = ps ∧ s'.rules = s.rules ∧
      s'.policy? = s.policy? := by
  have hdeclared : RuleSet.Declared ps s.policy? := by
    intro p hp r hr n hn
    obtain ⟨q, hq, rfl⟩ := s.declared p hp r hr n hn
    -- the type of `q` is among those of the configuration, so some entry has it
    have htype : q.element.text ∈ es.map ElementEntry.element := by
      apply htypes
      rw [← types_of_reads h.elements]
      exact List.mem_map_of_mem (List.mem_map_of_mem hq)
    rw [← types_of_reads hes] at htype
    obtain ⟨m, hm, hmq⟩ := List.mem_map.mp htype
    obtain ⟨q', hq', rfl⟩ := List.mem_map.mp hm
    exact ⟨q', hq', ElementName.eq_of_text_eq hmq⟩
  have hsound : RuleSet.problems ps s.rules s.policy? = [] :=
    RuleSet.problems_eq_nil_iff.mpr ⟨s.names_nodup, hdeclared⟩
  refine ⟨⟨ps, s.rules, s.policy?, s.parallel, hsound⟩, load_eq_ok_iff.mpr ?_, rfl, rfl, rfl⟩
  exact
    { elements := hes
      names := h.names
      rules := h.rules
      policy := h.policy
      parallel := h.parallel }

/-- A configuration that is loaded keeps its elements as they are written, so no two of them share a name if and only if
no two entries share a type. It is also loaded with any other entries for the same types, as long as their patterns are
regular expressions: however often a type is written, nothing else changes. -/
theorem load_elements (h : c.load = .ok s) :
    (s.elements.map (fun p => (p.element.text, p.pattern.text)) = c.elements.map fun e => (e.element, e.pattern)) ∧
    ((s.elements.map ElementPattern.element).Nodup ↔ (c.elements.map ElementEntry.element).Nodup) ∧
    ∀ es : List ElementEntry,
      (∀ name, name ∈ es.map ElementEntry.element ↔ name ∈ c.elements.map ElementEntry.element) →
      (∀ e ∈ es, (PatternLanguage.regex? e.pattern).isSome = true) →
      ∃ s', Config.load { c with elements := es } = .ok s' ∧
        s'.elements.map (fun p => (p.element.text, p.pattern.text)) = es.map (fun e => (e.element, e.pattern)) ∧
        s'.rules = s.rules ∧ s'.policy? = s.policy? := by
  have hreads := load_eq_ok_iff.mp h
  refine ⟨texts_of_reads hreads.elements, elements_nodup_iff hreads.elements, fun es htypes hpatterns => ?_⟩
  obtain ⟨ps, hps⟩ : ∃ ps, List.Forall₂ ElementEntry.Reads es ps := by
    apply exists_forall₂
    intro e he
    exact exists_reads_of_type hreads.elements ((htypes _).mp (List.mem_map_of_mem he)) (hpatterns e he)
  obtain ⟨s', hload, rfl, hrules, hpolicy⟩ := hreads.replace_elements hps fun name => (htypes name).mpr
  exact ⟨s', hload, texts_of_reads hps, hrules, hpolicy⟩

end Config

end

namespace Config

/-- The three layers, with two patterns for one of them. -/
theorem load_layered_twice :
    ∃ s s', layered.load = .ok s ∧
      Config.load { layered with elements := ⟨"lib", "^vendor/"⟩ :: layered.elements } = .ok s' ∧
      s'.elements.map (fun p => (p.element.text, p.pattern.text)) =
        [("lib", "^vendor/"), ("app", "^app/"), ("lib", "^lib/"), ("test", "^test/")] ∧
      s'.rules = s.rules ∧ s'.policy? = s.policy? := by
  obtain ⟨s, hs⟩ : ∃ s, layered.load = .ok s := errorOf?_eq_none_iff.mp (by decide +kernel)
  obtain ⟨-, -, hmore⟩ := load_elements hs
  obtain ⟨s', hs', helements, hrules, hpolicy⟩ := hmore (⟨"lib", "^vendor/"⟩ :: layered.elements)
    (by
      intro name
      have hlib : "lib" ∈ layered.elements.map ElementEntry.element := by decide
      rw [List.map_cons, List.mem_cons]
      exact or_iff_right_of_imp fun h => h ▸ hlib)
    (by decide +kernel)
  exact ⟨s, s', hs, hs', helements, hrules, hpolicy⟩

/-- Two patterns for one element. -/
def sharedElement : Config :=
  { Config.blank with preset? := some "none", elements := [⟨"app", "^src/app"⟩, ⟨"app", "^lib/app"⟩] }

def sharedElementText : String :=
  "preset = 'none'\n[[elements]]\ntype = 'app'\npattern = '^src/app'\n" ++
    "[[elements]]\ntype = 'app'\npattern = '^lib/app'\n"

theorem load_sharedElement :
    Config.parse sharedElementText = .ok sharedElement ∧
    ∃ s, sharedElement.load = .ok s ∧ ¬(s.elements.map ElementPattern.element).Nodup := by
  have htext : Config.parse sharedElementText = .ok sharedElement := by cbv
  obtain ⟨s, hs⟩ : ∃ s, sharedElement.load = .ok s := errorOf?_eq_none_iff.mp (by decide +kernel)
  refine ⟨htext, s, hs, ?_⟩
  rw [elements_nodup_iff (load_eq_ok_iff.mp hs).elements]
  decide

end Config

end ImportLint
