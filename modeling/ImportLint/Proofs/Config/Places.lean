import ImportLint.Config.Error
import Mathlib.Data.List.TakeWhile
import Mathlib.Tactic.Common
import Std.Data.String.ToNat

/-!
# Texts of places

A place in a configuration is told by its text: no two places have the same one (`ConfigPlace.text_injective`). An index
ends at the bracket behind it, and the field of a rule begins behind the last blank, whatever the rule is called.
-/

namespace ImportLint

/-! ## Cutting texts -/

section

variable {c : Char} {s s' t t' : String}

theorem append_eq_append_iff : s ++ t = s' ++ t' ↔ s.toList ++ t.toList = s'.toList ++ t'.toList := by
  rw [← String.toList_append, ← String.toList_append, String.toList_inj]

/-- A list is cut at the first `c`. -/
theorem cut_at_first {xs xs' ys ys' : List Char} (hx : c ∉ xs) (hx' : c ∉ xs') (hy : ys.head? = some c)
    (hy' : ys'.head? = some c) (h : xs ++ ys = xs' ++ ys') : xs = xs' ∧ ys = ys' := by
  have htake : ∀ {xs ys : List Char}, c ∉ xs → ys.head? = some c → (xs ++ ys).takeWhile (· != c) = xs := by
    intro xs ys hx hy
    obtain ⟨zs, rfl⟩ := List.head?_eq_some_iff.mp hy
    rw [List.takeWhile_append_of_pos fun x hmem => bne_iff_ne.mpr (ne_of_mem_of_not_mem hmem hx),
      List.takeWhile_cons_of_neg (by simp), List.append_nil]
  have hhead : xs = xs' := by rw [← htake hx hy, h, htake hx' hy']
  subst hhead
  exact ⟨rfl, List.append_cancel_left h⟩

/-- A text is cut at the last `c`. -/
theorem cut_at_last (ht : c ∉ t.toList) (ht' : c ∉ t'.toList) (hs : s.toList.getLast? = some c)
    (hs' : s'.toList.getLast? = some c) (h : s ++ t = s' ++ t') : s = s' ∧ t = t' := by
  have hreverse := congrArg List.reverse (append_eq_append_iff.mp h)
  rw [List.reverse_append, List.reverse_append] at hreverse
  obtain ⟨htail, hhead⟩ := cut_at_first (mt List.mem_reverse.mp ht) (mt List.mem_reverse.mp ht')
    (List.head?_reverse.trans hs) (List.head?_reverse.trans hs') hreverse
  exact ⟨String.toList_inj.mp (List.reverse_inj.mp hhead), String.toList_inj.mp (List.reverse_inj.mp htail)⟩

theorem getLast?_append (h : t.toList.getLast? = some c) : (s ++ t).toList.getLast? = some c := by
  rw [String.toList_append, List.getLast?_append, h]
  rfl

/-! ## Indices -/

variable {i j : Nat}

theorem not_mem_digits (hc : c.isDigit = false) : c ∉ (toString i).toList := by
  intro h
  have hdigits : c ∈ Nat.toDigits 10 i := by rwa [← Nat.toList_repr]
  rw [Nat.isDigit_of_mem_toDigits (by decide) (by decide) hdigits] at hc
  cases hc

/-- An index ends at the bracket behind it. -/
theorem index_append_inj (ht : t.toList.head? = some ']') (ht' : t'.toList.head? = some ']')
    (h : s ++ toString i ++ t = s ++ toString j ++ t') : i = j ∧ t = t' := by
  rw [String.append_assoc, String.append_assoc, String.append_right_inj, append_eq_append_iff] at h
  obtain ⟨hi, htail⟩ := cut_at_first (not_mem_digits rfl) (not_mem_digits rfl) ht ht' h
  exact ⟨Nat.repr_inj.mp (String.toList_inj.mp hi), String.toList_inj.mp htail⟩

end

/-- What stands in a text before the first bracket or quote. -/
def openingOf (text : String) : List Char := text.toList.takeWhile fun c => c != '[' && c != '\''

theorem openingOf_append {s t : String} (hs : '[' ∈ s.toList ∨ '\'' ∈ s.toList) : openingOf (s ++ t) = openingOf s := by
  have hstop : (s.toList.takeWhile fun c => c != '[' && c != '\'').length ≠ s.toList.length := by
    intro hlength
    have hall := List.takeWhile_eq_self_iff.mp ((List.takeWhile_prefix _).eq_of_length hlength)
    rcases hs with hs | hs
    · exact absurd (hall _ hs) (by decide)
    · exact absurd (hall _ hs) (by decide)
  rw [openingOf, String.toList_append, List.takeWhile_append, if_neg hstop]
  rfl

/-! ## Fields of rules -/

namespace RuleField

theorem path_kind (i : Nat) : (kind i).path = "to.dependency_types[" ++ toString i ++ "]" := rfl

theorem openingOf_path_kind (i : Nat) : openingOf (kind i).path = openingOf "to.dependency_types[" := by
  rw [path_kind, String.append_assoc]
  exact openingOf_append (by decide)

theorem path_injective : Function.Injective path := by
  intro f f' h
  have hopening := congrArg openingOf h
  cases f with
  | kind i =>
    rw [openingOf_path_kind] at hopening
    cases f' with
    | kind j => exact congrArg kind (index_append_inj rfl rfl h).1
    | _ => exact absurd hopening (by decide)
  | _ =>
    cases f' with
    | kind j =>
      rw [openingOf_path_kind] at hopening
      exact absurd hopening (by decide)
    | _ => first | rfl | exact absurd h (by decide)

theorem blank_not_mem_path (f : RuleField) : ' ' ∉ f.path.toList := by
  cases f with
  | kind i =>
    rw [path_kind, String.toList_append, String.toList_append, List.mem_append, List.mem_append]
    rintro ((h | h) | h)
    · exact absurd h (by decide)
    · exact not_mem_digits rfl h
    · exact absurd h (by decide)
  | _ => decide

/-- The path of a field does not end in a quote. -/
theorem getLast?_path (f : RuleField) : ∃ c, f.path.toList.getLast? = some c ∧ c ≠ '\'' := by
  cases f with
  | kind i => exact ⟨']', getLast?_append rfl, by decide⟩
  | _ => exact ⟨_, rfl, by decide⟩

end RuleField

/-! ## Places -/

namespace ConfigPlace

/-- The fixed start of the text for a place. -/
def start : ConfigPlace → String
  | elementName _ => "elements["
  | elementPattern _ => "elements["
  | rule _ => "forbidden '"
  | ruleField _ _ => "forbidden '"
  | boundaries => "boundaries"
  | ignore _ => "boundaries.ignore["
  | relationSource allows _ => if allows then "boundaries.allow[" else "boundaries.disallow["
  | relationTarget allows _ _ => if allows then "boundaries.allow[" else "boundaries.disallow["

theorem relation_eq (allows : Bool) (i : Nat) :
    relation allows i =
      (if allows then "boundaries.allow[" else "boundaries.disallow[") ++ toString i ++ "]" := by
  cases allows <;> rfl

/-- A relation is told by its list and its index. -/
theorem relation_append_inj {allows : Bool} {i j : Nat} {t t' : String}
    (h : relation allows i ++ t = relation allows j ++ t') : i = j ∧ t = t' := by
  have hbracket : ∀ t : String, ("]" ++ t).toList.head? = some ']' := fun t => by
    rw [String.toList_append]
    rfl
  have hassoc : ∀ (i : Nat) (t : String), relation allows i ++ t =
      (if allows then "boundaries.allow[" else "boundaries.disallow[") ++ toString i ++ ("]" ++ t) := fun i t => by
    rw [relation_eq, String.append_assoc]
  rw [hassoc, hassoc] at h
  obtain ⟨hi, htail⟩ := index_append_inj (hbracket t) (hbracket t') h
  exact ⟨hi, (String.append_right_inj "]").mp htail⟩

theorem exists_text (p : ConfigPlace) : ∃ rest, p.text = p.start ++ rest := by
  cases p with
  | elementName i => exact ⟨_, String.append_assoc⟩
  | elementPattern i => exact ⟨_, String.append_assoc⟩
  | rule name => exact ⟨_, String.append_assoc⟩
  | ruleField name f => exact ⟨name ++ "' " ++ f.path, by rw [start, ← String.append_assoc, ← String.append_assoc]; rfl⟩
  | boundaries => exact ⟨"", rfl⟩
  | ignore i => exact ⟨_, String.append_assoc⟩
  | relationSource allows i =>
    refine ⟨toString i ++ "]" ++ ".from", ?_⟩
    rw [start, ← String.append_assoc, ← String.append_assoc, ← relation_eq]
    rfl
  | relationTarget allows i j =>
    refine ⟨toString i ++ "]" ++ ".to[" ++ toString j ++ "]", ?_⟩
    rw [start, ← String.append_assoc, ← String.append_assoc, ← String.append_assoc, ← String.append_assoc, ← relation_eq]
    rfl

/-- The fixed starts of texts. -/
def starts : List String :=
  ["elements[", "forbidden '", "boundaries", "boundaries.ignore[", "boundaries.allow[", "boundaries.disallow["]

theorem start_mem (p : ConfigPlace) : p.start ∈ starts := by
  cases p <;> grind [start, starts]

theorem openingOf_text (p : ConfigPlace) : openingOf p.text = openingOf p.start := by
  have hstops : ∀ s ∈ starts, s = "boundaries" ∨ '[' ∈ s.toList ∨ '\'' ∈ s.toList := by decide
  obtain ⟨rest, hrest⟩ := p.exists_text
  rcases hstops _ p.start_mem with hp | hstop
  · have hplace : p = boundaries := by cases p <;> grind [start]
    rw [hplace]
    rfl
  · rw [hrest, openingOf_append hstop]

/-- The start of a text is told by what stands before its first bracket or quote. -/
theorem start_eq {p q : ConfigPlace} (h : p.text = q.text) : p.start = q.start := by
  have htold : ∀ s ∈ starts, ∀ s' ∈ starts, openingOf s = openingOf s' → s = s' := by decide
  exact htold _ p.start_mem _ q.start_mem (by rw [← openingOf_text, ← openingOf_text, h])

/-! ### Places with one start -/

theorem elementName_text_ne (i j : Nat) : (elementName i).text ≠ (elementPattern j).text := by
  intro h
  exact absurd (index_append_inj rfl rfl h).2 (by decide)

/-- The text for a rule ends in a quote, and that for a field of a rule does not. -/
theorem rule_text_ne (name name' : String) (f : RuleField) : (rule name).text ≠ (ruleField name' f).text := by
  intro h
  obtain ⟨c, hlast, hne⟩ := f.getLast?_path
  have hrule : (rule name).text.toList.getLast? = some '\'' := getLast?_append rfl
  have hfield : (ruleField name' f).text.toList.getLast? = some c := getLast?_append hlast
  rw [h, hfield] at hrule
  exact hne (Option.some.inj hrule)

theorem ruleField_text_inj {name name' : String} {f f' : RuleField}
    (h : (ruleField name f).text = (ruleField name' f').text) : name = name' ∧ f = f' := by
  have hblank : ∀ name : String, ("forbidden '" ++ name ++ "' ").toList.getLast? = some ' ' := fun _ =>
    getLast?_append rfl
  obtain ⟨hname, hpath⟩ :=
    cut_at_last f.blank_not_mem_path f'.blank_not_mem_path (hblank name) (hblank name') h
  rw [String.append_left_inj, String.append_right_inj] at hname
  exact ⟨hname, RuleField.path_injective hpath⟩

theorem relationTarget_text (allows : Bool) (i j : Nat) :
    (relationTarget allows i j).text = relation allows i ++ (".to[" ++ toString j ++ "]") := by
  rw [← String.append_assoc, ← String.append_assoc]
  rfl

theorem relationSource_text_ne (allows : Bool) (i i' j : Nat) :
    (relationSource allows i).text ≠ (relationTarget allows i' j).text := by
  intro h
  rw [relationTarget_text] at h
  have htail := congrArg openingOf (relation_append_inj h).2
  rw [String.append_assoc, openingOf_append (by decide)] at htail
  exact absurd htail (by decide)

/-- A place is told by its text. -/
theorem text_injective : Function.Injective text := by
  intro p q h
  have hstart := start_eq h
  cases p with
  | elementName i =>
    cases q with
    | elementName j => exact congrArg elementName (index_append_inj rfl rfl h).1
    | elementPattern j => exact absurd h (elementName_text_ne i j)
    | _ => grind [start]
  | elementPattern i =>
    cases q with
    | elementName j => exact absurd h.symm (elementName_text_ne j i)
    | elementPattern j => exact congrArg elementPattern (index_append_inj rfl rfl h).1
    | _ => grind [start]
  | rule name =>
    cases q with
    | rule name' => exact congrArg rule ((String.append_right_inj _).mp ((String.append_left_inj _).mp h))
    | ruleField name' f => exact absurd h (rule_text_ne name name' f)
    | _ => grind [start]
  | ruleField name f =>
    cases q with
    | rule name' => exact absurd h.symm (rule_text_ne name' name f)
    | ruleField name' f' =>
      obtain ⟨rfl, rfl⟩ := ruleField_text_inj h
      rfl
    | _ => grind [start]
  | boundaries =>
    cases q with
    | boundaries => rfl
    | _ => grind [start]
  | ignore i =>
    cases q with
    | ignore j => exact congrArg ignore (index_append_inj rfl rfl h).1
    | _ => grind [start]
  | relationSource allows i =>
    cases q with
    | relationSource allows' j =>
      obtain rfl : allows = allows' := by grind [start]
      obtain ⟨rfl, -⟩ := relation_append_inj h
      rfl
    | relationTarget allows' i' j =>
      obtain rfl : allows = allows' := by grind [start]
      exact absurd h (relationSource_text_ne allows i i' j)
    | _ => grind [start]
  | relationTarget allows i j =>
    cases q with
    | relationSource allows' i' =>
      obtain rfl : allows = allows' := by grind [start]
      exact absurd h.symm (relationSource_text_ne allows i' i j)
    | relationTarget allows' i' j' =>
      obtain rfl : allows = allows' := by grind [start]
      rw [relationTarget_text, relationTarget_text] at h
      obtain ⟨rfl, htail⟩ := relation_append_inj h
      rw [(index_append_inj rfl rfl htail).1]
    | _ => grind [start]

end ConfigPlace

end ImportLint
