import ImportLint.Pattern.Language
import ImportLint.Rule.Error

/-!
# Patterns in rules

The two kinds of patterns that rules use for the ids of modules: regular expressions, which match anywhere in
an id, and globs, which match all of it. Each keeps the text it was read from, and that text determines it.
-/

namespace ImportLint

variable [PatternLanguage]

/-- A regular expression over the ids of modules. -/
structure PathPattern where
  text : String
  accepts : String → Bool
  reads : PatternLanguage.regex? text = some accepts

namespace PathPattern

/-- The pattern that a text writes. -/
def ofText (text : String) : Except RuleError PathPattern :=
  match h : PatternLanguage.regex? text with
  | some accepts => .ok { text := text, accepts := accepts, reads := h }
  | none => .error (.invalidRegex text)

/-- Whether the pattern matches somewhere in an id. -/
def isMatch (p : PathPattern) (id : String) : Bool := p.accepts id

theorem eq_of_text_eq {p q : PathPattern} (h : p.text = q.text) : p = q := by
  obtain ⟨_, a, ha⟩ := p
  obtain ⟨_, b, hb⟩ := q
  cases h
  cases Option.some.inj (ha.symm.trans hb)
  rfl

instance : DecidableEq PathPattern := fun p q =>
  decidable_of_iff (p.text = q.text) ⟨eq_of_text_eq, congrArg text⟩

/-- The pattern of a text that is a regular expression. -/
def ofAccepted (text : String) (h : (PatternLanguage.regex? text).isSome = true) : PathPattern :=
  { text := text, accepts := (PatternLanguage.regex? text).get h, reads := (Option.some_get h).symm }

/-- A pattern is read from its text. -/
theorem ofText_text (p : PathPattern) : ofText p.text = .ok p := by
  have hp := p.reads
  unfold ofText
  split
  · next accepts h =>
    congr 1
    exact eq_of_text_eq rfl
  · next h =>
    rw [hp] at h
    cases h

end PathPattern

/-- A glob over the ids of modules. -/
structure GlobPattern where
  text : String
  accepts : String → Bool
  reads : PatternLanguage.glob text = .ok accepts

namespace GlobPattern

/-- The glob that a text writes; it must not be empty. -/
def ofText (text : String) : Except RuleError GlobPattern :=
  if text = "" then .error .emptyGlob
  else
    match h : PatternLanguage.glob text with
    | .ok accepts => .ok { text := text, accepts := accepts, reads := h }
    | .error reason => .error (.invalidGlob text reason)

theorem eq_of_text_eq {p q : GlobPattern} (h : p.text = q.text) : p = q := by
  obtain ⟨_, a, ha⟩ := p
  obtain ⟨_, b, hb⟩ := q
  cases h
  cases Except.ok.inj (ha.symm.trans hb)
  rfl

instance : DecidableEq GlobPattern := fun p q =>
  decidable_of_iff (p.text = q.text) ⟨eq_of_text_eq, congrArg text⟩

/-- Removes slashes from the end. -/
def trimSlashes (cs : List Char) : List Char :=
  (cs.reverse.dropWhile (· == '/')).reverse

/-- The directory of a pattern that ends in `/**`. -/
def directory? (text : String) : Option (List Char) :=
  match text.toList.reverse with
  | '*' :: '*' :: '/' :: cs => some (trimSlashes cs.reverse)
  | _ => none

/-- Whether an id lies below a directory. -/
def isBelow (dir id : List Char) : Bool :=
  (dir ++ ['/']).isPrefixOf id

/-- Whether the pattern matches an id. The directory of a pattern that ends in `/**` is also taken literally:
everything below it matches. -/
def isMatch (p : GlobPattern) (id : String) : Bool :=
  p.accepts id || (directory? p.text).any fun dir => isBelow dir id.toList

end GlobPattern

end ImportLint
