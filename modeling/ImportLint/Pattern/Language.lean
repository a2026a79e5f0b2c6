import ImportLint.Pattern.Glob
import ImportLint.Pattern.Parse

/-!
# Pattern languages

What the texts of patterns mean: which texts are regular expressions and globs, and which ids they match. Rules and
configurations only need this much of them, so their modules hold for any language; the language of the program is that of
`Regex` and `Glob`.
-/

namespace ImportLint

/-- What the texts of patterns mean. -/
class PatternLanguage where
  /-- The ids in which a regular expression matches somewhere, or nothing if the text is no regular expression. -/
  regex? (text : String) : Option (String → Bool)
  /-- The ids that a glob matches, or what is wrong with the text. -/
  glob (text : String) : Except String (String → Bool)

/-- Regular expressions and globs as they are read and matched by the program. -/
instance (priority := low) : PatternLanguage where
  regex? text := (Regex.parse text).map Regex.isMatch
  glob text := ((Glob.ofChars text.toList).map Glob.accepts).mapError GlobError.message

end ImportLint
