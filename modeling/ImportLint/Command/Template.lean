import ImportLint.Config.Preset

/-!
# Fixed texts of the commands

The configuration that `init` writes, what it prints, and the list of the rules that come with the program.
-/

namespace ImportLint.Command

/-- The file that `init` writes. -/
def configName : String := "modgraph-lint.toml"

/-- A configuration to start from. -/
def startingConfig : String :=
"# modgraph-lint configuration

# Built-in forbidden rules: \"recommended\" (default), \"minimal\" or \"none\".
# recommended = not-to-unresolvable, no-circular, no-orphans,
#               not-to-dev-dep, no-deprecated
preset = \"recommended\"

[options]
# Evaluate rules on all cores
parallel = false

# Element classification, first match wins
[[elements]]
type = \"app\"
pattern = \"^src/app\"

[[elements]]
type = \"features\"
pattern = \"^src/features\"

[[elements]]
type = \"shared\"
pattern = \"^src/shared\"

[boundaries]
# Verdict for element pairs not listed below: \"allow\" or \"disallow\"
default = \"allow\"
severity = \"error\"
# Flag imports of modules that belong to no element
no_unknown = true
# Flag imports of modules excluded by `ignore`
no_ignored = true
ignore = [\"**/*.test.ts\", \"**/*.test.tsx\", \"**/*.spec.ts\", \"**/*.spec.tsx\"]

[[boundaries.disallow]]
from = \"shared\"
to = [\"features\", \"app\"]

[[boundaries.disallow]]
from = \"features\"
to = [\"app\"]

# Preset rules can be overridden by name or switched off:
#
# [[forbidden]]
# name = \"no-orphans\"
# severity = \"warn\"
# from = \x7b orphan = true, path = \"^src\", path_not = \"/types\\\\.ts$\" \x7d
#
# [[forbidden]]
# name = \"no-deprecated\"
# severity = \"off\"
"

/-- What `init` prints. -/
def initOutput : String :=
  "Created " ++ configName ++ "\n\nNext steps:\n  1. Edit " ++ configName ++
    " to match your source layout\n  2. Export your import graph as JSON (modules or edges)\n" ++
    "  3. Run: modgraph-lint check deps.json\n"

/-- A text filled up with blanks to twenty-eight characters. -/
def column (s : String) : String :=
  s ++ String.ofList (List.replicate (28 - s.length) ' ')

/-- A name and what it stands for, on a line. -/
def row (name description : String) : String :=
  column name ++ " " ++ description ++ "\n"

/-- What `list-rules` prints. -/
def ruleList : String :=
  "Built-in rules:\n\n" ++ row "Name" "Description" ++ String.ofList (List.replicate 80 '-') ++ "\n" ++
    String.join (Preset.recommended.rules.map fun r => row r.name (r.comment?.getD "")) ++
    "\nBoundary rules ([boundaries]):\n" ++
    row "boundaries/element-types" "Element pairs must be permitted by allow/disallow/default" ++
    row "boundaries/no-unknown" "Imports must target a classified module (no_unknown = true)" ++
    row "boundaries/no-ignored" "Imports must not target ignored modules (no_ignored = true)" ++
    "\nPresets:\n  recommended  - all five built-in rules (default)\n  minimal      - " ++
    ", ".intercalate (Preset.minimal.rules.map RuleEntry.name) ++
    " (for gradual adoption)\n  none         - only rules declared in [[forbidden]]\n" ++
    "\nOverride a built-in rule by declaring [[forbidden]] with the same name,\n" ++
    "or switch it off with severity = \"off\".\n"

/-- What asking for the version prints. -/
def versionOutput : String := "modgraph-lint 0.1.0\n"

end ImportLint.Command
