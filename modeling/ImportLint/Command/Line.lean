/-!
# Command lines

`Request.ofLine` reads the arguments of the program. There are three commands; the options for verbosity and
for the configuration may stand before or after the command, and what stands behind it counts. No option may
be given twice on one side of the command.
-/

namespace ImportLint

/-- How a report is written. -/
inductive Format
  | text
  | json
  | compact
  deriving DecidableEq, Repr

namespace Format

def ofName? : String → Option Format
  | "text" => some text
  | "json" => some json
  | "compact" => some compact
  | _ => none

end Format

/-- What the program is asked to do. -/
inductive Action
  /-- Check the inventory at a path by the configuration of a project. -/
  | check (input : String) (format : Format) (project : String)
  | listRules
  /-- Write a configuration to start from, in the place of an old one if `force`. -/
  | init (force : Bool)
  deriving DecidableEq, Repr

/-- What a command line asks for. -/
structure Request where
  verbose : Bool
  /-- The path of the configuration, if it is named. -/
  config? : Option String
  action : Action
  deriving DecidableEq, Repr

/-- Why a command line is no request. -/
inductive LineStop
  /-- It asks for the version of the program. -/
  | version
  /-- It asks for help. -/
  | help
  /-- It is malformed. -/
  | usage
  deriving DecidableEq, Repr

namespace Command

/-- The part of a command line that an argument belongs to. -/
inductive Level
  /-- Before the command. -/
  | top
  | check
  | listRules
  | init
  deriving DecidableEq, Repr

/-- An option. -/
inductive Switch
  | verbose
  | config
  | format
  | project
  | force
  | version
  | help
  deriving DecidableEq, Repr

namespace Switch

/-- Whether a value belongs to the option. -/
def takesValue : Switch → Bool
  | config | format | project => true
  | _ => false

end Switch

namespace Level

/-- The command with a name. -/
def ofName? : String → Option Level
  | "check" => some check
  | "list-rules" => some listRules
  | "init" => some init
  | _ => none

/-- The option with a letter. -/
def short? : Level → Char → Option Switch
  | _, 'v' => some .verbose
  | _, 'c' => some .config
  | _, 'h' => some .help
  | top, 'V' => some .version
  | check, 'f' => some .format
  | check, 'p' => some .project
  | _, _ => none

/-- The option with a name. -/
def long? : Level → String → Option Switch
  | _, "verbose" => some .verbose
  | _, "config" => some .config
  | _, "help" => some .help
  | top, "version" => some .version
  | check, "format" => some .format
  | check, "project" => some .project
  | init, "force" => some .force
  | _, _ => none

end Level

/-- What has been given at a level. -/
structure Given where
  verbose : Bool
  config? : Option String
  format? : Option Format
  project? : Option String
  input? : Option String
  force : Bool

namespace Given

def nothing : Given :=
  { verbose := false, config? := none, format? := none, project? := none, input? := none, force := false }

/-- A path must not be empty. -/
def checkPath (path : String) : Except LineStop String :=
  if path = "" then .error .usage else .ok path

/-- Gives an option without value. -/
def turnOn (g : Given) : Switch → Except LineStop Given
  | .verbose => if g.verbose then .error .usage else .ok { g with verbose := true }
  | .force => if g.force then .error .usage else .ok { g with force := true }
  | .version => .error .version
  | .help => .error .help
  | _ => .error .usage

/-- Gives an option with its value. -/
def put (g : Given) (value : String) : Switch → Except LineStop Given
  | .config =>
    if g.config?.isSome then .error .usage
    else (fun p => { g with config? := some p }) <$> checkPath value
  | .project =>
    if g.project?.isSome then .error .usage
    else (fun p => { g with project? := some p }) <$> checkPath value
  | .format =>
    match g.format?, Format.ofName? value with
    | none, some f => .ok { g with format? := some f }
    | _, _ => .error .usage
  | _ => .error .usage

/-- Gives an argument that belongs to no option. -/
def putInput (g : Given) (level : Level) (value : String) : Except LineStop Given :=
  if level = .check ∧ g.input?.isNone then (fun p => { g with input? := some p }) <$> checkPath value
  else .error .usage

end Given

/-- Reads a cluster of option letters. An option with a value takes the rest of the cluster, or waits for the
next argument. -/
def readLetters (level : Level) (g : Given) : List Char → Except LineStop (Given × Option Switch)
  | [] => .ok (g, none)
  | c :: cs =>
    match level.short? c with
    | none => .error .usage
    | some o =>
      if o.takesValue then
        match cs with
        | [] => .ok (g, some o)
        | '=' :: value => (fun g => (g, none)) <$> g.put (String.ofList value) o
        | value => (fun g => (g, none)) <$> g.put (String.ofList value) o
      else g.turnOn o >>= fun g => readLetters level g cs

/-- Reads an option by its name, with a value behind an equality sign if there is one. -/
def readName (level : Level) (g : Given) (text : List Char) : Except LineStop (Given × Option Switch) :=
  let name := text.takeWhile (· != '=')
  match level.long? (String.ofList name), text.dropWhile (· != '=') with
  | none, _ => .error .usage
  | some o, [] => if o.takesValue then .ok (g, some o) else (fun g => (g, none)) <$> g.turnOn o
  | some o, _ :: value =>
    if o.takesValue then (fun g => (g, none)) <$> g.put (String.ofList value) o else .error .usage

/-- Reads the arguments of a level up to a command. `waiting?` is the option that waits for its value, and
behind two hyphens, if `literal`, no argument is an option or a command. -/
def readLevel (level : Level) :
    Bool → Option Switch → Given → List String → Except LineStop (Given × Option (Level × List String))
  | _, some _, _, [] => .error .usage
  | _, none, g, [] => .ok (g, none)
  | literal, waiting?, g, arg :: args =>
    match literal, waiting?, arg.toList with
    | true, _, _ => g.putInput level arg >>= fun g => readLevel level true none g args
    | false, some _, '-' :: _ :: _ => .error .usage
    | false, some o, _ => g.put arg o >>= fun g => readLevel level false none g args
    | false, none, ['-', '-'] => readLevel level true none g args
    | false, none, '-' :: '-' :: name =>
      readName level g name >>= fun (g, waiting?) => readLevel level false waiting? g args
    | false, none, '-' :: c :: cs =>
      readLetters level g (c :: cs) >>= fun (g, waiting?) => readLevel level false waiting? g args
    | false, none, _ =>
      match level, Level.ofName? arg with
      | .top, some command => .ok (g, some (command, args))
      | .top, none => if arg = "help" then .error .help else .error .usage
      | _, _ => g.putInput level arg >>= fun g => readLevel level false none g args

/-- The action of a command with what is given behind it. -/
def action (g : Given) : Level → Except LineStop Action
  | .top => .error .usage
  | .check =>
    match g.input? with
    | none => .error .usage
    | some input => .ok (.check input (g.format?.getD .text) (g.project?.getD "."))
  | .listRules => .ok .listRules
  | .init => .ok (.init g.force)

end Command

namespace Request

open Command (Given readLevel)

/-- The request of a command line; `fallback?` is the value of the variable that names the configuration
where the line does not. A level on which it would be used must not find it empty. -/
def ofLine (fallback? : Option String) (args : List String) : Except LineStop Request := do
  let (top, command?) ← readLevel .top false none .nothing args
  match command? with
  | none => .error .usage
  | some (level, rest) =>
    let (g, _) ← readLevel level false none .nothing rest
    let action ← Command.action g level
    if fallback? = some "" ∧ (top.config?.isNone ∨ g.config?.isNone) then .error .usage
    else
      pure
        { verbose := top.verbose || g.verbose
          config? := (g.config?.or top.config?).or fallback?
          action := action }

end Request

end ImportLint
