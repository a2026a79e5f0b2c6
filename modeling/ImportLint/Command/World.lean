/-!
# The world of a command

What a command can learn about its surroundings: what is at a path, the environment, and the standard input.
`FileTree` is a directory held in memory; it answers for the paths below it.
-/

namespace ImportLint

/-- What is at a path. -/
inductive FileState
  | absent
  | directory
  /-- A regular file with its text, if it can be read and is text. -/
  | file (text? : Option String)
  /-- Anything else, such as a pipe, with its text, if it can be read and is text. -/
  | special (text? : Option String)
  deriving DecidableEq, Repr

namespace FileState

def exists? : FileState → Bool
  | absent => false
  | _ => true

def isFile : FileState → Bool
  | file _ => true
  | _ => false

/-- The text of what can be read. -/
def text? : FileState → Option String
  | file t => t
  | special t => t
  | _ => none

end FileState

/-- The surroundings of a command. -/
structure World where
  /-- What is at a path. -/
  look : String → FileState
  /-- The variables of the environment. -/
  env? : String → Option String
  /-- The directory of the user. -/
  home? : Option String
  /-- The text of the standard input, if it is text. -/
  input? : Option String

/-- A path below a directory. -/
def joinPath (dir name : String) : String :=
  if name.startsWith "/" then name
  else if dir = "" ∨ dir.endsWith "/" then dir ++ name
  else dir ++ "/" ++ name

/-- The steps of a path: its names, without repeated slashes, and without dots except at the start. -/
def pathSteps (path : String) : List String :=
  match path.splitOn "/" with
  | first :: rest =>
    (if first = "" then ["/"] else [first]) ++ rest.filter fun s => s != "" && s != "."
  | [] => []

/-- Whether a path stands for the standard input. -/
def isStandardInput (path : String) : Bool := pathSteps path == ["-"]

/-- A directory in memory: the files with their texts, and the directories that hold no files, each by its
names from the top. -/
structure FileTree where
  files : List (List String × Option String)
  directories : List (List String)

namespace FileTree

/-- Whether there is a directory under the given names. -/
def hasDirectory (t : FileTree) (names : List String) : Bool :=
  names.isEmpty || t.directories.any (names.isPrefixOf ·) ||
    t.files.any fun f => names.isPrefixOf f.1 && names.length < f.1.length

/-- What is under the given names. -/
def at? (t : FileTree) (names : List String) : FileState :=
  match t.files.find? fun f => f.1 == names with
  | some f => .file f.2
  | none => if t.hasDirectory names then .directory else .absent

/-- Walks from a directory along the parts of a path. An empty part or a dot stays, two dots go up, and nothing
lies beyond the top. -/
def walk (t : FileTree) (names : List String) : List String → FileState
  | [] => t.at? names
  | part :: parts =>
    match t.at? names with
    | .directory =>
      if part = "" ∨ part = "." then walk t names parts
      else if part = ".." then
        match names with
        | [] => .absent
        | _ :: _ => walk t names.dropLast parts
      else walk t (names ++ [part]) parts
    | _ => .absent

/-- What is at a path, seen from the top of the tree. -/
def look (t : FileTree) (path : String) : FileState :=
  if path = "" ∨ path.startsWith "/" then .absent else t.walk [] (path.splitOn "/")

/-- The tree of a list of paths with their contents; a path that ends in a slash is an empty directory. -/
def ofList (entries : List (String × Option String)) : FileTree :=
  let names (path : String) : List String := (path.splitOn "/").filter fun s => s != "" && s != "."
  { files := (entries.filter fun e => !e.1.endsWith "/").map fun e => (names e.1, e.2)
    directories := (entries.filter fun e => e.1.endsWith "/").map fun e => names e.1 }

end FileTree

end ImportLint
