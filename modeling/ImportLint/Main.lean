import ImportLint.Command.Run

/-!
# The program

Runs a command in the world it finds: reads the environment and the files of interest, gives the command line
to `Command.run`, and writes what that leaves behind.
-/

namespace ImportLint.Main

/-- Reads a stream to its end. -/
partial def readAll (s : IO.FS.Stream) (bytes : ByteArray) : IO ByteArray := do
  let chunk ← s.read 65536
  if chunk.isEmpty then return bytes
  readAll s (bytes ++ chunk)

/-- Looks at a path. -/
def lookAt (path : String) : IO FileState := do
  let entry : IO.FS.DirEntry := { root := ".", fileName := path }
  try
    let text? := String.fromUTF8? (← IO.FS.readBinFile path)
    match (← entry.path.metadata).type with
    | .file => return .file text?
    | _ => return .special text?
  catch
    | .noFileOrDirectory .. => return .absent
    | .inappropriateType .. => return .directory
    | _ => return .file none

/-- The world without files and input. -/
def surroundings : IO World := do
  let config? ← IO.getEnv Command.configVariable
  let directory? ← IO.getEnv "MODGRAPH_LINT_CONFIG_DIR"
  let home? ← IO.getEnv "HOME"
  let env? (name : String) : Option String :=
    if name = Command.configVariable then config?
    else if name = "MODGRAPH_LINT_CONFIG_DIR" then directory?
    else none
  return { look := fun _ => .absent, env? := env?, home? := home?, input? := none }

end ImportLint.Main

open ImportLint in
/-- Runs the command that the arguments ask for. -/
def main (args : List String) : IO UInt32 := do
  let w ← Main.surroundings
  let paths := Command.pathsOfInterest w args
  let states ← paths.mapM fun p => do return (p, ← Main.lookAt p)
  let input? ← if paths.any isStandardInput then
      (do return String.fromUTF8? (← Main.readAll (← IO.getStdin) .empty))
    else pure none
  let look (path : String) : FileState := (states.lookup path).getD .absent
  let o := Command.run { w with look := look, input? := input? } args
  for l in o.log do IO.eprintln l.text
  match o.failure? with
  | some f => IO.eprintln ("Error: " ++ f.text)
  | none => pure ()
  try
    for (path, text) in o.written do IO.FS.writeFile path text
  catch e =>
    IO.eprintln ("Error: " ++ toString e)
    return 2
  IO.print o.output
  return UInt32.ofNat o.exit
