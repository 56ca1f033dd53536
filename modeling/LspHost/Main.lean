import LspHost.CommandLine.Serve
import LspHost.Machine.Terminal

/-!
# The programs

The first argument names the program, the others are its arguments. The program works on a picture
of the files around the current directory, the arguments and the search path, taken when it starts.
In the picture everything on the search path may be run, and only shell scripts do something when
they are.
-/

namespace LspHost.Terminal

open Machine

/-- The variables of the environment that matter. -/
def relevantEnvironment : IO (List (String × String)) := do
  let names := "PATH" :: "COLUMNS" :: Config.namedSettings.map Prod.fst
  names.filterMapM fun name => do return (← IO.getEnv name).map (name, ·)

/-- What is at a path; the content of a file is taken only if it is asked for. -/
def picture (directory name : String) (withContent executable : Bool) : IO (Option Node) := do
  let path := (← IO.currentDir) / directory / name
  try
    match (← path.symlinkMetadata).type with
    | .dir => return some .directory
    | .symlink => return some (.link (← IO.FS.realPath path).toString)
    | _ =>
      let content ← if withContent then IO.FS.readBinFile path else pure .empty
      return some (.file content executable)
  catch _ => return none

/-- What is directly inside a directory, with the contents of the files whose names are wanted. -/
def inside (location : Location) (wanted : String → Bool) (executable : Bool) : IO Files := do
  let directory := Shell.locationText location
  let names ← try
      let entries ← ((← IO.currentDir) / directory).readDir
      pure (entries.toList.map IO.FS.DirEntry.fileName)
    catch _ => pure []
  let nodes ← names.filterMapM fun name => do
    let node ← picture directory name (wanted name) executable
    return node.map (location ++ [name], ·)
  return { nodes := (location, .directory) :: nodes }

/-- Two pictures in one. -/
def join (a b : Files) : Files := { nodes := a.nodes ++ b.nodes }

/-- The picture of the directories that lead to a place, and of the place itself, with the contents
of that place and of configuration files. -/
def around (location : Location) : IO Files :=
  (List.range (location.length + 1)).foldlM (fun files count => do
    let above := location.take count
    let wanted (name : String) : Bool := name.endsWith ".toml" || location == above ++ [name]
    return join files (← inside above wanted false)) {}

/-- The machine that the program runs on. -/
def machine (arguments : List String) : IO Machine := do
  let here := Text.cut '/' (← IO.currentDir).toString
  let directory := Files.normalise here
  let environment ← relevantEnvironment
  let place (name : String) : Location :=
    Files.normalise ((if name.startsWith "/" then [] else directory) ++ Text.cut '/' name)
  let search := (environment.find? (·.1 == "PATH")).map Prod.snd
  let tools ← (Files.searchDirectories search).mapM fun name =>
    inside (place name) (fun _ => true) true
  let rest ← (directory :: arguments.map place).mapM around
  return { files := (tools ++ rest).foldl join systemFiles, directory, environment }

/-- Runs a program and prints its report; gives the exit status. -/
def execute (arguments : List String) : IO UInt32 := do
  let m ← machine arguments
  let (report, _) := match arguments with
    | "envresolver" :: rest => CommandLine.resolverMain terminal rest m
    | "serverlink" :: rest | rest => CommandLine.serverMain terminal rest m
  IO.print report.output
  IO.eprint report.errors
  match report.ending with
  | .ok status => return status.toUInt32
  | .error fault =>
    IO.eprintln fault.message
    return 1

end LspHost.Terminal

/-- The entry point. -/
def main (arguments : List String) : IO UInt32 := LspHost.Terminal.execute arguments
