import ClusterBilling.CommandLine.Program
import Std.Time.DateTime.Timestamp

/-!
# The command line

The outer layer of the program: it collects the words, the environment, the time and the files that
the command line may read, lets the program answer, and prints. It has no way to reach a server, so
that downloading ends with the fault that says so, and nothing is written to a file.
-/

namespace ClusterBilling.Main

open ClusterBilling.CommandLine

/-- The tree with what stands at a path; what cannot be read counts as a directory. A path through a
file leads nowhere: it cannot even be opened, so that the error names it. -/
def loadFile (files : FileTree) (path : String) : IO FileTree := do
  match ← (IO.FS.readBinFile path).toBaseIO with
  | .ok bytes => return (files.write? path bytes.toList).getD files
  | .error (.noFileOrDirectory ..) | .error (.inappropriateType (some _) ..) => return files
  | .error _ => return (files.makeDirectory? path).getD files

/-- The directory for data. -/
def dataDirectory : IO String := do
  match ← IO.getEnv "XDG_DATA_HOME" with
  | some path => if Path.isAbsolute path then return path else fallback
  | none => fallback
where
  /-- The directory for data below the home directory. -/
  fallback : IO String := do
    match ← IO.getEnv "HOME" with
    | some home => return Path.join (Path.join home ".local") "share"
    | none => return "."

/-- The variables of the environment that arguments stand in for. -/
def environment : IO Environment := do
  let names := Argument.everywhere.filterMap Argument.environmentName?
  let values ← names.mapM fun name => return (name, ← IO.getEnv name)
  return fun name => (values.find? fun entry => entry.1 == name).bind Prod.snd

/-- The present instant, the beginning of time if the clock is out of range. -/
def now : IO Instant := do
  let nanos := (← Std.Time.Timestamp.now).toNanosecondsSinceUnixEpoch.val
  let seconds := nanos / 1000000000
  return (Instant.ofParts? (seconds / 86400) (seconds % 86400).toNat
    (nanos % 1000000000).toNat).getD .epoch

/-- The files a command line may read. -/
def loadFiles (directory : String) (env : Environment) (words : List String) : IO FileTree := do
  let working := Path.components (← IO.currentDir).toString
  let start : FileTree := ⟨.empty, working⟩
  match Arguments.parse env words with
  | .ok arguments => (Program.mayRead directory arguments).foldlM loadFile start
  | .error _ => return start

end ClusterBilling.Main

open ClusterBilling

/-- Runs the program. -/
def main (words : List String) : IO UInt32 := do
  let env ← Main.environment
  let directory ← Main.dataDirectory
  let files ← Main.loadFiles directory env words
  let result := Program.call ⟨files, directory, ← Main.now, Download.unreachable, ()⟩ env words
  IO.print result.output
  if let some fault := result.fault then IO.eprintln ("Error: " ++ fault.message)
  return UInt32.ofNat result.code
