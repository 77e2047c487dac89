import HttpQuery.CommandLine.Run
/-! # The program

The outer layer: it reads the arguments, the environment and the configuration files, and prints the
outcome of the run. No transport is built in, so every connection is refused. -/

namespace HttpQuery

/-- What stands under a path. -/
def readPathEntry (path : String) : IO PathEntry := do
  try
    let content ← IO.FS.readBinFile path
    return .file content.toList
  catch e =>
    match e with
    | .noFileOrDirectory .. => return .absent .missing
    | .inappropriateType _ code _ => return if code = 20 then .absent .notDirectory else .directory
    | .invalidArgument _ code _ => return .absent (if code = 36 then .tooLong else .zero)
    | _ => return .directory

/-- The files that a run may read: the one of its arguments or of the environment, and those that
are looked for. -/
def readFileState (paths : List String) : IO FileState := do
  let entries ← paths.mapM fun path => do return (path, ← readPathEntry path)
  return fun path => (entries.lookup path).getD (.absent .missing)

/-- The configuration file that the arguments name, if any. -/
def configPathOf : Option Invocation → List String
  | some (.run _ choices) => choices.config.toList
  | _ => []

/-- Whether colours are shown: if they are forced, or if they are allowed on a terminal. -/
def showsColours : IO Bool := do
  let off ← IO.getEnv "NO_COLOR"
  let forced ← IO.getEnv "CLICOLOR_FORCE"
  if forced.isSome && forced != some "0" then return true
  else if off.isSome then return false
  else (← IO.getStdout).isTty

end HttpQuery

open HttpQuery in
/-- Run the program. -/
def main (arguments : List String) : IO UInt32 := do
  let configVariable ← IO.getEnv "SQLREQ_CONFIG"
  let directories : UserDirectories :=
    ⟨← IO.getEnv "XDG_CONFIG_HOME", (← IO.getEnv "HOME").filter (· ≠ "")⟩
  let invocation := Invocation.ofArguments configVariable arguments
  let files ← readFileState (configPathOf invocation ++ searchPaths directories)
  let environment : Environment := {
    colours := ← showsColours
    configVariable := configVariable
    files := files
    directories := directories
    transport := fun _ => none }
  let outcome := runCommandLine environment arguments
  (← IO.getStdout).write ⟨outcome.output.toArray⟩
  (← IO.getStdout).flush
  (← IO.getStderr).putStr outcome.errors
  return outcome.status.toUInt32
