import Playbook.CommandLine

/-!
# The program

The program as it is started. What it shows depends only on the files it opens, so they are found by
running it on the files known so far, and reading those that it has opened in vain, until there is
none left.
-/

open Playbook

/-- What the operating system has said about a path. -/
def systemErrorOf (path : String) (e : IO.Error) : SystemError :=
  match e with
  | .noFileOrDirectory .. => FileSystem.notFound path
  | .inappropriateType .. => ⟨21, "Is a directory", some path⟩
  | .permissionDenied .. => ⟨13, "Permission denied", some path⟩
  | e => ⟨5, toString e, some path⟩

/-- Open a path. -/
def openPath (path : String) : IO (Except ReadFault Bytes) := do
  if path.toList.contains '\x00' then return .error .nullCharacter
  try
    return .ok (← IO.FS.readBinFile path).toList
  catch e => return .error (.system (systemErrorOf path e))

/-- Open all files that the program needs, starting from those that are known. -/
partial def openAll (directory : String) (env : Environment) (args : List String)
    (known : List (String × Except ReadFault Bytes)) : IO FileSystem := do
  let fs := FileSystem.ofAnswers directory known
  match (CommandLine.opened fs env args).find? fun p => (known.lookup p).isNone with
  | none => return fs
  | some path => openAll directory env args (known ++ [(path, ← openPath path)])

/-- The variables of the environment that the program knows. -/
def readEnvironment : IO Environment := do
  let names := ["NO_COLOR", "FORCE_COLOR", "TERM", Settings.playbookVariable,
    Settings.rolesPathVariable]
  return (← names.mapM fun name => do
    match ← IO.getEnv name with
    | some value => return [(name, value)]
    | none => return []).flatten

/-- Run the program. -/
def main (args : List String) : IO UInt32 := do
  let env ← readEnvironment
  let stderr ← IO.getStderr
  let stream : Stream := if ← stderr.isTty then .terminal else .pipe
  let fs ← openAll (← IO.currentDir).toString env args []
  let output := CommandLine.perform fs env stream args
  IO.print output.out
  stderr.putStr output.err
  match output.ending with
  | .returned code | .left code => return code.toUInt32
  | .failed f =>
    stderr.putStrLn f.message
    return 1
