import PodRedirect.CommandLine.Program
import Std.Time.DateTime.Timestamp

/-!
# The executable

The program on the machine that it is called on. This executable starts no processes: it plans,
writes scripts and simulates, and a run that needs a process fails with a message.

## Main definitions

* `Executable.host`: a host that knows some commands and starts no process
* `Executable.run`: the program for the arguments of the command line
* `main`: the entry point
-/

namespace PodRedirect.Executable

/-- The numbers of the errors of the file system that occur when a file is read or written. -/
def fileError (e : IO.Error) : FileError :=
  match e with
  | .noFileOrDirectory _ _ _ => ⟨2, "No such file or directory"⟩
  | .permissionDenied _ _ _ => ⟨13, "Permission denied"⟩
  | .inappropriateType _ _ _ => ⟨21, "Is a directory"⟩
  | e => ⟨5, toString e⟩

/-- The content of a file. -/
def readFile (path : String) : IO FileContent := do
  try return .bytes (← IO.FS.readBinFile path).toList
  catch e => return .error (fileError e)

/-- The file can be opened. -/
def canOpen (path : String) : IO Bool := do
  try
    let _ ← IO.FS.Handle.mk path .read
    return true
  catch _ => return false

/-- The name is that of a command, as the search path tells. -/
def isCommand (name : String) : IO Bool := do
  if Text.contains name "/" then canOpen name
  else
    let dirs := Text.fields ':' ((← IO.getEnv "PATH").getD "")
    dirs.anyM fun dir => canOpen (dir ++ "/" ++ name)

/-- The commands that a run may ask for. -/
def commandNames (a : CommandLine.Arguments) : List String :=
  let plain := [Backend.command false, Backend.command true]
  let binaries := plain.flatMap fun c =>
    [Mode.plain, Mode.legacy, Mode.nft].map (Backend.binaryName c)
  let paths := [Setting.firewallBinPath, Setting.firewallSaveBinPath].filterMap fun k =>
    (Settings.getD a.given k .null).said.toOption
  paths ++ binaries ++ binaries.map Backend.saveName

/-- A host on which the given commands are known and no process starts. -/
def host (known : List String) : Host Unit where
  resolves := fun _ name => (known.contains name, ())
  start := fun _ _ => (.notStarted "processes are not started by this executable", ())

/-- Runs the program: its status. -/
def run (argv : List String) : IO UInt32 := do
  let now := (← Std.Time.Timestamp.now).toMillisecondsSinceUnixEpoch.val
  let a := match CommandLine.parse argv with
    | .ok a => a
    | .error _ => CommandLine.Arguments.empty
  let config ← match a.config.isTruthy, a.config.said with
    | true, .ok path => readFile (FilePath.tidy path)
    | _, _ => pure (FileContent.bytes [])
  let known ← (commandNames a).filterM isCommand
  let env : Environment :=
    { now := Instant.ofBinary64 (Binary64.ofRatio (now < 0) now.natAbs 1000)
      read := fun _ => config
      write := fun _ _ => none }
  let (result, _) := CommandLine.program env argv (host known) ⟨(), #[]⟩
  IO.print result.output
  IO.eprint result.errors
  for (path, text) in result.files do
    try
      IO.FS.writeFile path text
      IO.setAccessRights path
        { user := ⟨true, true, true⟩, group := ⟨true, false, true⟩, other := ⟨true, false, true⟩ }
    catch e =>
      IO.eprint (CommandLine.failureLine (.rejected (.unwritable path (fileError e))))
      return 1
  match result.ending with
  | .ok status => return UInt32.ofNat status
  | .error f =>
    IO.eprint (f.message ++ "\n")
    return 1

end PodRedirect.Executable

/-- Runs the program with the arguments of the command line. -/
def main (argv : List String) : IO UInt32 :=
  PodRedirect.Executable.run argv
