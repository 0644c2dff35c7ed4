import ReviewDiagnostics.Command.Run
import Std.Time.Format

/-!
# The program

Runs are carried out on the system: files, the standard streams and the clock are the real ones.
-/

namespace ReviewDiagnostics.Program

/-- The cause that an error of the system is. -/
def causeOf : IO.Error → FileCause
  | .noFileOrDirectory .. => .missing
  | .alreadyExists .. => .present
  | .inappropriateType _ 21 _ => .isDirectory
  | .inappropriateType .. => .notADirectory
  | .permissionDenied _ number reason => .other number.toNat reason
  | .invalidArgument _ number reason => .other number.toNat reason
  | .resourceExhausted _ number reason => .other number.toNat reason
  | error => .other 5 (toString error)

/-- Does something with a path that the system can have. -/
def attempt {α : Type} (p : FilePath) (operation : String → IO α) : IO (Except FileCause α) := do
  if p.shown.toList.contains '\x00' then return .error .nullCharacter
  else
    try return .ok (← operation p.shown)
    catch error => return .error (causeOf error)

/-- An entry of the current directory, which can be asked for what it is. -/
def entryAt (p : FilePath) : IO.FS.DirEntry := ⟨".", p.shown⟩

instance : Host IO where
  content p := attempt p fun path => do return (← IO.FS.readBinFile path).toList
  write p s := attempt p fun path => IO.FS.writeFile path s
  append p s := attempt p fun path => do
    (← IO.FS.Handle.mk path .append).putStr s
  addDirectory p := attempt p fun path => IO.FS.createDir path
  look p := attempt p fun _ => do discard (entryAt p).path.metadata
  isDirectory p := (entryAt p).path.isDir
  input := do return (← (← IO.getStdin).readBinToEnd).toList
  print := IO.println
  printError := IO.eprintln
  showsColor := do (← IO.getStdout).isTty
  environment? name := IO.getEnv name
  clock := do return (← IO.monoNanosNow) / 1000
  timestamp := do return (← Std.Time.PlainDateTime.now).format "uuuu-MM-dd HH:mm:ss"

end ReviewDiagnostics.Program

/-- Carries a run out; a fault that nothing handles ends it with a message. -/
def main (args : List String) : IO UInt32 := do
  match ← (ReviewDiagnostics.Command.execute args : IO _) with
  | .ok code => return code.toUInt32
  | .error fault =>
    IO.eprintln fault.logged
    return 1
