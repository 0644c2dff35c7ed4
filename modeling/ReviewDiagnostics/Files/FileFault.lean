import ReviewDiagnostics.Text.Quoted

/-!
# File faults

Why a file cannot be opened or a directory not be made.
-/

namespace ReviewDiagnostics

/-- What is wrong with a place. -/
inductive FileCause where
  /-- Nothing is there. -/
  | missing
  /-- Something is there already. -/
  | present
  | notADirectory
  | isDirectory
  /-- No place has a name with a null character in it. -/
  | nullCharacter
  | other (number : Nat) (reason : String)
  deriving DecidableEq

/-- A name, or a whole path, is longer than a system keeps. -/
def FileCause.nameTooLong : FileCause := .other 36 "File name too long"

/-- Whether a cause says that nothing can be at a place. -/
def FileCause.isAbsence : FileCause → Bool
  | .missing | .notADirectory | .nullCharacter => true
  | _ => false

/-- The number and the wording that a system has for a cause. -/
def FileCause.reason? : FileCause → Option (Nat × String)
  | .missing => some (2, "No such file or directory")
  | .present => some (17, "File exists")
  | .notADirectory => some (20, "Not a directory")
  | .isDirectory => some (21, "Is a directory")
  | .nullCharacter => none
  | .other number reason => some (number, reason)

/-- A cause and the path it is about. -/
structure FileFault where
  cause : FileCause
  path : String
  deriving DecidableEq

def FileFault.message (f : FileFault) : String :=
  match f.cause.reason? with
  | some (number, reason) => s!"[Errno {number}] {reason}: {Text.quoted f.path}"
  | none => "embedded null byte"

end ReviewDiagnostics
