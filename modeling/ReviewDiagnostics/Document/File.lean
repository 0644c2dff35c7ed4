import ReviewDiagnostics.Document.Source
import ReviewDiagnostics.Files.FilePath

/-!
# Documents in files

Whatever keeps a file from being read is a failure of the source, like a text that is no document.
-/

namespace ReviewDiagnostics.Source

/-- The document at a path, from what is found there. -/
def ofContent (allowComments : Bool) (p : FilePath) :
    Except FileCause (List UInt8) → Except Fault (Except SourceFault Document)
  | .ok bytes => .ok (ofFile allowComments bytes)
  | .error cause =>
    let f : FileFault := ⟨cause, p.shown⟩
    if cause = .nullCharacter then .error (.file f)
    else .ok (.error (.unreadable s!"Failed to read file: {f.message}"))

end ReviewDiagnostics.Source
