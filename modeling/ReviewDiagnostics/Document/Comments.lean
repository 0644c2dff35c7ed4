/-!
# Comments

Documents may carry two kinds of comments: `//` up to the end of the line, and `/*` up to `*/`.
Blanking replaces every character of a comment but its line ends by a space, so that all positions
stay as they are.  Inside a quoted text nothing is a comment.
-/

namespace ReviewDiagnostics.Comments

/-- Where in the text a character stands. -/
inductive Place where
  | outside
  | quoted
  | escaped
  | line
  | block
  /-- At the second character of the mark that opens a block. -/
  | blockStart
  /-- At the second character of the mark that closes a block. -/
  | blockEnd

/-- The characters from one place on, comments blanked. -/
def blankFrom : Place → List Char → List Char
  | _, [] => []
  | .outside, c :: cs =>
    if c = '"' then c :: blankFrom .quoted cs
    else if c = '/' ∧ cs.head? = some '/' then ' ' :: blankFrom .line cs
    else if c = '/' ∧ cs.head? = some '*' then ' ' :: blankFrom .blockStart cs
    else c :: blankFrom .outside cs
  | .quoted, c :: cs =>
    if c = '\\' then c :: blankFrom .escaped cs
    else if c = '"' then c :: blankFrom .outside cs
    else c :: blankFrom .quoted cs
  | .escaped, c :: cs => c :: blankFrom .quoted cs
  | .blockStart, _ :: cs => ' ' :: blankFrom .block cs
  | .line, c :: cs => if c = '\n' then c :: blankFrom .outside cs else ' ' :: blankFrom .line cs
  | .block, c :: cs =>
    if c = '*' ∧ cs.head? = some '/' then ' ' :: blankFrom .blockEnd cs
    else (if c = '\n' then c else ' ') :: blankFrom .block cs
  | .blockEnd, _ :: cs => ' ' :: blankFrom .outside cs

def blank (cs : List Char) : List Char :=
  blankFrom .outside cs

theorem length_blankFrom (place : Place) (cs : List Char) :
    (blankFrom place cs).length = cs.length := by
  induction cs generalizing place with
  | nil => cases place <;> rfl
  | cons c cs ih => cases place <;> simp only [blankFrom] <;> (repeat' split) <;> simp [ih]

end ReviewDiagnostics.Comments
