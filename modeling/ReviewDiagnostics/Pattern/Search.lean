import ReviewDiagnostics.Pattern.Basic

/-!
# Searching for patterns

A pattern is tried at a spot of a text together with what has to match after it.  The ways to match are
tried in the order of the pattern: earlier alternatives first, and more or fewer rounds of a
repetition first as it says.  A repetition does not start a further round where the last one that was
not owed started, so that rounds without extent come to an end.
-/

namespace ReviewDiagnostics.Pattern

/-- A position in a text, and where groups started and ended so far, the latest first.  The start of
group `n` is kept under `2 * n`, its end under `2 * n + 1`. -/
structure Spot where
  position : Nat
  marks : List (Nat × Nat)

namespace Spot

def advance (s : Spot) (n : Nat) : Spot :=
  { s with position := s.position + n }

/-- A spot with the position kept under a key. -/
def mark (s : Spot) (key : Nat) : Spot :=
  { s with marks := (key, s.position) :: s.marks }

/-- Where a group started and ended last, if it has a text. -/
def group? (s : Spot) (number : Nat) : Option (Nat × Nat) :=
  match s.marks.lookup (2 * number), s.marks.lookup (2 * number + 1) with
  | some start, some stop => if start ≤ stop then some (start, stop) else none
  | _, _ => none

end Spot

/-- What has to match after a pattern. -/
abbrev Rest := Spot → Option Spot

/-- Whether the character at a position is one that words are made of. -/
def wordAt (text : Array Char) (alphabet : Alphabet) (position : Nat) : Bool :=
  text[position]?.any (CharClass.word.has alphabet)

/-- Whether a position is where an anchor asks. -/
def holds (text : Array Char) (position : Nat) : Anchor → Bool
  | .start => position == 0
  | .lineStart => position == 0 || text[position - 1]? == some '\n'
  | .stop => position == text.size || (position + 1 == text.size && text[position]? == some '\n')
  | .lineStop => position == text.size || text[position]? == some '\n'
  | .veryEnd => position == text.size
  | .boundary negated alphabet =>
    !text.isEmpty &&
      ((position != 0 && wordAt text alphabet (position - 1)) != wordAt text alphabet position) != negated

/-- Whether a character has a place in a set. -/
def takes (text : Array Char) (set : CharSet) (position : Nat) : Bool :=
  text[position]?.any set.has

/-- How many of the next `limit` characters are in a set, up to the first that is not. -/
def reach (text : Array Char) (set : CharSet) (position : Nat) : (limit : Nat) → Nat
  | 0 => 0
  | limit + 1 => if takes text set position then reach text set (position + 1) limit + 1 else 0

/-- The rest after `low + n` characters, or after fewer, but not fewer than `low`. -/
def descend (k : Rest) (s : Spot) (low : Nat) : Nat → Option Spot
  | 0 => k (s.advance low)
  | n + 1 => (k (s.advance (low + n + 1))).or (descend k s low n)

/-- The rest after `low` characters, or after more, up to `n` more. -/
def ascend (k : Rest) (s : Spot) (low : Nat) : Nat → Option Spot
  | 0 => k (s.advance low)
  | n + 1 => (k (s.advance low)).or (ascend k s (low + 1) n)

def runSet (text : Array Char) (set : CharSet) (greed : Greed) (low : Nat) (high : Option Nat)
    (k : Rest) (s : Spot) : Option Spot :=
  let left := text.size - s.position
  let count := reach text set s.position ((high.map (min left ·)).getD left)
  if count < low then none
  else
    match greed with
    | .greedy => descend k s low (count - low)
    | .lazy => ascend k s low (count - low)
    | .possessive => k (s.advance count)

/-- A greedy or lazy repetition after `count` rounds, of which the last that was not owed started at
`last?`.  The fuel bounds the rounds. -/
def rounds (body : Rest → Rest) (eager : Bool) (low : Nat) (high : Option Nat) (k : Rest) :
    (fuel count : Nat) → (last? : Option Nat) → Rest
  | 0, _, _, s => k s
  | fuel + 1, count, last?, s =>
    if count < low then body (rounds body eager low high k fuel (count + 1) last?) s
    else
      let further (_ : Unit) :=
        if high.all (count < ·) && last? != some s.position then
          body (rounds body eager low high k fuel (count + 1) (some s.position)) s
        else none
      if eager then (further ()).or (k s) else (k s).or (further ())

/-- A possessive repetition after `count` rounds: where it ends. -/
def exhaust (body : Rest) (low : Nat) (high : Option Nat) :
    (fuel count : Nat) → (last? : Option Nat) → Rest
  | 0, _, _, s => some s
  | fuel + 1, count, last?, s =>
    if count < low then (body s).bind (exhaust body low high fuel (count + 1) last?)
    else if high.all (count < ·) && last? != some s.position then
      match body s with
      | none => some s
      | some t => exhaust body low high fuel (count + 1) (some s.position) t
    else some s

/-- Whether two stretches of a text of the same length are equal under a folding. -/
def sameText (text : Array Char) (folding : Option Alphabet) (a b : Nat) : (length : Nat) → Bool
  | 0 => true
  | length + 1 =>
    (match text[a]?, text[b]? with
      | some x, some y =>
        match folding with
        | none => x == y
        | some alphabet => alphabet.lower x.toNat == alphabet.lower y.toNat
      | _, _ => false) &&
    sameText text folding (a + 1) (b + 1) length

/-- A pattern at a spot, and the rest after it. -/
def run (text : Array Char) : Pattern → Rest → Rest
  | .empty, k, s => k s
  | .one set, k, s => if takes text set s.position then k (s.advance 1) else none
  | .anchor a, k, s => if holds text s.position a then k s else none
  | .seq p q, k, s => run text p (run text q k) s
  | .alt p q, k, s => (run text p k s).or (run text q k s)
  | .loop greed low high p, k, s =>
    match p.set? with
    | some set => runSet text set greed low high k s
    | none =>
      let fuel := low + text.size + 2
      match greed with
      | .greedy => rounds (run text p) true low high k fuel 0 none s
      | .lazy => rounds (run text p) false low high k fuel 0 none s
      | .possessive => (exhaust (run text p some) low high fuel 0 none s).bind k
  | .group number p, k, s =>
    run text p (fun t => k (t.mark (2 * number + 1))) (s.mark (2 * number))
  | .again number folding, k, s =>
    match s.group? number with
    | none => none
    | some (start, stop) =>
      if sameText text folding start s.position (stop - start) then k (s.advance (stop - start))
      else none
  | .look back expected p, k, s =>
    let width := back.getD 0
    let found := if width ≤ s.position then
        run text p some { s with position := s.position - width }
      else none
    if expected then found.bind fun t => k { t with position := s.position }
    else if found.isSome then none
    else k s
  | .atomic p, k, s => (run text p some s).bind k
  | .given number yes no, k, s =>
    if (s.group? number).isSome then run text yes k s else run text no k s

/-- Whether a pattern matches anywhere in a text. -/
def occursIn (p : Pattern) (s : String) : Bool :=
  let text := s.toList.toArray
  (List.range (text.size + 1)).any fun start => (run text p some ⟨start, []⟩).isSome

end ReviewDiagnostics.Pattern
