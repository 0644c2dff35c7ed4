import ReviewDiagnostics.Text.Quoted

/-!
# Strict UTF-8

Decoding accepts exactly the well-formed sequences.  A fault names the first byte that no
well-formed text could have at its place, together with the bytes already accepted as the start of
the same character: they are reported as one span.
-/

namespace ReviewDiagnostics.Text

/-- What is wrong with a byte sequence. -/
inductive Utf8Cause where
  | invalidStart
  | invalidContinuation
  | unexpectedEnd
  deriving DecidableEq

/-- A malformed span: the bytes at `position` … `position + length - 1`, the first of them `byte`. -/
structure Utf8Fault where
  position : Nat
  length : Nat
  byte : UInt8
  cause : Utf8Cause
  deriving DecidableEq

namespace Utf8

/-- The bytes that may follow a first byte: how many, and the limits of the first of them. -/
def following? (b : UInt8) : Option (Nat × UInt8 × UInt8) :=
  if 0xc2 ≤ b && b ≤ 0xdf then some (1, 0x80, 0xbf)
  else if b == 0xe0 then some (2, 0xa0, 0xbf)
  else if b == 0xed then some (2, 0x80, 0x9f)
  else if 0xe1 ≤ b && b ≤ 0xef then some (2, 0x80, 0xbf)
  else if b == 0xf0 then some (3, 0x90, 0xbf)
  else if b == 0xf4 then some (3, 0x80, 0x8f)
  else if 0xf1 ≤ b && b ≤ 0xf3 then some (3, 0x80, 0xbf)
  else none

/-- The character under way: its first byte, the code point so far, the number of bytes accepted and
still missing, and the limits of the next one. -/
structure Partial where
  first : UInt8
  code : Nat
  accepted : Nat
  missing : Nat
  low : UInt8
  high : UInt8

/-- Decodes the bytes from `position` on, given the character under way if there is one. -/
def decodeFrom : Nat → Option Partial → List UInt8 → Except Utf8Fault (List Char)
  | _, none, [] => .ok []
  | position, some p, [] =>
    .error ⟨position - p.accepted, p.accepted, p.first, .unexpectedEnd⟩
  | position, none, b :: bs =>
    if b < 0x80 then do
      return Char.ofNat b.toNat :: (← decodeFrom (position + 1) none bs)
    else match following? b with
      | none => .error ⟨position, 1, b, .invalidStart⟩
      | some (missing, low, high) =>
        let bits := if missing = 1 then 0x20 else if missing = 2 then 0x10 else 0x08
        decodeFrom (position + 1) (some ⟨b, b.toNat % bits, 1, missing, low, high⟩) bs
  | position, some p, b :: bs =>
    if p.low ≤ b && b ≤ p.high then
      let code := p.code * 0x40 + b.toNat % 0x40
      if p.missing ≤ 1 then do
        return Char.ofNat code :: (← decodeFrom (position + 1) none bs)
      else
        decodeFrom (position + 1) (some ⟨p.first, code, p.accepted + 1, p.missing - 1, 0x80, 0xbf⟩) bs
    else .error ⟨position - p.accepted, p.accepted, p.first, .invalidContinuation⟩

/-- The bytes without one leading byte order mark. -/
def dropMark : List UInt8 → List UInt8
  | 0xef :: 0xbb :: 0xbf :: bs => bs
  | bs => bs

/-- Decodes bytes whose leading byte order mark, if any, does not count. -/
def decode (bytes : List UInt8) : Except Utf8Fault (List Char) :=
  decodeFrom 0 none (dropMark bytes)

def encode (s : String) : List UInt8 :=
  s.toUTF8.toList

end Utf8

def Utf8Cause.message : Utf8Cause → String
  | .invalidStart => "invalid start byte"
  | .invalidContinuation => "invalid continuation byte"
  | .unexpectedEnd => "unexpected end of data"

/-- The wording of a fault; positions count from zero. -/
def Utf8Fault.message (f : Utf8Fault) : String :=
  if f.length = 1 then
    s!"'utf-8' codec can't decode byte 0x{String.ofList (hex 2 f.byte.toNat)} in position {f.position}: {f.cause.message}"
  else
    s!"'utf-8' codec can't decode bytes in position {f.position}-{f.position + f.length - 1}: {f.cause.message}"

end ReviewDiagnostics.Text
