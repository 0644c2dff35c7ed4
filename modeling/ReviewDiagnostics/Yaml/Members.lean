import ReviewDiagnostics.Yaml.Value

/-!
# Members of sets

A set is shown in the order of a table that its members are put into.  The table has at least twice as
many slots as there are members.  A member takes the first free slot on its way through the table, and
the way depends on its key, which is the same for equal numbers.  Members that are no numbers have no
key; a set with such members is shown in the order in which it is written.
-/

namespace ReviewDiagnostics.Yaml

-- Powers are those of the core library, whatever else is imported.
attribute [local instance (2000)] instPowNat

def keyModulus : Nat := 2 ^ (61 : Nat) - 1

def keyCount : Nat := 2 ^ (64 : Nat)

/-- The key of a remainder with a sign: negative ones are counted down from the number of keys.  The
first of these is not a key. -/
def signedKey (negative : Bool) (remainder : Nat) : Nat :=
  if negative && remainder != 0 then keyCount - max remainder 2 else remainder

/-- The key of a member, if it is a number.  A power of two counts by its exponent modulo 61, since the
prime is one less than a power of two. -/
def key? : Value → Option Nat
  | .bool b => some (if b then 1 else 0)
  | .int n => some (signedKey (n < 0) (n.natAbs % keyModulus))
  | .float (.infinite negative) => some (signedKey negative 314159)
  | .float (.finite negative scale fraction) =>
    let power := 2 ^ (Binary64.exponent scale % 61).toNat
    some (signedKey negative (Binary64.significand scale fraction * power % keyModulus))
  | _ => none

/-- The number of slots for a number of members: eight for up to four of them. -/
def slotCount (members : Nat) : Nat :=
  if members < 5 then 8 else 2 ^ ((2 * members).log2 + 1)

/-- The slots that are looked at next to each other on a way through a table. -/
def nearSlots (size slot : Nat) : List Nat :=
  if slot + 9 < size then (List.range 10).map (slot + ·) else [slot]

/-- The first free slot on the way of a key, which goes on from `slot` with what is left of the key. -/
def freeSlot? (table : Array (Option Value)) : (fuel slot left : Nat) → Option Nat
  | 0, _, _ => none
  | fuel + 1, slot, left =>
    match (nearSlots table.size slot).find? fun i => (table[i]?.join).isNone with
    | some i => some i
    | none => freeSlot? table fuel ((slot * 5 + 1 + left / 32) % table.size) (left / 32)

def insertMember (table : Array (Option Value)) (member : Value × Nat) : Array (Option Value) :=
  match freeSlot? table (2 * table.size + 16) (member.2 % table.size) member.2 with
  | some i => table.setIfInBounds i (some member.1)
  | none => table

/-- Members in the order in which a set shows them. -/
def shownOrder (members : List Value) : List Value :=
  match members.mapM fun v => (key? v).map (v, ·) with
  | none => members
  | some keyed =>
    let table := Array.replicate (slotCount members.length) none
    (keyed.foldl insertMember table).toList.filterMap id

end ReviewDiagnostics.Yaml
