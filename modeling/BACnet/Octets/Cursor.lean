import BACnet.Octets

/-!
# A cursor over octets

A cursor stands somewhere in a list of octets and never moves past the end. A read that asks for
more than is left fails, and then the cursor does not move at all.
-/

namespace BACnet

/-- A place in a list of octets: how many are behind it, and which are in front of it. -/
structure Cursor where
  position : Nat
  rest : Octets
  deriving DecidableEq, Repr

namespace Cursor

/-- The cursor at the head of the octets. -/
def new (octets : Octets) : Cursor := ⟨0, octets⟩

/-- The number of octets in front of the cursor. -/
def remaining (cursor : Cursor) : Nat := cursor.rest.length

/-- Whether `count` octets are in front of the cursor. -/
def hasRemaining (cursor : Cursor) (count : Nat) : Bool := count ≤ cursor.remaining

/-- The next `count` octets and the cursor behind them. -/
def octets? (cursor : Cursor) (count : Nat) : Option (Octets × Cursor) :=
  (Octets.take? count cursor.rest).map fun octets =>
    (octets, ⟨cursor.position + count, cursor.rest.drop count⟩)

/-- The number that the next `count` octets spell, most significant octet first. -/
def number? (cursor : Cursor) (count : Nat) : Option (Nat × Cursor) :=
  (cursor.octets? count).map fun (octets, behind) => (Octets.ofBigEndian octets, behind)

/-- All octets in front of the cursor, and the cursor at the end. -/
def takeRest (cursor : Cursor) : Octets × Cursor :=
  (cursor.rest, ⟨cursor.position + cursor.remaining, []⟩)

/-- The cursor behind the next `count` octets. -/
def skip? (cursor : Cursor) (count : Nat) : Option Cursor :=
  (cursor.octets? count).map (·.2)

end Cursor

end BACnet
