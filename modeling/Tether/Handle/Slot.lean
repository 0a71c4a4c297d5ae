namespace Tether

/-! # The slot of a handle

A slot holds the connection of a handle, if there is one, and counts how many there have been. A caller keeps the
count with the connection that it took, and discards by the count: so a late failure of an old connection
leaves a newer one alone.
-/

/-- A connection that may be there, and the number of connections so far. -/
structure Slot (C : Type) where
  connection : Option C := none
  generation : UInt64 := 0
deriving DecidableEq, Repr

namespace Slot

variable {C : Type}

/-- The connection and its generation. -/
def current (s : Slot C) : Option (C × UInt64) := s.connection.map (·, s.generation)

/-- The slot with a new connection. -/
def install (s : Slot C) (c : C) : Slot C := ⟨some c, s.generation + 1⟩

/-- There is a connection, and it is the one of this generation. -/
def holds (s : Slot C) (generation : UInt64) : Bool := s.generation = generation && s.connection.isSome

/-- The slot without the connection of a generation. -/
def discard (s : Slot C) (generation : UInt64) : Slot C :=
  if s.holds generation then { s with connection := none } else s

/-- The slot where the connection of a generation has become another value. -/
def update (s : Slot C) (generation : UInt64) (c : C) : Slot C :=
  if s.holds generation then { s with connection := some c } else s

@[simp] theorem current_install (s : Slot C) (c : C) : (s.install c).current = some (c, s.generation + 1) := rfl

@[simp] theorem generation_discard (s : Slot C) (g : UInt64) : (s.discard g).generation = s.generation := by
  unfold discard
  split <;> rfl

@[simp] theorem connection_discard_self (s : Slot C) : (s.discard s.generation).connection = none := by
  cases h : s.connection <;> simp [discard, holds, h]

@[simp] theorem generation_update (s : Slot C) (g : UInt64) (c : C) : (s.update g c).generation = s.generation := by
  unfold update
  split <;> rfl

end Slot

end Tether
