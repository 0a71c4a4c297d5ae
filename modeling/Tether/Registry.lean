import Tether.Event
import Tether.Text.Record

namespace Tether

/-! # The registry

The registry has one handle for each fingerprint that was asked for. A caller first looks without disturbing
others (`Registry.probe`); only where there is nothing it enters alone, looks again and creates the handle
(`Registry.enter`). Nothing is ever replaced or removed.
-/

/-- A handle among all those that were created, in order of creation. -/
abbrev HandleId := Nat

/-- The handles that were created, and the one of each fingerprint. -/
structure Registry (H : Type) where
  entries : List (Fingerprint × HandleId) := []
  handles : List H := []

/-- How an entry ended. -/
structure Entered (H : Type) where
  registry : Registry H
  handle : HandleId
  events : List Event

namespace Registry

variable {H : Type}

/-- Looks for the handle of a fingerprint. -/
def probe (r : Registry H) (f : Fingerprint) : Option HandleId := r.entries.lookup f

/-- There is a handle of this fingerprint. -/
def contains (r : Registry H) (f : Fingerprint) : Bool := (r.probe f).isSome

/-- The number of entries. -/
def size (r : Registry H) : Nat := r.entries.length

/-- The number of handles that were created. -/
def created (r : Registry H) : Nat := r.handles.length

/-- The fingerprints of all entries, in ascending order. -/
def fingerprints (r : Registry H) : List Fingerprint := (r.entries.map (·.1)).mergeSort Fingerprint.le

/-- A handle. -/
def handle? (r : Registry H) (id : HandleId) : Option H := r.handles[id]?

/-- Replaces what a handle has become. -/
def update (r : Registry H) (id : HandleId) (h : H) : Registry H := { r with handles := r.handles.set id h }

/-- Creates a handle for a descriptor and enters it. -/
def insert (r : Registry H) (create : Descriptor → H) (d : Descriptor) : Registry H :=
  ⟨r.entries ++ [(d.fingerprint, r.handles.length)], r.handles ++ [create d]⟩

/-- Enters alone: looks again and creates the handle where there is still none. -/
def enter (r : Registry H) (create : Descriptor → H) (d : Descriptor) : Entered H :=
  match r.probe d.fingerprint with
  | some id => ⟨r, id, [.overtaken d.fingerprint]⟩
  | none => ⟨r.insert create d, r.handles.length, [.creating d.fingerprint d.mode d.addresses]⟩

/-- Finds the handle for a descriptor or creates it. -/
def getOrCreate (r : Registry H) (create : Descriptor → H) (d : Descriptor) : Entered H :=
  match r.probe d.fingerprint with
  | some id => ⟨r, id, [.reusing d.fingerprint]⟩
  | none => r.enter create d

@[simp] theorem probe_insert (r : Registry H) (create : Descriptor → H) (d : Descriptor) (f : Fingerprint) :
    (r.insert create d).probe f = (r.probe f).or (if f = d.fingerprint then some r.created else none) := by
  have hl : [(d.fingerprint, r.created)].lookup f = if f = d.fingerprint then some r.created else none := by
    by_cases h : f = d.fingerprint
    · simp [h]
    · simp [h]
  simp only [insert, probe, List.lookup_append]
  exact congrArg _ hl

theorem probe_enter_self (r : Registry H) (create : Descriptor → H) (d : Descriptor) :
    (r.enter create d).registry.probe d.fingerprint = some (r.enter create d).handle := by
  unfold enter
  split
  · next id h => exact h
  · next h => simp [h, created]

/-- Looking first and entering only where there is nothing finds and creates what entering alone does. -/
theorem getOrCreate_eq_enter (r : Registry H) (create : Descriptor → H) (d : Descriptor) :
    (r.getOrCreate create d).registry = (r.enter create d).registry ∧
      (r.getOrCreate create d).handle = (r.enter create d).handle := by
  cases h : r.probe d.fingerprint <;> simp [getOrCreate, enter, h]

/-- The registry in diagnostics. -/
def debugText (r : Registry H) : String :=
  Record.openText "ConnectionRegistry" [("handles", Decimal.ofNat r.size)]

/-- The maker of clients in diagnostics: it holds the registry and nothing else. -/
def factoryDebugText (r : Registry H) : String :=
  Record.text "ClientFactory" [("registry", r.debugText)]

end Registry

end Tether
