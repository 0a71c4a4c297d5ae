import Mathlib.Logic.Function.Basic
import Tether.Proofs.Client.Call
import Tether.Proofs.Run

namespace Tether

/-! # Tasks with clients in common

Any number of tasks run commands on any number of clients, which were made by any number of factories of one registry.
The first task that asks a client for its handle looks for it in the registry, and enters the registry if there is
nothing; the others wait until the client has it. Between any two steps of a task the other tasks, and whoever else
uses the registry, may do anything. We show:

* `step_handle`: a step leaves the clients' handles alone, or a task begins to give a client its handle, or it ends to;
* `inv_of_reachable`: so a client looks once, and the handle that it gets is the registry's for its fingerprint.
-/

namespace SharedClients

/-! ## Tasks -/

/-- An operation of the client of this number. -/
structure Request where
  client : Nat
  call : Call

/-- How far a task is with its command. -/
inductive Stage where
  | idle
  /-- It asks the client for its handle. -/
  | asking (q : Request)
  /-- It is to give the client its handle, and looks for it. -/
  | looking (q : Request)
  /-- It has found nothing, and has not entered the registry yet. -/
  | missed (q : Request)
  /-- It has the registry's handle, and the client has not yet. -/
  | resolved (q : Request) (id : HandleId)
  /-- It has the client's handle. -/
  | holding (q : Request) (id : HandleId)

/-- A command that a handle was given. -/
structure Delivery (τ : Type) where
  task : τ
  request : Request
  handle : HandleId
  outcome : Outcome Reply

variable {τ H σ : Type} [DecidableEq τ]

/-- Clients with their tasks, and what has happened to them. -/
structure St (τ H σ : Type) where
  world : σ
  registry : Registry H := {}
  factories : Nat := 1
  clients : List Client := []
  /-- The task that is to give a client its handle; the others wait. -/
  binder : Nat → Option τ := fun _ => none
  stage : τ → Stage := fun _ => .idle
  /-- The clients that looked for their handle, in order. -/
  lookups : List Nat := []
  /-- The commands of a task, in order. -/
  issued : τ → List Request := fun _ => []
  deliveries : List (Delivery τ) := []
  events : List Event := []

namespace St

/-- The handle of a client. -/
def bound (s : St τ H σ) (k : Nat) : Option HandleId := s.clients[k]?.bind (·.handle)

/-- The registry's handle for the fingerprint of a client. -/
def entry (s : St τ H σ) (k : Nat) : Option HandleId := s.clients[k]?.bind fun c => s.registry.probe c.fingerprint

/-- A client is made. -/
def made (s : St τ H σ) (c : Client) : St τ H σ := { s with clients := s.clients ++ [c] }

/-- A task gets to a stage. -/
def goes (s : St τ H σ) (t : τ) (stage : Stage) : St τ H σ := { s with stage := Function.update s.stage t stage }

/-- A task gets a command. -/
def given (s : St τ H σ) (t : τ) (q : Request) : St τ H σ :=
  { s.goes t (.asking q) with issued := Function.update s.issued t (s.issued t ++ [q]) }

/-- A task finds a client that nobody gives a handle, and begins to. -/
def begun (s : St τ H σ) (t : τ) (q : Request) : St τ H σ :=
  { s.goes t (.looking q) with
    binder := Function.update s.binder q.client (some t)
    lookups := s.lookups ++ [q.client] }

/-- A task finds the handle at its look. -/
def hit (s : St τ H σ) (t : τ) (q : Request) (c : Client) (id : HandleId) : St τ H σ :=
  { s.goes t (.resolved q id) with events := s.events ++ [.reusing c.fingerprint] }

/-- A task that has missed enters the registry. -/
def entered (create : Descriptor → H) (s : St τ H σ) (t : τ) (q : Request) (c : Client) : St τ H σ :=
  let e := s.registry.enter create c.descriptor
  { s.goes t (.resolved q e.handle) with registry := e.registry, events := s.events ++ e.events }

/-- A task gives the client its handle, and the others need not wait any more. -/
def settled (s : St τ H σ) (t : τ) (q : Request) (c : Client) (id : HandleId) : St τ H σ :=
  { s.goes t (.holding q id) with
    clients := s.clients.set q.client { c with handle := some id }
    binder := Function.update s.binder q.client none
    events := s.events ++ [.bound c.fingerprint c.descriptor.mode] }

/-- A task runs its command on a handle. -/
def sent (kind : HandleKind H σ) (s : St τ H σ) (t : τ) (q : Request) (id : HandleId) : St τ H σ :=
  let (outcome, registry, world) := Client.queryHandle kind id q.call.command s.registry s.world
  { s.goes t .idle with registry, world, deliveries := s.deliveries ++ [⟨t, q, id, outcome⟩] }

end St

/-- A step of some task, or of somebody else: a factory is cloned or makes a client, somebody who is not a client enters
the registry, or a handle, on which several commands may run at once, and the world become something else. -/
inductive Step (kind : HandleKind H σ) : St τ H σ → St τ H σ → Prop where
  | cloneFactory (s : St τ H σ) : Step kind s { s with factories := s.factories + 1 }
  | newClient (s : St τ H σ) (factory : Nat) (arguments : List Json) (c : Client) (hf : factory < s.factories)
      (hc : Client.ofArguments arguments = .ok c) : Step kind s (s.made c)
  | fromDescriptor (s : St τ H σ) (factory : Nat) (d : Descriptor) (hf : factory < s.factories) :
      Step kind s (s.made { descriptor := d })
  | give (s : St τ H σ) (t : τ) (q : Request) (ht : s.stage t = .idle) (hq : q.client < s.clients.length) :
      Step kind s (s.given t q)
  | take (s : St τ H σ) (t : τ) (q : Request) (id : HandleId) (ht : s.stage t = .asking q)
      (hb : s.bound q.client = some id) : Step kind s (s.goes t (.holding q id))
  | begin (s : St τ H σ) (t : τ) (q : Request) (ht : s.stage t = .asking q) (hb : s.bound q.client = none)
      (hfree : s.binder q.client = none) : Step kind s (s.begun t q)
  | hit (s : St τ H σ) (t : τ) (q : Request) (c : Client) (id : HandleId) (ht : s.stage t = .looking q)
      (hc : s.clients[q.client]? = some c) (hp : s.registry.probe c.fingerprint = some id) :
      Step kind s (s.hit t q c id)
  | miss (s : St τ H σ) (t : τ) (q : Request) (c : Client) (ht : s.stage t = .looking q)
      (hc : s.clients[q.client]? = some c) (hp : s.registry.probe c.fingerprint = none) :
      Step kind s (s.goes t (.missed q))
  | enter (s : St τ H σ) (t : τ) (q : Request) (c : Client) (ht : s.stage t = .missed q)
      (hc : s.clients[q.client]? = some c) : Step kind s (s.entered kind.create t q c)
  | settle (s : St τ H σ) (t : τ) (q : Request) (c : Client) (id : HandleId) (ht : s.stage t = .resolved q id)
      (hc : s.clients[q.client]? = some c) : Step kind s (s.settled t q c id)
  | send (s : St τ H σ) (t : τ) (q : Request) (id : HandleId) (ht : s.stage t = .holding q id) :
      Step kind s (s.sent kind t q id)
  | othersEnter (s : St τ H σ) (d : Descriptor) :
      Step kind s { s with registry := (s.registry.enter kind.create d).registry }
  | handleWorks (s : St τ H σ) (id : HandleId) (h : H) (w : σ) :
      Step kind s { s with registry := s.registry.update id h, world := w }

/-- What any steps lead to, from one factory of an empty registry that nobody uses. -/
def Reachable (kind : HandleKind H σ) (s : St τ H σ) : Prop := ∃ w, Run (Step kind) { world := w } s

/-! ## What a step does -/

namespace Stage

/-- The command of a task. -/
def request? : Stage → Option Request
  | .idle => none
  | .asking q => some q
  | .looking q => some q
  | .missed q => some q
  | .resolved q _ => some q
  | .holding q _ => some q

/-- The client to which a task is to give its handle. -/
def binding? : Stage → Option Nat
  | .looking q => some q.client
  | .missed q => some q.client
  | .resolved q _ => some q.client
  | _ => none

end Stage

namespace St

@[simp] theorem stage_goes (s : St τ H σ) (t : τ) (stage : Stage) :
    (s.goes t stage).stage = Function.update s.stage t stage := rfl

omit [DecidableEq τ] in
@[simp] theorem bound_made (s : St τ H σ) {c : Client} (hc : c.handle = none) : (s.made c).bound = s.bound := by
  funext k
  by_cases hk : k < s.clients.length
  · simp [bound, made, List.getElem?_append_left hk]
  · -- the new client has no handle, and there is none behind it
    have hle : s.clients.length ≤ k := by omega
    have hold : s.clients[k]? = none := List.getElem?_eq_none hle
    rw [bound, bound, hold, made, List.getElem?_append_right hle]
    cases k - s.clients.length <;> simp [hc]

@[simp] theorem bound_settled (s : St τ H σ) (t : τ) {q : Request} {c : Client} (id : HandleId)
    (hc : s.clients[q.client]? = some c) :
    (s.settled t q c id).bound = Function.update s.bound q.client (some id) := by
  have hlt : q.client < s.clients.length := (List.getElem?_eq_some_iff.1 hc).1
  funext k
  by_cases hk : k = q.client
  · subst hk
    simp [bound, settled, hlt]
  · simp [bound, settled, hk, List.getElem?_set_ne (Ne.symm hk)]

end St

variable {kind : HandleKind H σ} {s s' : St τ H σ}

/-- The registry is left alone, or entered, or one of its handles becomes something else. -/
theorem step_registry (h : Step kind s s') :
    s'.registry = s.registry ∨ (∃ d, s'.registry = (s.registry.enter kind.create d).registry) ∨
      ∃ id h, s'.registry = s.registry.update id h := by
  cases h with
  | enter t q c ht hc => exact Or.inr (Or.inl ⟨c.descriptor, rfl⟩)
  | othersEnter d => exact Or.inr (Or.inl ⟨d, rfl⟩)
  | handleWorks id h w => exact Or.inr (Or.inr ⟨id, h, rfl⟩)
  | send t q id ht =>
    rcases Client.queryHandle_eq kind id q.call.command s.registry s.world with hr | ⟨h, hr⟩
    · exact Or.inl hr
    · exact Or.inr (Or.inr ⟨id, h, hr⟩)
  | _ => exact Or.inl rfl

/-- An entry of the registry stays as it is. -/
theorem step_probe (h : Step kind s s') {f : Fingerprint} {id : HandleId} (hf : s.registry.probe f = some id) :
    s'.registry.probe f = some id := by
  rcases step_registry h with hr | ⟨d, hr⟩ | ⟨i, x, hr⟩
  · rw [hr]
    exact hf
  · rw [hr]
    exact Registry.probe_enter_of_eq_some kind.create hf d
  · rw [hr, Registry.probe_update]
    exact hf

/-- A client keeps its descriptor. -/
theorem step_client (h : Step kind s s') {k : Nat} {c : Client} (hc : s.clients[k]? = some c) :
    ∃ c', s'.clients[k]? = some c' ∧ c'.descriptor = c.descriptor := by
  have hlt : k < s.clients.length := (List.getElem?_eq_some_iff.1 hc).1
  have hmade : ∀ new : Client, (s.made new).clients[k]? = some c := by
    intro new
    rw [St.made, List.getElem?_append_left hlt]
    exact hc
  cases h with
  | newClient factory arguments new hf hnew => exact ⟨c, hmade new, rfl⟩
  | fromDescriptor factory d hf => exact ⟨c, hmade _, rfl⟩
  | settle t q c₀ id ht hc₀ =>
    by_cases hk : k = q.client
    · subst hk
      have hd : c₀.descriptor = c.descriptor := congrArg Client.descriptor (Option.some.inj (hc₀.symm.trans hc))
      refine ⟨{ c₀ with handle := some id }, ?_, hd⟩
      simp [St.settled, hlt]
    · refine ⟨c, ?_, rfl⟩
      simp [St.settled, List.getElem?_set_ne (Ne.symm hk), hc]
  | _ => exact ⟨c, hc, rfl⟩

/-- The registry's handle for a client stays the same. -/
theorem step_entry (h : Step kind s s') {k : Nat} {id : HandleId} (hk : s.entry k = some id) :
    s'.entry k = some id := by
  obtain ⟨c, hc, hp⟩ := Option.bind_eq_some_iff.1 hk
  obtain ⟨c', hc', hd⟩ := step_client h hc
  have hf : c'.fingerprint = c.fingerprint := congrArg Descriptor.fingerprint hd
  refine Option.bind_eq_some_iff.2 ⟨c', hc', ?_⟩
  rw [hf]
  exact step_probe h hp

/-- A step leaves the clients' handles alone, or a task begins to give a client its handle, or it ends to. -/
theorem step_handle (h : Step kind s s') :
    (s'.bound = s.bound ∧ s'.binder = s.binder ∧ s'.lookups = s.lookups ∧
      ∀ t, (s'.stage t).binding? = (s.stage t).binding?) ∨
    (∃ t q, s.stage t = .asking q ∧ s'.stage = Function.update s.stage t (.looking q) ∧ s.bound q.client = none ∧
      s.binder q.client = none ∧ s'.bound = s.bound ∧ s'.binder = Function.update s.binder q.client (some t) ∧
      s'.lookups = s.lookups ++ [q.client]) ∨
    ∃ t q id, s.stage t = .resolved q id ∧ s'.stage = Function.update s.stage t (.holding q id) ∧
      s'.bound = Function.update s.bound q.client (some id) ∧ s'.binder = Function.update s.binder q.client none ∧
      s'.lookups = s.lookups := by
  have hstay : ∀ (t : τ) (stage : Stage), stage.binding? = (s.stage t).binding? →
      ∀ u, (Function.update s.stage t stage u).binding? = (s.stage u).binding? := by
    intro t stage hstage u
    by_cases hu : u = t
    · subst hu
      rw [Function.update_self, hstage]
    · rw [Function.update_of_ne hu]
  cases h with
  | newClient factory arguments c hf hc =>
    exact Or.inl ⟨s.bound_made (Client.handle_ofArguments hc), rfl, rfl, fun _ => rfl⟩
  | fromDescriptor factory d hf => exact Or.inl ⟨s.bound_made rfl, rfl, rfl, fun _ => rfl⟩
  | give t q ht hq => exact Or.inl ⟨rfl, rfl, rfl, hstay t (.asking q) (by rw [ht]; rfl)⟩
  | take t q id ht hb => exact Or.inl ⟨rfl, rfl, rfl, hstay t (.holding q id) (by rw [ht]; rfl)⟩
  | begin t q ht hb hfree => exact Or.inr (Or.inl ⟨t, q, ht, rfl, hb, hfree, rfl, rfl, rfl⟩)
  | hit t q c id ht hc hp => exact Or.inl ⟨rfl, rfl, rfl, hstay t (.resolved q id) (by rw [ht]; rfl)⟩
  | miss t q c ht hc hp => exact Or.inl ⟨rfl, rfl, rfl, hstay t (.missed q) (by rw [ht]; rfl)⟩
  | enter t q c ht hc => exact Or.inl ⟨rfl, rfl, rfl, hstay t (.resolved q _) (by rw [ht]; rfl)⟩
  | settle t q c id ht hc => exact Or.inr (Or.inr ⟨t, q, id, ht, rfl, s.bound_settled t id hc, rfl, rfl⟩)
  | send t q id ht => exact Or.inl ⟨rfl, rfl, rfl, hstay t .idle (by rw [ht]; rfl)⟩
  | _ => exact Or.inl ⟨rfl, rfl, rfl, fun _ => rfl⟩

/-- A step leaves the tasks alone, or a task gets a command, or it goes on with it to a handle that is the registry's or
the client's, or it runs it. -/
theorem step_task (h : Step kind s s') :
    (s'.stage = s.stage ∧ s'.issued = s.issued ∧ s'.deliveries = s.deliveries) ∨
    (∃ t q, s.stage t = .idle ∧ q.client < s.clients.length ∧ s'.stage = Function.update s.stage t (.asking q) ∧
      s'.issued = Function.update s.issued t (s.issued t ++ [q]) ∧ s'.deliveries = s.deliveries) ∨
    (∃ t q stage, (s.stage t).request? = some q ∧ s'.stage = Function.update s.stage t stage ∧
      stage.request? = some q ∧ (∀ p id, stage = .resolved p id → s'.entry p.client = some id) ∧
      (∀ p id, stage = .holding p id → s'.bound p.client = some id) ∧ s'.issued = s.issued ∧
      s'.deliveries = s.deliveries) ∨
    ∃ t q id outcome, s.stage t = .holding q id ∧ s'.stage = Function.update s.stage t .idle ∧ s'.issued = s.issued ∧
      s'.deliveries = s.deliveries ++ [⟨t, q, id, outcome⟩] := by
  cases h with
  | give t q ht hq => exact Or.inr (Or.inl ⟨t, q, ht, hq, rfl, rfl, rfl⟩)
  | take t q id ht hb =>
    refine Or.inr (Or.inr (Or.inl ⟨t, q, .holding q id, by rw [ht]; rfl, rfl, rfl, by simp, ?_, rfl, rfl⟩))
    intro p i hp
    cases hp
    exact hb
  | begin t q ht hb hfree =>
    exact Or.inr (Or.inr (Or.inl ⟨t, q, .looking q, by rw [ht]; rfl, rfl, rfl, by simp, by simp, rfl, rfl⟩))
  | hit t q c id ht hc hp =>
    refine Or.inr (Or.inr (Or.inl ⟨t, q, .resolved q id, by rw [ht]; rfl, rfl, rfl, ?_, by simp, rfl, rfl⟩))
    intro p i hres
    cases hres
    exact Option.bind_eq_some_iff.2 ⟨c, hc, hp⟩
  | miss t q c ht hc hp =>
    exact Or.inr (Or.inr (Or.inl ⟨t, q, .missed q, by rw [ht]; rfl, rfl, rfl, by simp, by simp, rfl, rfl⟩))
  | enter t q c ht hc =>
    refine Or.inr (Or.inr (Or.inl ⟨t, q, .resolved q _, by rw [ht]; rfl, rfl, rfl, ?_, by simp, rfl, rfl⟩))
    intro p i hres
    cases hres
    exact Option.bind_eq_some_iff.2 ⟨c, hc, Registry.probe_enter_self s.registry kind.create c.descriptor⟩
  | settle t q c id ht hc =>
    refine Or.inr (Or.inr (Or.inl ⟨t, q, .holding q id, by rw [ht]; rfl, rfl, rfl, by simp, ?_, rfl, rfl⟩))
    intro p i hp
    cases hp
    rw [s.bound_settled t id hc, Function.update_self]
  | send t q id ht => exact Or.inr (Or.inr (Or.inr ⟨t, q, id, _, ht, rfl, rfl, rfl⟩))
  | _ => exact Or.inl ⟨rfl, rfl, rfl⟩

/-! ## The invariant -/

/-- The commands of a task that a handle was given, in order. -/
def St.delivered (s : St τ H σ) (t : τ) : List Request := (s.deliveries.filter fun d => d.task = t).map (·.request)

/-- A task at this stage is about a client that is there, and has the handle of the registry or of the client. -/
structure St.Fits (s : St τ H σ) (stage : Stage) : Prop where
  present : ∀ q, stage.request? = some q → ∃ c, s.clients[q.client]? = some c
  resolved : ∀ q id, stage = .resolved q id → s.entry q.client = some id
  holding : ∀ q id, stage = .holding q id → s.bound q.client = some id

/-- What holds between any two steps. -/
structure Inv (s : St τ H σ) : Prop where
  wellFormed : s.registry.WellFormed
  entry : ∀ k id, s.bound k = some id → s.entry k = some id
  binder : ∀ k t, s.binder k = some t ↔ (s.stage t).binding? = some k
  unbound : ∀ k t, s.binder k = some t → s.bound k = none
  once : s.lookups.Nodup
  lookups : ∀ k, k ∈ s.lookups ↔ (s.binder k).isSome ∨ (s.bound k).isSome
  stage : ∀ t, s.Fits (s.stage t)
  delivered : ∀ d ∈ s.deliveries, s.bound d.request.client = some d.handle
  issued : ∀ t, s.issued t = s.delivered t ++ (s.stage t).request?.toList

theorem inv_init (w : σ) : Inv ({ world := w } : St τ H σ) where
  wellFormed := Registry.wellFormed_empty
  entry := by simp [St.bound]
  binder := by simp [Stage.binding?]
  unbound := by simp
  once := List.nodup_nil
  lookups := by simp [St.bound]
  stage := fun _ => ⟨by simp [Stage.request?], by simp, by simp⟩
  delivered := by simp
  issued := by simp [St.delivered, Stage.request?]

/-- A client that has its handle keeps it. -/
theorem step_bound (h : Step kind s s') (hs : Inv s) {k : Nat} {id : HandleId} (hk : s.bound k = some id) :
    s'.bound k = some id := by
  rcases step_handle h with ⟨hb, _⟩ | ⟨t, q, _, _, _, _, hb, _⟩ | ⟨t, q, i, ht, _, hb, _⟩
  · rw [hb]
    exact hk
  · rw [hb]
    exact hk
  · -- a client that gets its handle has none yet
    have hbinder : s.binder q.client = some t := (hs.binder q.client t).2 (by rw [ht]; rfl)
    have hne : k ≠ q.client := by
      rintro rfl
      rw [hs.unbound _ t hbinder] at hk
      cases hk
    rw [hb, Function.update_of_ne hne]
    exact hk

/-! ### What a step does to who binds whom -/

/-- A task that begins did not bind any client, and nobody bound this one. -/
theorem binder_begun (hs : Inv s) {t : τ} {q : Request} (ht : s.stage t = .asking q)
    (hfree : s.binder q.client = none) (k : Nat) (u : τ) :
    Function.update s.binder q.client (some t) k = some u ↔
      (Function.update s.stage t (.looking q) u).binding? = some k := by
  have hnot : ∀ v, s.binder q.client ≠ some v := by simp [hfree]
  have hidle : ∀ j, s.binder j ≠ some t := by
    intro j hj
    have hbinding := (hs.binder j t).1 hj
    rw [ht] at hbinding
    cases hbinding
  by_cases hk : k = q.client
  · subst hk
    rw [Function.update_self]
    by_cases hu : u = t
    · subst hu
      simp [Stage.binding?]
    · rw [Function.update_of_ne hu, ← hs.binder]
      simp [hnot u, Ne.symm hu]
  · rw [Function.update_of_ne hk]
    by_cases hu : u = t
    · subst hu
      simp [Stage.binding?, hidle k, Ne.symm hk]
    · rw [Function.update_of_ne hu]
      exact hs.binder k u

/-- A task that ends binds no client any more, and it alone bound this one. -/
theorem binder_settled (hs : Inv s) {t : τ} {q : Request} {id : HandleId} (ht : s.stage t = .resolved q id) (k : Nat)
    (u : τ) : Function.update s.binder q.client none k = some u ↔
      (Function.update s.stage t (.holding q id) u).binding? = some k := by
  have hold : s.binder q.client = some t := (hs.binder q.client t).2 (by rw [ht]; rfl)
  by_cases hu : u = t
  · subst hu
    by_cases hk : k = q.client
    · simp [hk, Stage.binding?]
    · have hnot : s.binder k ≠ some u := by
        intro hother
        have hbinding := (hs.binder k u).1 hother
        rw [ht] at hbinding
        exact hk (Option.some.inj hbinding).symm
      simp [Function.update_of_ne hk, hnot, Stage.binding?]
  · rw [Function.update_of_ne hu, ← hs.binder]
    by_cases hk : k = q.client
    · subst hk
      simp [hold, Ne.symm hu]
    · rw [Function.update_of_ne hk]

theorem binder_step (h : Step kind s s') (hs : Inv s) (k : Nat) (u : τ) :
    s'.binder k = some u ↔ (s'.stage u).binding? = some k := by
  rcases step_handle h with ⟨_, hbinder, _, hstage⟩ | ⟨t, q, ht, hstage, _, hfree, _, hbinder, _⟩ |
    ⟨t, q, i, ht, hstage, _, hbinder, _⟩
  · rw [hbinder, hstage u]
    exact hs.binder k u
  · rw [hbinder, hstage]
    exact binder_begun hs ht hfree k u
  · rw [hbinder, hstage]
    exact binder_settled hs ht k u

/-! ### What a step does to the tasks -/

/-- A stage that fits goes on fitting. -/
theorem St.Fits.step {stage : Stage} (hstage : s.Fits stage) (h : Step kind s s') (hs : Inv s) : s'.Fits stage where
  present := by
    intro q hq
    obtain ⟨c, hc⟩ := hstage.present q hq
    obtain ⟨c', hc', _⟩ := step_client h hc
    exact ⟨c', hc'⟩
  resolved := fun q id hq => step_entry h (hstage.resolved q id hq)
  holding := fun q id hq => step_bound h hs (hstage.holding q id hq)

/-- The task that moves fits, and so do the others. -/
theorem fits_update (h : Step kind s s') (hs : Inv s) {t : τ} {stage : Stage}
    (hstage : s'.stage = Function.update s.stage t stage) (hfits : s'.Fits stage) (u : τ) : s'.Fits (s'.stage u) := by
  rw [hstage]
  by_cases hu : u = t
  · subst hu
    rw [Function.update_self]
    exact hfits
  · rw [Function.update_of_ne hu]
    exact (hs.stage u).step h hs

theorem fits_step (h : Step kind s s') (hs : Inv s) (u : τ) : s'.Fits (s'.stage u) := by
  rcases step_task h with ⟨hstage, _⟩ | ⟨t, q, _, hq, hstage, _⟩ | ⟨t, q, stage, ht, hstage, hq, hres, hhold, _⟩ |
    ⟨t, q, id, outcome, _, hstage, _⟩
  · rw [hstage]
    exact (hs.stage u).step h hs
  · refine fits_update h hs hstage ⟨?_, by simp, by simp⟩ u
    intro p hp
    cases hp
    obtain ⟨c', hc', _⟩ := step_client h (List.getElem?_eq_getElem hq)
    exact ⟨c', hc'⟩
  · refine fits_update h hs hstage ⟨?_, hres, hhold⟩ u
    intro p hp
    -- the task goes on with the command that it had
    rw [hq] at hp
    cases hp
    obtain ⟨c, hc⟩ := (hs.stage t).present q ht
    obtain ⟨c', hc', _⟩ := step_client h hc
    exact ⟨c', hc'⟩
  · exact fits_update h hs hstage ⟨by simp [Stage.request?], by simp, by simp⟩ u

/-- A task's commands are those that handles were given and the one that it is at, step by step. -/
theorem issued_step (h : Step kind s s') (hs : Inv s) (u : τ) :
    s'.issued u = s'.delivered u ++ (s'.stage u).request?.toList := by
  have hold := hs.issued u
  have hsame : s'.deliveries = s.deliveries → s'.delivered u = s.delivered u := by
    intro hl
    rw [St.delivered, St.delivered, hl]
  rcases step_task h with ⟨hstage, hi, hl⟩ | ⟨t, q, ht, _, hstage, hi, hl⟩ |
    ⟨t, q, stage, ht, hstage, hq, _, _, hi, hl⟩ | ⟨t, q, id, outcome, ht, hstage, hi, hl⟩
  · rw [hi, hsame hl, hstage]
    exact hold
  · rw [hi, hsame hl, hstage]
    by_cases hu : u = t
    · subst hu
      rw [ht] at hold
      simpa [Stage.request?] using hold
    · rw [Function.update_of_ne hu, Function.update_of_ne hu]
      exact hold
  · rw [hi, hsame hl, hstage]
    by_cases hu : u = t
    · subst hu
      rw [Function.update_self, hq, ← ht]
      exact hold
    · rw [Function.update_of_ne hu]
      exact hold
  · rw [hi, St.delivered, hl, hstage]
    by_cases hu : u = t
    · -- what the task was at is what the handle gets
      subst hu
      rw [ht] at hold
      simpa [St.delivered, Stage.request?] using hold
    · rw [St.delivered] at hold
      rw [Function.update_of_ne hu, List.filter_append, List.map_append]
      simpa [Ne.symm hu] using hold

/-! ### A step keeps the invariant -/

theorem inv_step (s s' : St τ H σ) (h : Step kind s s') (hs : Inv s) : Inv s' where
  wellFormed := by
    rcases step_registry h with hr | ⟨d, hr⟩ | ⟨id, x, hr⟩
    · rw [hr]
      exact hs.wellFormed
    · rw [hr]
      exact hs.wellFormed.enter kind.create d
    · rw [hr]
      exact hs.wellFormed.update id x
  entry := by
    intro k id hk
    rcases step_handle h with ⟨hb, _⟩ | ⟨t, q, _, _, _, _, hb, _⟩ | ⟨t, q, i, ht, _, hb, _⟩
    · exact step_entry h (hs.entry k id (hb ▸ hk))
    · exact step_entry h (hs.entry k id (hb ▸ hk))
    · rw [hb] at hk
      by_cases hkq : k = q.client
      · -- the handle that the client gets is the registry's
        subst hkq
        rw [Function.update_self] at hk
        cases hk
        exact step_entry h ((hs.stage t).resolved q _ ht)
      · rw [Function.update_of_ne hkq] at hk
        exact step_entry h (hs.entry k id hk)
  binder := binder_step h hs
  unbound := by
    intro k u hk
    rcases step_handle h with ⟨hb, hbinder, _⟩ | ⟨t, q, _, _, hnone, _, hb, hbinder, _⟩ |
      ⟨t, q, i, _, _, hb, hbinder, _⟩
    · rw [hb]
      exact hs.unbound k u (hbinder ▸ hk)
    · rw [hb]
      rw [hbinder] at hk
      by_cases hkq : k = q.client
      · subst hkq
        exact hnone
      · rw [Function.update_of_ne hkq] at hk
        exact hs.unbound k u hk
    · rw [hbinder] at hk
      by_cases hkq : k = q.client
      · subst hkq
        simp at hk
      · rw [Function.update_of_ne hkq] at hk
        rw [hb, Function.update_of_ne hkq]
        exact hs.unbound k u hk
  once := by
    rcases step_handle h with ⟨_, _, hl, _⟩ | ⟨t, q, _, _, hnone, hfree, _, _, hl⟩ | ⟨t, q, i, _, _, _, _, hl⟩
    · rw [hl]
      exact hs.once
    · -- a client that looks has not looked before
      have hnew : q.client ∉ s.lookups := by simp [hs.lookups, hnone, hfree]
      rw [hl, List.nodup_append]
      refine ⟨hs.once, by simp, ?_⟩
      intro a ha b hb hab
      rw [List.mem_singleton.1 hb] at hab
      exact hnew (hab ▸ ha)
    · rw [hl]
      exact hs.once
  lookups := by
    intro k
    rcases step_handle h with ⟨hb, hbinder, hl, _⟩ | ⟨t, q, _, _, _, _, hb, hbinder, hl⟩ |
      ⟨t, q, i, ht, _, hb, hbinder, hl⟩
    · rw [hb, hbinder, hl]
      exact hs.lookups k
    · rw [hb, hbinder, hl, List.mem_append, List.mem_singleton, hs.lookups]
      by_cases hk : k = q.client <;> simp [hk]
    · have hold : s.binder q.client = some t := (hs.binder q.client t).2 (by rw [ht]; rfl)
      rw [hb, hbinder, hl, hs.lookups]
      by_cases hk : k = q.client <;> simp [hk, hold]
  stage := fits_step h hs
  delivered := by
    intro d hd
    rcases step_task h with ⟨_, _, hl⟩ | ⟨_, _, _, _, _, _, hl⟩ | ⟨_, _, _, _, _, _, _, _, _, hl⟩ |
      ⟨t, q, id, outcome, ht, _, _, hl⟩ <;> rw [hl] at hd
    · exact step_bound h hs (hs.delivered d hd)
    · exact step_bound h hs (hs.delivered d hd)
    · exact step_bound h hs (hs.delivered d hd)
    · rcases List.mem_append.1 hd with hd | hd
      · exact step_bound h hs (hs.delivered d hd)
      · -- the command that this step runs
        rw [List.mem_singleton.1 hd]
        exact step_bound h hs ((hs.stage t).holding q id ht)
  issued := issued_step h hs

theorem inv_of_reachable (h : Reachable kind s) : Inv s := by
  obtain ⟨w, hrun⟩ := h
  exact hrun.invariant inv_step (inv_init w)

end SharedClients

end Tether
