import Tether.Handle.Recording
import Tether.Proofs.Client.Tasks
import Tether.Proofs.Descriptor.Sharing

namespace Tether

/-! # Clients are bound once

A client looks for its handle once in its life, however many tasks ask for it at a time, and every command of the client
goes to the handle that it found. We show:

* `run_call`: a command that nobody comes between does what `Client.call` does;
* `work_delivery`: whatever the others have done, a task that has a command can get it to a handle, if the task for which
  it waits goes on;
* `exists_delivers`: a command was run on the handle that its client had at the time;
* `clients_bind_once`: what the clients' users may rely on.
-/

namespace SharedClients

open Descriptor (ascending descending)

variable {τ H σ : Type} [DecidableEq τ] {kind : HandleKind H σ} {s s' : St τ H σ}

/-! ## What a task does for its command -/

/-- A step of a task that has a command. -/
inductive Work (kind : HandleKind H σ) : St τ H σ → St τ H σ → Prop where
  | take (s : St τ H σ) (t : τ) (q : Request) (id : HandleId) (ht : s.stage t = .asking q)
      (hb : s.bound q.client = some id) : Work kind s (s.goes t (.holding q id))
  | begin (s : St τ H σ) (t : τ) (q : Request) (ht : s.stage t = .asking q) (hb : s.bound q.client = none)
      (hfree : s.binder q.client = none) : Work kind s (s.begun t q)
  | hit (s : St τ H σ) (t : τ) (q : Request) (c : Client) (id : HandleId) (ht : s.stage t = .looking q)
      (hc : s.clients[q.client]? = some c) (hp : s.registry.probe c.fingerprint = some id) :
      Work kind s (s.hit t q c id)
  | miss (s : St τ H σ) (t : τ) (q : Request) (c : Client) (ht : s.stage t = .looking q)
      (hc : s.clients[q.client]? = some c) (hp : s.registry.probe c.fingerprint = none) :
      Work kind s (s.goes t (.missed q))
  | enter (s : St τ H σ) (t : τ) (q : Request) (c : Client) (ht : s.stage t = .missed q)
      (hc : s.clients[q.client]? = some c) : Work kind s (s.entered kind.create t q c)
  | settle (s : St τ H σ) (t : τ) (q : Request) (c : Client) (id : HandleId) (ht : s.stage t = .resolved q id)
      (hc : s.clients[q.client]? = some c) : Work kind s (s.settled t q c id)
  | send (s : St τ H σ) (t : τ) (q : Request) (id : HandleId) (ht : s.stage t = .holding q id) :
      Work kind s (s.sent kind t q id)

theorem Work.step (h : Work kind s s') : Step kind s s' := by
  cases h with
  | take t q id ht hb => exact .take s t q id ht hb
  | begin t q ht hb hfree => exact .begin s t q ht hb hfree
  | hit t q c id ht hc hp => exact .hit s t q c id ht hc hp
  | miss t q c ht hc hp => exact .miss s t q c ht hc hp
  | enter t q c ht hc => exact .enter s t q c ht hc
  | settle t q c id ht hc => exact .settle s t q c id ht hc
  | send t q id ht => exact .send s t q id ht

theorem run_of_work (h : Run (Work kind) s s') : Run (Step kind) s s' :=
  Relation.ReflTransGen.mono (fun _ _ => Work.step) _ _ h

/-! ## One command at a time -/

/-- A task has found the handle for a client, or created it. -/
def St.found (create : Descriptor → H) (s : St τ H σ) (t : τ) (q : Request) (c : Client) : St τ H σ :=
  let e := s.registry.getOrCreate create c.descriptor
  { s.goes t (.resolved q e.handle) with registry := e.registry, events := s.events ++ e.events }

/-- A task that looks, with nobody between, finds or creates as `Registry.getOrCreate` does. -/
theorem work_found {t : τ} {q : Request} {c : Client} (ht : s.stage t = .looking q)
    (hc : s.clients[q.client]? = some c) : Run (Work kind) s (s.found kind.create t q c) := by
  cases hp : s.registry.probe c.fingerprint with
  | some id =>
    have hfound : s.found kind.create t q c = s.hit t q c id := by
      rw [St.found, Registry.getOrCreate_of_eq_some kind.create hp]
      rfl
    rw [hfound]
    exact .single (.hit s t q c id ht hc hp)
  | none =>
    -- missed, and entered at once
    have hmiss : Work kind s (s.goes t (.missed q)) := .miss s t q c ht hc hp
    have henter : Work kind (s.goes t (.missed q)) ((s.goes t (.missed q)).entered kind.create t q c) :=
      .enter _ t q c (by simp) hc
    have hfound : s.found kind.create t q c = (s.goes t (.missed q)).entered kind.create t q c := by
      have hget : s.registry.getOrCreate kind.create c.descriptor = s.registry.enter kind.create c.descriptor := by
        rw [Registry.getOrCreate, show s.registry.probe c.descriptor.fingerprint = none from hp]
      simp [St.found, St.entered, St.goes, hget]
    rw [hfound]
    exact (Relation.ReflTransGen.single hmiss).tail henter

/-- A task that asks, with nobody between, does what `Client.call` does. -/
theorem work_call (kind : HandleKind H σ) {t : τ} {q : Request} {c : Client} (ht : s.stage t = .asking q)
    (hc : s.clients[q.client]? = some c) (hfree : s.binder q.client = none) :
    ∃ s' id outcome, Run (Work kind) s s' ∧
      s'.registry = (c.call kind s.registry s.world q.call).registry ∧
      s'.world = (c.call kind s.registry s.world q.call).world ∧
      s'.clients = s.clients.set q.client (c.call kind s.registry s.world q.call).client ∧
      s'.events = s.events ++ (c.call kind s.registry s.world q.call).events ∧
      s'.deliveries = s.deliveries ++ [⟨t, q, id, outcome⟩] ∧
      (c.call kind s.registry s.world q.call).outcome =
        outcome.bind (fun reply => .ofStore (reply.convert q.call.result)) ∧
      s'.stage = Function.update s.stage t .idle ∧ s'.binder = s.binder := by
  obtain ⟨hlt, hget⟩ := List.getElem?_eq_some_iff.1 hc
  cases hbound : c.handle with
  | some id =>
    -- the client has its handle
    have htake : Work kind s (s.goes t (.holding q id)) := .take s t q id ht (by simp [St.bound, hc, hbound])
    have hsend : Work kind (s.goes t (.holding q id)) _ := .send _ t q id (by simp)
    have hset : s.clients.set q.client c = s.clients := by
      rw [← hget]
      exact List.set_getElem_self hlt
    refine ⟨_, id, (Client.queryHandle kind id q.call.command s.registry s.world).1,
      (Relation.ReflTransGen.single htake).tail hsend, ?_⟩
    simp [Client.call, Client.bind_of_eq_some hbound, St.sent, St.goes, hset]
  | none =>
    have hbegin : Work kind s (s.begun t q) := .begin s t q ht (by simp [St.bound, hc, hbound]) hfree
    let e := s.registry.getOrCreate kind.create c.descriptor
    let s₁ := (s.begun t q).found kind.create t q c
    have hfound : Run (Work kind) (s.begun t q) s₁ := work_found (by simp [St.begun, St.goes]) hc
    have hsettle : Work kind s₁ (s₁.settled t q c e.handle) := by
      refine .settle _ t q c _ ?_ hc
      exact Function.update_self ..
    have hsend : Work kind (s₁.settled t q c e.handle) ((s₁.settled t q c e.handle).sent kind t q e.handle) :=
      .send _ t q _ (by simp [St.settled, St.goes])
    have hrun : Run (Work kind) s ((s₁.settled t q c e.handle).sent kind t q e.handle) :=
      (((Relation.ReflTransGen.single hbegin).trans hfound).tail hsettle).tail hsend
    have hbinder : Function.update s.binder q.client none = s.binder := by rw [← hfree, Function.update_eq_self]
    refine ⟨_, e.handle, (Client.queryHandle kind e.handle q.call.command e.registry s.world).1, hrun, ?_⟩
    simp [Client.call, Client.bind_of_eq_none hbound, St.sent, St.settled, St.found, St.begun, St.goes, hbinder, s₁, e]

/-- A command that nobody comes between does what `Client.call` does. -/
theorem run_call {t : τ} {q : Request} {c : Client} (ht : s.stage t = .idle) (hc : s.clients[q.client]? = some c)
    (hfree : s.binder q.client = none) :
    ∃ s' id outcome, Run (Step kind) s s' ∧
      s'.registry = (c.call kind s.registry s.world q.call).registry ∧
      s'.world = (c.call kind s.registry s.world q.call).world ∧
      s'.clients = s.clients.set q.client (c.call kind s.registry s.world q.call).client ∧
      s'.events = s.events ++ (c.call kind s.registry s.world q.call).events ∧
      s'.deliveries = s.deliveries ++ [⟨t, q, id, outcome⟩] ∧
      (c.call kind s.registry s.world q.call).outcome =
        outcome.bind (fun reply => .ofStore (reply.convert q.call.result)) ∧
      s'.stage = s.stage ∧ s'.binder = s.binder := by
  have hgive : Step kind s (s.given t q) := .give s t q ht (List.getElem?_eq_some_iff.1 hc).1
  have hasking : (s.given t q).stage t = .asking q := Function.update_self ..
  obtain ⟨s', id, outcome, hrun, hr, hw, hclients, hevents, hl, houtcome, hstage, hbinder⟩ :=
    work_call kind hasking hc hfree
  refine ⟨s', id, outcome, .head hgive (run_of_work hrun), hr, hw, hclients, hevents, hl, houtcome, ?_, hbinder⟩
  rw [hstage, St.given, St.stage_goes, Function.update_idem, ← ht, Function.update_eq_self]

/-! ## No task waits for ever -/

/-- A task that is to give a client its handle can find it. -/
theorem work_resolved (kind : HandleKind H σ) (hs : Inv s) {u : τ} {k : Nat} (hu : s.binder k = some u) :
    ∃ s' p id, Run (Work kind) s s' ∧ (s.stage u).request? = some p ∧ p.client = k ∧
      s'.stage = Function.update s.stage u (.resolved p id) ∧ s'.clients = s.clients ∧
      s'.deliveries = s.deliveries := by
  have hbinding : (s.stage u).binding? = some k := (hs.binder k u).1 hu
  cases hstage : s.stage u with
  | idle => simp [hstage, Stage.binding?] at hbinding
  | asking p => simp [hstage, Stage.binding?] at hbinding
  | holding p id => simp [hstage, Stage.binding?] at hbinding
  | resolved p id =>
    have hk : p.client = k := by simpa [hstage, Stage.binding?] using hbinding
    have hstay : s.stage = Function.update s.stage u (.resolved p id) := by rw [← hstage, Function.update_eq_self]
    exact ⟨s, p, id, .refl, rfl, hk, hstay, rfl, rfl⟩
  | looking p =>
    obtain ⟨c, hc⟩ := (hs.stage u).present p (by simp [hstage, Stage.request?])
    have hk : p.client = k := by simpa [hstage, Stage.binding?] using hbinding
    exact ⟨s.found kind.create u p c, p, _, work_found hstage hc, rfl, hk, rfl, rfl, rfl⟩
  | missed p =>
    obtain ⟨c, hc⟩ := (hs.stage u).present p (by simp [hstage, Stage.request?])
    have hk : p.client = k := by simpa [hstage, Stage.binding?] using hbinding
    exact ⟨s.entered kind.create u p c, p, _, .single (.enter s u p c hstage hc), rfl, hk, rfl, rfl, rfl⟩

/-- A task that is to give a client its handle can do so. -/
theorem work_bound (kind : HandleKind H σ) (hs : Inv s) {u : τ} {k : Nat} (hu : s.binder k = some u) :
    ∃ s' p id, Run (Work kind) s s' ∧ (s.stage u).request? = some p ∧
      s'.stage = Function.update s.stage u (.holding p id) ∧ s'.bound k = some id ∧
      s'.deliveries = s.deliveries := by
  obtain ⟨s₁, p, id, hrun, hp, hk, hstage, hclients, hl⟩ := work_resolved kind hs hu
  obtain ⟨c, hc⟩ := (hs.stage u).present p hp
  have hc₁ : s₁.clients[p.client]? = some c := by rw [hclients, hc]
  have hsettle : Work kind s₁ (s₁.settled u p c id) := by
    refine .settle s₁ u p c id ?_ hc₁
    rw [hstage, Function.update_self]
  refine ⟨s₁.settled u p c id, p, id, hrun.tail hsettle, hp, ?_, ?_, hl⟩
  · show Function.update s₁.stage u (.holding p id) = _
    rw [hstage, Function.update_idem]
  · rw [s₁.bound_settled u id hc₁, hk, Function.update_self]

/-- A task that has the client's handle can run its command. -/
theorem work_sent (kind : HandleKind H σ) {t : τ} {q : Request} {id : HandleId} (ht : s.stage t = .holding q id) :
    ∃ s' outcome, Run (Work kind) s s' ∧ s'.deliveries = s.deliveries ++ [⟨t, q, id, outcome⟩] :=
  ⟨_, _, .single (.send s t q id ht), rfl⟩

/-- A task that is to give a client its handle can then run its command. -/
theorem work_delivery_of_binder (kind : HandleKind H σ) (hs : Inv s) {t : τ} {q : Request} {k : Nat}
    (hk : s.binder k = some t) (ht : (s.stage t).request? = some q) :
    ∃ s' id outcome, Run (Work kind) s s' ∧ s'.deliveries = s.deliveries ++ [⟨t, q, id, outcome⟩] := by
  obtain ⟨s₁, p, id, hrun, hp, hstage, _, hl⟩ := work_bound kind hs hk
  rw [ht] at hp
  cases hp
  have hholding : s₁.stage t = .holding q id := by rw [hstage, Function.update_self]
  obtain ⟨s₂, outcome, hsent, hl₂⟩ := work_sent kind hholding
  exact ⟨s₂, id, outcome, hrun.trans hsent, by rw [hl₂, hl]⟩

/-- A task that has a command can get it to a handle, whatever the others have done, if the task for which it waits
goes on. -/
theorem work_delivery (hs : Inv s) {t : τ} {q : Request} (ht : (s.stage t).request? = some q) :
    ∃ s' id outcome, Run (Work kind) s s' ∧ s'.deliveries = s.deliveries ++ [⟨t, q, id, outcome⟩] := by
  cases hbinding : (s.stage t).binding? with
  | some k => exact work_delivery_of_binder kind hs ((hs.binder k t).2 hbinding) ht
  | none =>
    cases hstage : s.stage t with
    | idle => simp [hstage, Stage.request?] at ht
    | looking p => simp [hstage, Stage.binding?] at hbinding
    | missed p => simp [hstage, Stage.binding?] at hbinding
    | resolved p id => simp [hstage, Stage.binding?] at hbinding
    | holding p id =>
      obtain ⟨s', outcome, hsent, hl⟩ := work_sent kind hstage
      have hpq : p = q := by simpa [hstage, Stage.request?] using ht
      exact ⟨s', id, outcome, hsent, hpq ▸ hl⟩
    | asking p =>
      have hpq : p = q := by simpa [hstage, Stage.request?] using ht
      subst hpq
      -- once the client has its handle, the task takes it and runs its command
      have htake : ∀ s₁ id, Run (Work kind) s s₁ → s₁.stage t = .asking p → s₁.bound p.client = some id →
          s₁.deliveries = s.deliveries →
          ∃ s' id outcome, Run (Work kind) s s' ∧ s'.deliveries = s.deliveries ++ [⟨t, p, id, outcome⟩] := by
        intro s₁ id hrun hasking hbound hl
        have hhold : Work kind s₁ (s₁.goes t (.holding p id)) := .take s₁ t p id hasking hbound
        have hholding : (s₁.goes t (.holding p id)).stage t = .holding p id := by simp
        obtain ⟨s₂, outcome, hsent, hl₂⟩ := work_sent kind hholding
        exact ⟨s₂, id, outcome, (hrun.tail hhold).trans hsent, hl ▸ hl₂⟩
      cases hbound : s.bound p.client with
      | some id => exact htake s id .refl hstage hbound rfl
      | none =>
        cases hbinder : s.binder p.client with
        | some u =>
          -- the client gets its handle from another task
          obtain ⟨s₁, _, id, hrun, _, hstage₁, hbound₁, hl⟩ := work_bound kind hs hbinder
          have hne : t ≠ u := by
            rintro rfl
            rw [(hs.binder p.client t).1 hbinder] at hbinding
            cases hbinding
          have hasking : s₁.stage t = .asking p := by rw [hstage₁, Function.update_of_ne hne, hstage]
          exact htake s₁ id hrun hasking hbound₁ hl
        | none =>
          have hbegin : Work kind s (s.begun t p) := .begin s t p hstage hbound hbinder
          have hbinder' : (s.begun t p).binder p.client = some t := Function.update_self ..
          have hrequest : ((s.begun t p).stage t).request? = some p := by simp [St.begun, St.goes, Stage.request?]
          obtain ⟨s', id, outcome, hrun, hl⟩ :=
            work_delivery_of_binder kind (inv_step _ _ hbegin.step hs) hbinder' hrequest
          exact ⟨s', id, outcome, .head hbegin hrun, hl⟩

theorem run_delivery (hs : Inv s) {t : τ} {q : Request} (ht : (s.stage t).request? = some q) :
    ∃ s' id outcome, Run (Step kind) s s' ∧ s'.deliveries = s.deliveries ++ [⟨t, q, id, outcome⟩] := by
  obtain ⟨s', id, outcome, hrun, hl⟩ := work_delivery hs ht
  exact ⟨s', id, outcome, run_of_work hrun, hl⟩

/-! ## What the clients' users may rely on -/

/-- Runs keep the handle of a client. -/
theorem bound_of_run (hs : Inv s) (h : Run (Step kind) s s') {k : Nat} {id : HandleId} (hk : s.bound k = some id) :
    s'.bound k = some id := by
  have hkeep : ∀ s₁ s₂ : St τ H σ, Step kind s₁ s₂ → Inv s₁ ∧ s₁.bound k = some id →
      Inv s₂ ∧ s₂.bound k = some id := by
    rintro s₁ s₂ hstep ⟨hinv, hbound⟩
    exact ⟨inv_step s₁ s₂ hstep hinv, step_bound hstep hinv hbound⟩
  exact (h.invariant hkeep ⟨hs, hk⟩).2

/-- A handle that the registry has for a client was created. -/
theorem handle_of_entry (hs : Inv s) {k : Nat} {id : HandleId} (hk : s.entry k = some id) :
    ∃ h, s.registry.handle? id = some h := by
  obtain ⟨c, _, hp⟩ := Option.bind_eq_some_iff.1 hk
  have hlt : id < s.registry.keys.length :=
    (List.getElem?_eq_some_iff.1 (hs.wellFormed.probe_eq_some_iff.1 hp)).1
  rw [← hs.wellFormed.length_handles] at hlt
  exact ⟨_, List.getElem?_eq_getElem hlt⟩

/-- The step runs the command of the delivery on the handle that the client is bound to, and what comes of that is the
outcome. -/
structure Delivers (kind : HandleKind H σ) (s s' : St τ H σ) (d : Delivery τ) : Prop where
  step : Step kind s s'
  bound : s.bound d.request.client = some d.handle
  ran : ∃ h, s.registry.handle? d.handle = some h ∧
    kind.query d.request.call.command h s.world =
      (d.outcome, (kind.query d.request.call.command h s.world).2.1, s'.world) ∧
    s'.registry = s.registry.update d.handle (kind.query d.request.call.command h s.world).2.1
  deliveries : s'.deliveries = s.deliveries ++ [d]

/-- A step that is not a delivery leaves them as they were. -/
theorem delivers_of_step (h : Step kind s s') (hs : Inv s) :
    s'.deliveries = s.deliveries ∨ ∃ d, Delivers kind s s' d := by
  cases h with
  | send t q id ht =>
    have hbound : s.bound q.client = some id := (hs.stage t).holding q id ht
    obtain ⟨x, hx⟩ := handle_of_entry hs (hs.entry _ _ hbound)
    have hquery : Client.queryHandle kind id q.call.command s.registry s.world =
        ((kind.query q.call.command x s.world).1, s.registry.update id (kind.query q.call.command x s.world).2.1,
          (kind.query q.call.command x s.world).2.2) := by
      unfold Client.queryHandle
      rw [hx]
    refine .inr ⟨⟨t, q, id, (kind.query q.call.command x s.world).1⟩, .send s t q id ht, hbound, ⟨x, hx, ?_, ?_⟩, ?_⟩
    · simp only [St.sent, hquery]
    · simp only [St.sent, hquery]
    · simp only [St.sent, hquery]
  | _ => exact .inl rfl

/-- Every delivery on record was made by a step. -/
theorem exists_delivers (hs : Reachable kind s) {d : Delivery τ} (hd : d ∈ s.deliveries) :
    ∃ s₁ s₂, Reachable kind s₁ ∧ Delivers kind s₁ s₂ d ∧ Run (Step kind) s₂ s := by
  obtain ⟨w, hrun⟩ := hs
  induction hrun with
  | refl => cases hd
  | @tail u v hbefore hlast ih =>
    have hold : d ∈ u.deliveries → ∃ s₁ s₂, Reachable kind s₁ ∧ Delivers kind s₁ s₂ d ∧ Run (Step kind) s₂ v := by
      intro hu
      obtain ⟨s₁, s₂, hs₁, hdelivers, hafter⟩ := ih hu
      exact ⟨s₁, s₂, hs₁, hdelivers, hafter.tail hlast⟩
    rcases delivers_of_step hlast (inv_of_reachable ⟨w, hbefore⟩) with hsame | ⟨last, hlastly⟩
    · exact hold (hsame ▸ hd)
    · rw [hlastly.deliveries] at hd
      rcases List.mem_append.1 hd with hu | hnew
      · exact hold hu
      · -- this is the last delivery
        rw [List.mem_singleton.1 hnew]
        exact ⟨u, v, ⟨w, hbefore⟩, hlastly, .refl⟩

/-- Whatever the order of the steps: a client looks at most once, by one task at a time; a client that has its handle
keeps it, and the handle is the registry's for the client's fingerprint, so that two clients have one handle exactly if
they have one fingerprint; a task's commands are those that handles were given and the one that it is at, which it can
always get to a handle; a task is about to run a command only on the client's handle, which was created, and all commands
of a client went to it: each was run on the handle that the client had at the time, and ended as it did there. The steps
of a command that nobody comes between do what `Client.call` does. -/
theorem clients_bind_once (hs : Reachable kind s) :
    (∀ k, s.lookups.count k ≤ 1) ∧
    (∀ t u k, (s.stage t).binding? = some k → (s.stage u).binding? = some k → t = u) ∧
    (∀ s', Run (Step kind) s s' → ∀ k id, s.bound k = some id → s'.bound k = some id) ∧
    (∀ (k : Nat) (c : Client) (id : HandleId), s.clients[k]? = some c → c.handle = some id →
      s.registry.probe c.fingerprint = some id) ∧
    (∀ (j k : Nat) (c d : Client) (i l : HandleId), s.clients[j]? = some c → s.clients[k]? = some d →
      c.handle = some i → d.handle = some l → (i = l ↔ c.fingerprint = d.fingerprint)) ∧
    (∀ t, s.issued t = s.delivered t ++ (s.stage t).request?.toList) ∧
    (∀ t q, (s.stage t).request? = some q → ∃ s' id outcome, Run (Step kind) s s' ∧
      s'.deliveries = s.deliveries ++ [⟨t, q, id, outcome⟩]) ∧
    (∀ t q id, s.stage t = .holding q id →
      s.bound q.client = some id ∧ ∃ h, s.registry.handle? id = some h) ∧
    (∀ d ∈ s.deliveries, s.bound d.request.client = some d.handle ∧
      ∃ s₁ s₂, Reachable kind s₁ ∧ Delivers kind s₁ s₂ d ∧ Run (Step kind) s₂ s) ∧
    ∀ (t : τ) (q : Request) (c : Client), s.stage t = .idle → s.clients[q.client]? = some c →
      s.binder q.client = none →
      ∃ s' id outcome, Run (Step kind) s s' ∧
        s'.registry = (c.call kind s.registry s.world q.call).registry ∧
        s'.world = (c.call kind s.registry s.world q.call).world ∧
        s'.clients = s.clients.set q.client (c.call kind s.registry s.world q.call).client ∧
        s'.events = s.events ++ (c.call kind s.registry s.world q.call).events ∧
        s'.deliveries = s.deliveries ++ [⟨t, q, id, outcome⟩] ∧
        (c.call kind s.registry s.world q.call).outcome =
          outcome.bind (fun reply => .ofStore (reply.convert q.call.result)) ∧
        s'.stage = s.stage ∧ s'.binder = s.binder := by
  have hinv := inv_of_reachable hs
  have hentry : ∀ (k : Nat) (c : Client) (id : HandleId), s.clients[k]? = some c → c.handle = some id →
      s.registry.probe c.fingerprint = some id := by
    intro k c id hc hid
    have hk := hinv.entry k id (by simp [St.bound, hc, hid])
    rw [St.entry, hc] at hk
    exact hk
  refine ⟨?_, ?_, ?_, hentry, ?_, hinv.issued, ?_, ?_, ?_, fun t q c ht hc hfree => run_call ht hc hfree⟩
  · intro k
    exact List.nodup_iff_count.1 hinv.once k
  · -- one task is the client's binder
    intro t u k ht hu
    have hbinder := (hinv.binder k t).2 ht
    rw [(hinv.binder k u).2 hu] at hbinder
    exact (Option.some.inj hbinder).symm
  · intro s' hrun k id hk
    exact bound_of_run hinv hrun hk
  · intro j k c d i l hc hd hi hl
    have hci := hentry j c i hc hi
    have hdl := hentry k d l hd hl
    constructor
    · rintro rfl
      exact hinv.wellFormed.probe_injective hci hdl
    · intro hf
      rw [hf, hdl] at hci
      exact (Option.some.inj hci).symm
  · intro t q ht
    exact run_delivery hinv ht
  · intro t q id ht
    have hbound := (hinv.stage t).holding q id ht
    exact ⟨hbound, handle_of_entry hinv (hinv.entry _ _ hbound)⟩
  · intro d hd
    exact ⟨hinv.delivered d hd, exists_delivers hs hd⟩

/-- Two tasks ask one client for its handle before it has one, and a third asks a client of the same nodes; nothing is
in the registry when they look. -/
theorem clients_bind_once_when_all_miss : ∃ s : St (Fin 3) RecordingHandle Unit, Reachable RecordingHandle.kind s ∧
    s.clients = [⟨ascending, some 0⟩, ⟨descending, some 0⟩] ∧ s.registry.created = 1 ∧ s.lookups = [0, 1] ∧
    s.deliveries.map (fun d => (d.task, d.request.client, d.handle)) = [(1, 0, 0), (2, 1, 0), (0, 0, 0)] ∧
    ∀ d ∈ s.deliveries, s.bound d.request.client = some d.handle := by
  have hrun : Run (Step RecordingHandle.kind) ({ world := () } : St (Fin 3) RecordingHandle Unit) _ :=
    ((((((((((((((((Relation.ReflTransGen.single
      (.fromDescriptor _ 0 ascending Nat.zero_lt_one)).tail
      (.fromDescriptor _ 0 descending Nat.zero_lt_one)).tail
      (.give _ 0 ⟨0, .ping⟩ rfl Nat.zero_lt_two)).tail
      (.give _ 1 ⟨0, .ping⟩ rfl Nat.zero_lt_two)).tail
      (.give _ 2 ⟨1, .ping⟩ rfl Nat.one_lt_two)).tail
      (.begin _ 0 ⟨0, .ping⟩ rfl rfl rfl)).tail
      (.begin _ 2 ⟨1, .ping⟩ rfl rfl rfl)).tail
      (.miss _ 0 ⟨0, .ping⟩ _ rfl rfl rfl)).tail
      (.miss _ 2 ⟨1, .ping⟩ _ rfl rfl rfl)).tail
      (.enter _ 0 ⟨0, .ping⟩ _ rfl rfl)).tail
      (.settle _ 0 ⟨0, .ping⟩ _ _ rfl rfl)).tail
      (.enter _ 2 ⟨1, .ping⟩ _ rfl rfl)).tail
      (.take _ 1 ⟨0, .ping⟩ _ rfl rfl)).tail
      (.send _ 1 ⟨0, .ping⟩ _ rfl)).tail
      (.settle _ 2 ⟨1, .ping⟩ _ _ rfl rfl)).tail
      (.send _ 2 ⟨1, .ping⟩ _ rfl)).tail
      (.send _ 0 ⟨0, .ping⟩ _ rfl)
  -- the first of the two that have missed creates the handle, and the second finds it when it looks again
  have hfirst : ({} : Registry RecordingHandle).enter RecordingHandle.kind.create ascending =
      ⟨({} : Registry RecordingHandle).insert RecordingHandle.kind.create ascending, 0,
        [.creating ascending.fingerprint ascending.mode ascending.addresses]⟩ := rfl
  have hsecond : (({} : Registry RecordingHandle).insert RecordingHandle.kind.create ascending).enter
      RecordingHandle.kind.create descending = ⟨({} : Registry RecordingHandle).insert RecordingHandle.kind.create
        ascending, 0, [.overtaken descending.fingerprint]⟩ := by
    have hf : descending.fingerprint = ascending.fingerprint :=
      Fingerprint.fingerprint_eq_of_perm (List.Perm.swap "a:1" "b:2" [])
    apply Registry.enter_of_eq_some
    rw [hf, Registry.probe_insert]
    simp [Registry.probe, Registry.created]
  have hcreated : (({} : Registry RecordingHandle).insert RecordingHandle.kind.create ascending).created = 1 := rfl
  obtain ⟨_, _, _, _, _, _, _, _, hdelivered, _⟩ := clients_bind_once ⟨(), hrun⟩
  refine ⟨_, ⟨(), hrun⟩, ?_, ?_, ?_, ?_, fun d hd => (hdelivered d hd).1⟩
  · simp [St.sent, St.settled, St.entered, St.begun, St.given, St.goes, St.made, hfirst, hsecond]
  · simp [St.sent, St.settled, St.entered, St.begun, St.given, St.goes, St.made, hfirst, hsecond, hcreated]
  · rfl
  · simp [St.sent, St.settled, St.entered, St.begun, St.given, St.goes, St.made, hfirst, hsecond]

end SharedClients

end Tether
