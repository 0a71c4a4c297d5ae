import Mathlib.Data.List.Nodup
import Mathlib.Data.List.Perm.Subperm
import Mathlib.Data.List.Range
import Tether.Proofs.Cli.Highest
import Tether.Proofs.Client.Binding

namespace Tether

/-! # A fan-out

A fan-out makes a number of clients of one argument, and a task for each that increments a key. While the tasks work,
all at the same time, those that have ended are joined one by one, in any order, until one has failed or none is left.
We show:

* `inv_of_reachable`: each client is given one command, and nobody enters the registry but for the one fingerprint;
* `waiting_iff`, `failed_iff`: when the fan-out goes on and when it fails;
* `printed`: otherwise every client has run its command, on the one handle, and the highest number is printed;
* `printed_eq`: which does not depend on the order in which the tasks were joined.
-/

namespace SharedFanout

open SharedClients (Work Delivery Request)

variable {H σ : Type}

/-! ## Clients that work at the same time -/

/-- The number that a client got. -/
def number (d : Delivery Nat) : Outcome Int64 := d.outcome.bind fun reply => .ofStore (reply.convert .integer)

/-- The tasks of a fan-out, numbered as their clients, and the results of those that were joined, in order. -/
structure St (H σ : Type) where
  tasks : SharedClients.St Nat H σ
  joined : List (Nat × Except OperationError Int64) := []

namespace St

/-- How the fan-out has ended, if it has. -/
def outcome (n : Nat) (key : String) (s : St H σ) : CliOutcome :=
  Fanout.outcome n s.tasks.registry.size key (s.joined.map (·.2))

/-- A client is made, and its task gets its command. -/
def spawned (s : St H σ) (c : Client) (key : String) : St H σ :=
  let i := s.tasks.clients.length
  { s with tasks := (s.tasks.made c).given i ⟨i, .incr key⟩ }

/-- A task that has ended is joined. -/
def join (s : St H σ) (t : Nat) (r : Except OperationError Int64) : St H σ := { s with joined := s.joined ++ [(t, r)] }

/-- A task got this result. -/
def Got (s : St H σ) (t : Nat) (r : Except OperationError Int64) : Prop :=
  ∃ d ∈ s.tasks.deliveries, d.task = t ∧ number d = .finished r

/-- The operations that a client ran. -/
def ran (s : St H σ) (k : Nat) : List Call :=
  (s.tasks.deliveries.filter fun d => d.request.client = k).map (·.request.call)

end St

/-- A step of the loop that makes the clients, of a task, of the loop that joins the tasks, or of the store: a handle, on
which several commands may run at once, and the world become something else. -/
inductive Step (kind : HandleKind H σ) (argument : Json) (n : Nat) (key : String) : St H σ → St H σ → Prop where
  | spawn (s : St H σ) (c : Client) (hn : s.tasks.clients.length < n) (hc : Client.ofArguments [argument] = .ok c) :
      Step kind argument n key s (s.spawned c key)
  | work (s : St H σ) (tasks : SharedClients.St Nat H σ) (h : Work kind s.tasks tasks) :
      Step kind argument n key s { s with tasks }
  | join (s : St H σ) (d : Delivery Nat) (r : Except OperationError Int64) (hn : s.tasks.clients.length = n)
      (hd : d ∈ s.tasks.deliveries) (hr : number d = .finished r) (hnew : d.task ∉ s.joined.map (·.1))
      (hgoing : s.outcome n key = .waiting) : Step kind argument n key s (s.join d.task r)
  | handleWorks (s : St H σ) (id : HandleId) (h : H) (w : σ) :
      Step kind argument n key s
        { s with tasks := { s.tasks with registry := s.tasks.registry.update id h, world := w } }

@[simp] theorem St.clients_spawned (s : St H σ) (c : Client) (key : String) :
    (s.spawned c key).tasks.clients = s.tasks.clients ++ [c] := rfl

/-- What any steps lead to, from a registry that nobody has used. -/
def Reachable (kind : HandleKind H σ) (argument : Json) (n : Nat) (key : String) (w : σ) (s : St H σ) : Prop :=
  Run (Step kind argument n key) { tasks := { world := w } } s

/-! ## What a step does -/

section Work

variable {kind : HandleKind H σ} {s s' : SharedClients.St Nat H σ} (h : Work kind s s')
include h

/-- A task makes no client, gets no other command and takes nothing back. -/
theorem work_keeps : s'.factories = s.factories ∧ s'.issued = s.issued ∧
    s'.clients.map (·.descriptor) = s.clients.map (·.descriptor) ∧ s.deliveries <+: s'.deliveries := by
  cases h with
  | send t q id ht => exact ⟨rfl, rfl, rfl, List.prefix_append ..⟩
  | settle t q c id ht hc =>
    refine ⟨rfl, rfl, ?_, List.prefix_rfl⟩
    obtain ⟨hlt, rfl⟩ := List.getElem?_eq_some_iff.1 hc
    have hset : (s.clients.map (·.descriptor)).set q.client s.clients[q.client].descriptor =
        s.clients.map (·.descriptor) := by
      rw [← List.map_set, List.set_getElem_self]
    rw [SharedClients.St.settled, List.map_set, hset]
  | _ => exact ⟨rfl, rfl, rfl, List.prefix_rfl⟩

/-- A task enters the registry for its client, if it does. -/
theorem work_keys {f : Fingerprint} (hf : f ∈ s'.registry.keys) :
    f ∈ s.registry.keys ∨ ∃ c ∈ s.clients, f = c.fingerprint := by
  cases h with
  | send t q id ht =>
    refine .inl ?_
    rwa [← Client.keys_queryHandle kind id q.call.command s.registry s.world]
  | enter t q c ht hc =>
    have hmem := Registry.mem_keys_getOrCreate kind.create (r := s.registry) (d := c.descriptor) (f := f)
    rw [(Registry.getOrCreate_eq_enter s.registry kind.create c.descriptor).1] at hmem
    rcases hmem.1 hf with hold | rfl
    · exact .inl hold
    · exact .inr ⟨c, List.mem_of_getElem? hc, rfl⟩
  | _ => exact .inl hf

end Work

/-! ## How far the fan-out is -/

variable {n : Nat} {key : String} {s s' : St H σ}

section Joined

variable {joined : List (Nat × Except OperationError Int64)} {values : List Int64}

theorem length_of_values (h : joined.map (·.2) = values.map .ok) : joined.length = values.length := by
  simpa using congrArg List.length h

/-- Where there are numbers alone nothing failed. -/
theorem eq_ok_of_values (h : joined.map (·.2) = values.map .ok) {p : Nat × Except OperationError Int64}
    (hp : p ∈ joined) : ∃ v, p.2 = .ok v := by
  have hmem : p.2 ∈ values.map Except.ok := h ▸ List.mem_map_of_mem hp
  obtain ⟨v, -, hv⟩ := List.mem_map.1 hmem
  exact ⟨v, hv.symm⟩

/-- Where nothing failed there are numbers alone. -/
theorem exists_values (h : ∀ p ∈ joined, ∃ v, p.2 = .ok v) : ∃ values : List Int64, joined.map (·.2) = values.map .ok := by
  rcases Fanout.values_or_failure (joined.map (·.2)) with hvalues | ⟨values, e, after, hmap⟩
  · exact hvalues
  · have hmem : Except.error e ∈ joined.map (·.2) := hmap ▸ by simp
    obtain ⟨p, hp, heq⟩ := List.mem_map.1 hmem
    obtain ⟨v, hv⟩ := h p hp
    rw [hv] at heq
    cases heq

end Joined

/-- A fan-out goes on until a failure is joined, or all tasks are. -/
theorem waiting_iff :
    s.outcome n key = .waiting ↔ (∀ p ∈ s.joined, ∃ v, p.2 = .ok v) ∧ s.joined.length < n := by
  constructor
  · intro h
    obtain ⟨values, hvalues, hlt⟩ := Fanout.outcome_eq_waiting_iff.1 h
    exact ⟨fun p => eq_ok_of_values hvalues, (length_of_values hvalues).symm ▸ hlt⟩
  · rintro ⟨hall, hlt⟩
    obtain ⟨values, hvalues⟩ := exists_values hall
    exact Fanout.outcome_eq_waiting_iff.2 ⟨values, hvalues, length_of_values hvalues ▸ hlt⟩

/-! ## The invariant -/

/-- What holds between any two steps, for clients of this descriptor. -/
structure Inv (d : Descriptor) (n : Nat) (key : String) (s : St H σ) : Prop where
  tasks : SharedClients.Inv s.tasks
  factory : 0 < s.tasks.factories
  descriptors : ∀ e ∈ s.tasks.clients.map (·.descriptor), e = d
  length : s.tasks.clients.length ≤ n
  issued : ∀ t, s.tasks.issued t = if t < s.tasks.clients.length then [⟨t, .incr key⟩] else []
  keys : ∀ f ∈ s.tasks.registry.keys, f = d.fingerprint ∧ s.tasks.clients ≠ []
  got : ∀ p ∈ s.joined, s.Got p.1 p.2
  once : (s.joined.map (·.1)).Nodup
  spawned : s.joined ≠ [] → s.tasks.clients.length = n
  going : ∀ p ∈ s.joined.dropLast, ∃ v, p.2 = .ok v

variable {kind : HandleKind H σ} {argument : Json} {c : Client} {w : σ} {d : Descriptor}

theorem inv_init (d : Descriptor) (n : Nat) (key : String) (w : σ) :
    Inv d n key ({ tasks := { world := w } } : St H σ) where
  tasks := SharedClients.inv_init w
  factory := Nat.zero_lt_one
  descriptors := by simp
  length := Nat.zero_le n
  issued := by simp
  keys := by simp [Registry.keys]
  got := by simp
  once := List.nodup_nil
  spawned := by simp
  going := by simp

/-- A task that has no command yet is idle. -/
theorem Inv.idle (hs : Inv d n key s) {t : Nat} (ht : s.tasks.clients.length ≤ t) : s.tasks.stage t = .idle := by
  have hissued := hs.tasks.issued t
  rw [hs.issued t, if_neg (Nat.not_lt.2 ht)] at hissued
  have hnone := (List.append_eq_nil_iff.1 hissued.symm).2
  cases hstage : s.tasks.stage t <;> simp [hstage, SharedClients.Stage.request?] at hnone ⊢

theorem inv_spawned (kind : HandleKind H σ) (hs : Inv d n key s) (hn : s.tasks.clients.length < n)
    (hc : Client.ofArguments [argument] = .ok c) (hd : c.descriptor = d) : Inv d n key (s.spawned c key) where
  tasks := by
    -- the client is made, and its task, which was idle, gets its command
    have hmake : SharedClients.Step kind s.tasks (s.tasks.made c) := .newClient s.tasks 0 [argument] c hs.factory hc
    have hgive : SharedClients.Step kind (s.tasks.made c) (s.spawned c key).tasks :=
      .give _ _ _ (hs.idle (Nat.le_refl _)) (by simp [SharedClients.St.made])
    exact SharedClients.inv_step _ _ hgive (SharedClients.inv_step _ _ hmake hs.tasks)
  factory := hs.factory
  descriptors := by
    intro e he
    rw [St.clients_spawned, List.map_append] at he
    rcases List.mem_append.1 he with he | he
    · exact hs.descriptors e he
    · exact (List.mem_singleton.1 he).trans hd
  length := by
    rw [St.clients_spawned, List.length_append, List.length_singleton]
    omega
  issued := by
    intro t
    let i := s.tasks.clients.length
    show Function.update s.tasks.issued i (s.tasks.issued i ++ [⟨i, .incr key⟩]) t = _
    rw [St.clients_spawned, List.length_append, List.length_singleton]
    by_cases ht : t = i
    · subst ht
      rw [Function.update_self, hs.issued, if_neg (Nat.lt_irrefl _), if_pos (Nat.lt_succ_self _), List.nil_append]
    · rw [Function.update_of_ne ht, hs.issued]
      have hiff : t < s.tasks.clients.length ↔ t < s.tasks.clients.length + 1 := by omega
      simp only [hiff]
  keys := by
    intro f hf
    exact ⟨(hs.keys f hf).1, by simp⟩
  got := hs.got
  once := hs.once
  spawned := by
    intro hjoined
    have hlength := hs.spawned hjoined
    omega
  going := hs.going

theorem inv_work (hs : Inv d n key s) {tasks : SharedClients.St Nat H σ} (h : Work kind s.tasks tasks) :
    Inv d n key { s with tasks } := by
  obtain ⟨hfactories, hissued, hdescriptors, hdeliveries⟩ := work_keeps h
  have hlength : tasks.clients.length = s.tasks.clients.length := by
    simpa using congrArg List.length hdescriptors
  have hnil : s.tasks.clients ≠ [] → tasks.clients ≠ [] := by
    intro hne heq
    rw [heq] at hlength
    exact hne (List.length_eq_zero_iff.1 hlength.symm)
  exact { hs with
    tasks := SharedClients.inv_step _ _ h.step hs.tasks
    factory := hfactories ▸ hs.factory
    descriptors := hdescriptors ▸ hs.descriptors
    length := hlength ▸ hs.length
    issued := by
      intro t
      rw [hissued, hlength]
      exact hs.issued t
    keys := by
      intro f hf
      rcases work_keys h hf with hold | ⟨c, hc, rfl⟩
      · exact ⟨(hs.keys f hold).1, hnil (hs.keys f hold).2⟩
      · -- the client that enters is one of those that were made
        refine ⟨?_, hnil (List.ne_nil_of_mem hc)⟩
        rw [Client.fingerprint, hs.descriptors _ (List.mem_map_of_mem hc)]
    got := by
      intro p hp
      obtain ⟨e, he, hgot⟩ := hs.got p hp
      exact ⟨e, hdeliveries.subset he, hgot⟩
    spawned := by
      intro hjoined
      rw [hlength]
      exact hs.spawned hjoined }

theorem inv_step (hc : Client.ofArguments [argument] = .ok c) (s s' : St H σ) (h : Step kind argument n key s s')
    (hs : Inv c.descriptor n key s) : Inv c.descriptor n key s' := by
  cases h with
  | spawn c' hn hc' =>
    rw [hc] at hc'
    cases hc'
    exact inv_spawned kind hs hn hc rfl
  | work tasks h => exact inv_work hs h
  | handleWorks id h w =>
    have hworks : SharedClients.Step kind s.tasks _ := .handleWorks s.tasks id h w
    exact { hs with tasks := SharedClients.inv_step _ _ hworks hs.tasks, keys := hs.keys }
  | join e r hn he hr hnew hgoing =>
    exact { hs with
      got := by
        intro p hp
        rcases List.mem_append.1 hp with hp | hp
        · exact hs.got p hp
        · rw [List.mem_singleton.1 hp]
          exact ⟨e, he, rfl, hr⟩
      once := by
        rw [St.join, List.map_append, List.nodup_append]
        refine ⟨hs.once, by simp, ?_⟩
        rintro a ha b hb rfl
        rw [List.mem_singleton.1 hb] at ha
        exact hnew ha
      spawned := fun _ => hn
      going := by
        intro p hp
        rw [St.join, List.dropLast_concat] at hp
        exact (waiting_iff.1 hgoing).1 p hp }

theorem inv_of_run (hc : Client.ofArguments [argument] = .ok c) (hs : Inv c.descriptor n key s)
    (h : Run (Step kind argument n key) s s') : Inv c.descriptor n key s' := h.invariant (inv_step hc) hs

theorem inv_of_reachable (hc : Client.ofArguments [argument] = .ok c) (hs : Reachable kind argument n key w s) :
    Inv c.descriptor n key s := inv_of_run hc (inv_init c.descriptor n key w) hs

/-! ## What the clients did -/

namespace Inv

variable (hs : Inv d n key s)
include hs

/-- A command that was run is that of its task, on the client of the task. -/
theorem request_eq {e : Delivery Nat} (he : e ∈ s.tasks.deliveries) :
    e.task < s.tasks.clients.length ∧ e.request = ⟨e.task, .incr key⟩ := by
  have hmem : e.request ∈ s.tasks.issued e.task := by
    rw [hs.tasks.issued]
    exact List.mem_append_left _ (List.mem_map_of_mem (List.mem_filter.2 ⟨he, by simp⟩))
  rw [hs.issued] at hmem
  split at hmem
  · next hlt => exact ⟨hlt, List.mem_singleton.1 hmem⟩
  · cases hmem

/-- What a client ran is what its task got to a handle. -/
theorem ran_eq (k : Nat) : s.ran k = (s.tasks.delivered k).map (·.call) := by
  have hfilter : (s.tasks.deliveries.filter fun e => e.request.client = k) =
      s.tasks.deliveries.filter fun e => e.task = k := by
    apply List.filter_congr
    intro e he
    rw [(hs.request_eq he).2]
  rw [St.ran, hfilter, SharedClients.St.delivered, List.map_map]
  rfl

/-- A task that got something has run its command, once. -/
theorem delivered_eq {e : Delivery Nat} (he : e ∈ s.tasks.deliveries) :
    s.tasks.delivered e.task = [⟨e.task, .incr key⟩] := by
  have hissued := hs.tasks.issued e.task
  rw [hs.issued, if_pos (hs.request_eq he).1] at hissued
  have hmem : e.request ∈ s.tasks.delivered e.task := List.mem_map_of_mem (List.mem_filter.2 ⟨he, by simp⟩)
  cases hdelivered : s.tasks.delivered e.task with
  | nil =>
    rw [hdelivered] at hmem
    cases hmem
  | cons q rest =>
    rw [hdelivered, List.cons_append, List.cons.injEq] at hissued
    rw [← hissued.1, (List.append_eq_nil_iff.1 hissued.2.symm).1]

theorem nodup_tasks : (s.tasks.deliveries.map (·.task)).Nodup := by
  -- what a task has run is at most what it was given, and that is one command
  rw [List.nodup_iff_count_le_one]
  intro t
  have hle : (s.tasks.delivered t).length ≤ (s.tasks.issued t).length := by
    rw [hs.tasks.issued t, List.length_append]
    exact Nat.le_add_right _ _
  have hone : (s.tasks.issued t).length ≤ 1 := by
    rw [hs.issued]
    split <;> simp
  have hcount : (s.tasks.deliveries.map (·.task)).count t = (s.tasks.delivered t).length := by
    rw [SharedClients.St.delivered, List.length_map, ← List.countP_eq_length_filter, List.count_eq_countP,
      List.countP_map]
    rfl
  omega

/-- A task has one result. -/
theorem got_unique {t : Nat} {r r' : Except OperationError Int64} (h : s.Got t r) (h' : s.Got t r') : r = r' := by
  obtain ⟨e, he, rfl, hr⟩ := h
  obtain ⟨e', he', htask, hr'⟩ := h'
  have heq : e' = e := List.inj_on_of_nodup_map hs.nodup_tasks he' he htask
  rw [heq, hr] at hr'
  cases hr'
  rfl

/-- Once a client has run its command, the registry has the one fingerprint. -/
theorem keys_eq {e : Delivery Nat} (he : e ∈ s.tasks.deliveries) : s.tasks.registry.keys = [d.fingerprint] := by
  have hentry := hs.tasks.entry _ _ (hs.tasks.delivered e he)
  obtain ⟨c, -, hprobe⟩ := Option.bind_eq_some_iff.1 hentry
  have hmem := Registry.mem_keys_of_probe_eq_some hprobe
  -- there is no other fingerprint, and none is there twice
  have hreplicate : s.tasks.registry.keys = List.replicate s.tasks.registry.keys.length d.fingerprint :=
    List.eq_replicate_iff.2 ⟨rfl, fun f hf => (hs.keys f hf).1⟩
  have hnodup := hs.tasks.wellFormed.nodup
  rw [hreplicate, List.nodup_replicate] at hnodup
  have hpos : 0 < s.tasks.registry.keys.length := List.length_pos_of_mem hmem
  have hone : s.tasks.registry.keys.length = 1 := by omega
  rw [hreplicate, hone, List.replicate_one]

theorem handle_eq {e : Delivery Nat} (he : e ∈ s.tasks.deliveries) : e.handle = 0 := by
  have hentry := hs.tasks.entry _ _ (hs.tasks.delivered e he)
  obtain ⟨c, -, hprobe⟩ := Option.bind_eq_some_iff.1 hentry
  have hkey := hs.tasks.wellFormed.probe_eq_some_iff.1 hprobe
  have hlt := (List.getElem?_eq_some_iff.1 hkey).1
  rw [hs.keys_eq he, List.length_singleton] at hlt
  exact Nat.lt_one_iff.1 hlt

/-- The tasks that were joined are some of those that there are. -/
theorem joined_lt {t : Nat} (ht : t ∈ s.joined.map (·.1)) : t < s.tasks.clients.length := by
  obtain ⟨p, hp, rfl⟩ := List.mem_map.1 ht
  obtain ⟨e, he, htask, -⟩ := hs.got p hp
  exact htask ▸ (hs.request_eq he).1

theorem joined_subperm : (s.joined.map (·.1)).Subperm (List.range n) := by
  apply List.subperm_of_subset hs.once
  intro t ht
  have hlt := hs.joined_lt ht
  have hle := hs.length
  exact List.mem_range.2 (by omega)

/-- Once there are as many results as clients, every task was joined. -/
theorem joined_perm (hn : n ≤ s.joined.length) : (s.joined.map (·.1)).Perm (List.range n) :=
  hs.joined_subperm.perm_of_length_le (by simpa using hn)

theorem exists_delivery (hn : n ≤ s.joined.length) {t : Nat} (ht : t < n) : ∃ e ∈ s.tasks.deliveries, e.task = t := by
  obtain ⟨p, hp, rfl⟩ := List.mem_map.1 ((hs.joined_perm hn).mem_iff.2 (List.mem_range.2 ht))
  obtain ⟨e, he, htask, -⟩ := hs.got p hp
  exact ⟨e, he, htask⟩

theorem length_keys (hn : n ≤ s.joined.length) : s.tasks.registry.keys.length = if n = 0 then 0 else 1 := by
  split
  · next hzero =>
    -- nobody is there to enter
    have hlength := hs.length
    have hnil : s.tasks.clients = [] := List.length_eq_zero_iff.1 (by omega)
    exact List.length_eq_zero_iff.2 (List.eq_nil_iff_forall_not_mem.2 fun f hf => (hs.keys f hf).2 hnil)
  · next hne =>
    obtain ⟨e, he, -⟩ := hs.exists_delivery hn (Nat.pos_of_ne_zero hne)
    rw [hs.keys_eq he, List.length_singleton]

theorem length_clients (hn : n ≤ s.joined.length) : s.tasks.clients.length = n := by
  have hle := hs.length
  rcases Nat.eq_zero_or_pos n with rfl | hpos
  · omega
  · apply hs.spawned
    intro hnil
    rw [hnil] at hn
    exact absurd hn (Nat.not_le.2 hpos)

/-- What a task got was joined. -/
theorem got_iff (hn : n ≤ s.joined.length) {t : Nat} {r : Except OperationError Int64} :
    s.Got t r ↔ (t, r) ∈ s.joined := by
  constructor
  · intro hgot
    -- every task was joined, with its one result
    have ht : t < n := by
      obtain ⟨e, he, rfl, -⟩ := hgot
      exact Nat.lt_of_lt_of_le (hs.request_eq he).1 hs.length
    obtain ⟨p, hp, rfl⟩ := List.mem_map.1 ((hs.joined_perm hn).mem_iff.2 (List.mem_range.2 ht))
    rw [hs.got_unique hgot (hs.got p hp)]
    exact hp
  · exact hs.got (t, r)

/-- While a task was not joined there are too few results. -/
theorem length_joined_lt {t : Nat} (ht : t < n) (hnew : t ∉ s.joined.map (·.1)) : s.joined.length < n := by
  rcases Nat.lt_or_ge s.joined.length n with hlt | hge
  · exact hlt
  · exact absurd ((hs.joined_perm hge).mem_iff.2 (List.mem_range.2 ht)) hnew

end Inv

/-! ## What is printed -/

/-- Every client has run the command once, and all of them on the one handle. -/
structure St.Complete (n : Nat) (key : String) (s : St H σ) : Prop where
  clients : s.tasks.clients.length = n
  joined : (s.joined.map (·.1)).Perm (List.range n)
  ran : ∀ k, s.ran k = if k < n then [.incr key] else []
  handle : ∀ e ∈ s.tasks.deliveries, e.handle = 0
  created : s.tasks.registry.created = if n = 0 then 0 else 1
  size : s.tasks.registry.size = if n = 0 then 0 else 1

/-- This is the highest of the numbers that the tasks got. -/
def St.IsHighest (s : St H σ) (m : Int64) : Prop := (∃ t, s.Got t (.ok m)) ∧ ∀ t v, s.Got t (.ok v) → v ≤ m

theorem St.Complete.le_length (h : s.Complete n key) : n ≤ s.joined.length := by
  have hlength := h.joined.length_eq
  rw [List.length_map, List.length_range] at hlength
  omega

theorem complete (hs : Inv d n key s) (hn : n ≤ s.joined.length) : s.Complete n key where
  clients := hs.length_clients hn
  joined := hs.joined_perm hn
  ran := by
    intro k
    rw [hs.ran_eq]
    split
    · next hk =>
      obtain ⟨e, he, rfl⟩ := hs.exists_delivery hn hk
      rw [hs.delivered_eq he]
      rfl
    · next hk =>
      -- there is no such task
      have hissued := hs.tasks.issued k
      rw [hs.issued, hs.length_clients hn, if_neg hk] at hissued
      rw [(List.append_eq_nil_iff.1 hissued.symm).1]
      rfl
  handle := fun e => hs.handle_eq
  created := by rw [Registry.created, hs.tasks.wellFormed.length_handles, hs.length_keys hn]
  size := by rw [Registry.size_eq_length_keys, hs.length_keys hn]

/-- The highest of the results that were joined is that of what the tasks got. -/
theorem isHighest_iff (hs : Inv d n key s) {values : List Int64} (hvalues : s.joined.map (·.2) = values.map .ok)
    (hn : n ≤ s.joined.length) {m : Int64} : s.IsHighest m ↔ Fanout.Highest values (some m) := by
  have hmem : ∀ v, v ∈ values ↔ ∃ t, s.Got t (.ok v) := by
    intro v
    have hmap : v ∈ values ↔ Except.ok v ∈ s.joined.map (·.2) := by simp [hvalues]
    simp [hmap, hs.got_iff hn]
  constructor
  · rintro ⟨hm, hle⟩
    refine ⟨(hmem m).2 hm, ?_⟩
    intro v hv
    obtain ⟨t, ht⟩ := (hmem v).1 hv
    exact hle t v ht
  · rintro ⟨hm, hle⟩
    exact ⟨(hmem m).1 hm, fun t v hv => hle v ((hmem v).2 ⟨t, hv⟩)⟩

/-- What is printed, and when. -/
theorem printed (hs : Inv d n key s) {text : String} (h : s.outcome n key = .finished (.ok text)) :
    s.Complete n key ∧ (∀ t < n, ∃ v, s.Got t (.ok v)) ∧
      (n = 0 → text = "clients:     0\nhandles:     0\n") ∧
      (n ≠ 0 → ∃ m, s.IsHighest m ∧ text = "clients:     " ++ Decimal.ofNat n ++ "\nhandles:     1\n" ++ key ++ ": " ++
        Decimal.ofInt m.toInt ++ "\n") := by
  obtain ⟨values, m, hvalues, hle, hhighest, rfl⟩ := Fanout.outcome_eq_ok_iff.1 h
  have hlength := length_of_values hvalues
  have hn : n ≤ s.joined.length := hlength ▸ hle
  have hcomplete := complete hs hn
  refine ⟨hcomplete, ?_, ?_, ?_⟩
  · intro t ht
    obtain ⟨p, hp, rfl⟩ := List.mem_map.1 (hcomplete.joined.mem_iff.2 (List.mem_range.2 ht))
    obtain ⟨v, hv⟩ := eq_ok_of_values hvalues hp
    exact ⟨v, hv ▸ hs.got p hp⟩
  · rintro rfl
    -- nobody got a number
    have hnil : s.joined = [] := by simpa using hcomplete.joined
    rw [hnil, List.length_nil] at hlength
    rw [List.length_eq_zero_iff.1 hlength.symm] at hhighest
    rw [hcomplete.size, if_pos rfl]
    cases m with
    | none => exact Fanout.report_of_none key
    | some m => cases hhighest.1
  · intro hne
    rw [hcomplete.size, if_neg hne]
    cases m with
    | none =>
      rw [show values = [] from hhighest, List.length_nil] at hle
      omega
    | some m => exact ⟨m, (isHighest_iff hs hvalues hn).2 hhighest, Fanout.report_of_some n key m⟩

/-- What is printed is told by what the tasks got, whatever the order in which they were joined. -/
theorem printed_eq (hs : Inv d n key s) {d' : Descriptor} (hs' : Inv d' n key s') (hgot : ∀ t r, s.Got t r ↔ s'.Got t r)
    {text text' : String} (h : s.outcome n key = .finished (.ok text))
    (h' : s'.outcome n key = .finished (.ok text')) : text = text' := by
  have hcomplete := (printed hs h).1
  have hcomplete' := (printed hs' h').1
  have hperm : s.joined.Perm s'.joined := by
    -- both have what the tasks got, each once
    apply (List.perm_ext_iff_of_nodup hs.once.of_map hs'.once.of_map).2
    rintro ⟨t, r⟩
    rw [← hs.got_iff hcomplete.le_length, ← hs'.got_iff hcomplete'.le_length, hgot]
  have hsize : s'.tasks.registry.size = s.tasks.registry.size := hcomplete'.size.trans hcomplete.size.symm
  rw [St.outcome, hsize, Fanout.outcome_eq_ok_of_perm (hperm.map _) h] at h'
  cases h'
  rfl

/-- A fan-out fails as the task that was joined last, before which there were only numbers. -/
theorem failed_iff (hs : Inv d n key s) {f : CliFailure} : s.outcome n key = .finished (.error f) ↔
    ∃ before t e, s.joined = before ++ [(t, .error e)] ∧ (∀ p ∈ before, ∃ v, p.2 = .ok v) ∧ f = .operation e := by
  have hfails : ∀ before t e, s.joined = before ++ [(t, .error e)] → (∀ p ∈ before, ∃ v, p.2 = .ok v) →
      s.outcome n key = .finished (.error (.operation e)) := by
    intro before t e hjoined hbefore
    obtain ⟨values, hvalues⟩ := exists_values hbefore
    exact Fanout.outcome_eq_error_iff.2 ⟨values, e, [], by simp [hjoined, hvalues], rfl⟩
  constructor
  · intro h
    rcases List.eq_nil_or_concat s.joined with hnil | ⟨before, ⟨t, r⟩, hjoined⟩
    · -- nothing was joined
      obtain ⟨values, e, after, hmap, -⟩ := Fanout.outcome_eq_error_iff.1 h
      simp [hnil] at hmap
    · rw [List.concat_eq_append] at hjoined
      have hbefore : ∀ p ∈ before, ∃ v, p.2 = .ok v := by
        have hgoing := hs.going
        rwa [hjoined, List.dropLast_concat] at hgoing
      cases r with
      | error e =>
        rw [hfails before t e hjoined hbefore] at h
        cases h
        exact ⟨before, t, e, hjoined, hbefore, rfl⟩
      | ok v =>
        -- nothing failed
        obtain ⟨values, hvalues⟩ := exists_values hbefore
        obtain ⟨values', e, after, hmap, -⟩ := Fanout.outcome_eq_error_iff.1 h
        have hmem : Except.error e ∈ s.joined.map (·.2) := hmap ▸ by simp
        simp [hjoined, hvalues] at hmem
  · rintro ⟨before, t, e, hjoined, hbefore, rfl⟩
    exact hfails before t e hjoined hbefore

end SharedFanout

end Tether
