import Tether.Proofs.Cli.Fanout

namespace Tether

/-! # The tasks of a fan-out are joined

Which tasks of a fan-out have ended, and which of these is joined next, is left open. We show:

* `run_joined`: every task that was not joined may be the next, unless its command never ends;
* `run_fanout`: one client after another, and then one join after another, is what `CliCommand.run` does, to its end;
* `run_any`: the tasks can get any results, and be joined in any order;
* `highest_or_first_failure`: so a fan-out prints the highest number, whatever the order, or fails as the first task that
  failed.
-/

namespace SharedFanout

open SharedClients (Work Delivery Request)

variable {H σ : Type} {kind : HandleKind H σ} {argument : Json} {c : Client} {n : Nat} {key : String} {w : σ}
  {s s' : St H σ} {d : Descriptor}

/-! ## Every task may be the next -/

theorem run_work (kind : HandleKind H σ) (argument : Json) (n : Nat) (key : String) (s : St H σ)
    {tasks : SharedClients.St Nat H σ} (h : Run (Work kind) s.tasks tasks) :
    Run (Step kind argument n key) s { s with tasks } := by
  induction h with
  | refl => exact .refl
  | tail _ hlast ih => exact ih.tail (.work _ _ hlast)

theorem length_of_work {tasks tasks' : SharedClients.St Nat H σ} (h : Run (Work kind) tasks tasks') :
    tasks'.clients.length = tasks.clients.length := by
  induction h with
  | refl => rfl
  | tail _ hlast ih =>
    rw [← ih]
    simpa using congrArg List.length (work_keeps hlast).2.2.1

/-- The clients that are left to be made can be made. -/
theorem run_spawned (kind : HandleKind H σ) (hc : Client.ofArguments [argument] = .ok c) (key : String) (s : St H σ)
    (hn : s.tasks.clients.length ≤ n) : ∃ s', Run (Step kind argument n key) s s' ∧ s'.tasks.clients.length = n ∧
      s'.joined = s.joined := by
  -- by induction on the number of clients that are left
  induction hk : n - s.tasks.clients.length generalizing s with
  | zero => exact ⟨s, .refl, by omega, rfl⟩
  | succ k ih =>
    have hspawn : Step kind argument n key s (s.spawned c key) := .spawn s c (by omega) hc
    have hlength : (s.spawned c key).tasks.clients.length = s.tasks.clients.length + 1 := by simp
    obtain ⟨s', hrun, hlength', hjoined⟩ := ih (s.spawned c key) (by omega) (by omega)
    exact ⟨s', .head hspawn hrun, hlength', hjoined⟩

/-- A task that there is can get its command to a handle, whatever the others do. -/
theorem run_delivered (kind : HandleKind H σ) (argument : Json) (hs : Inv d n key s) {t : Nat}
    (ht : t < s.tasks.clients.length) : ∃ s' e, Run (Step kind argument n key) s s' ∧
      s'.tasks.clients.length = s.tasks.clients.length ∧ s'.joined = s.joined ∧ e ∈ s'.tasks.deliveries ∧
      e.task = t := by
  have hissued := hs.tasks.issued t
  rw [hs.issued, if_pos ht] at hissued
  cases hrequest : (s.tasks.stage t).request? with
  | some q =>
    obtain ⟨tasks, id, outcome, hrun, hdeliveries⟩ := SharedClients.work_delivery hs.tasks hrequest
    refine ⟨{ s with tasks }, ⟨t, q, id, outcome⟩, run_work kind argument n key s hrun, length_of_work hrun, rfl, ?_, rfl⟩
    rw [hdeliveries]
    simp
  | none =>
    -- the task has run its command
    rw [hrequest, Option.toList_none, List.append_nil] at hissued
    have hmem : (⟨t, .incr key⟩ : Request) ∈ s.tasks.delivered t := hissued ▸ List.mem_singleton_self _
    obtain ⟨e, he, -⟩ := List.mem_map.1 hmem
    obtain ⟨he, htask⟩ := List.mem_filter.1 he
    exact ⟨s, e, .refl, rfl, rfl, he, by simpa using htask⟩

/-- While a fan-out goes on, every task that was not joined may be the next, unless its command never ends. -/
theorem run_joined (hc : Client.ofArguments [argument] = .ok c) (hs : Inv c.descriptor n key s)
    (hgoing : s.outcome n key = .waiting) {t : Nat} (ht : t < n) (hnew : t ∉ s.joined.map (·.1)) :
    ∃ s' e, Run (Step kind argument n key) s s' ∧ e ∈ s'.tasks.deliveries ∧ e.task = t ∧
      (number e = .waiting ∧ s'.joined = s.joined ∨
        ∃ r, number e = .finished r ∧ s'.joined = s.joined ++ [(t, r)]) := by
  obtain ⟨s₁, hrun₁, hlength₁, hjoined₁⟩ := run_spawned kind hc key s hs.length
  obtain ⟨s₂, e, hrun₂, hlength₂, hjoined₂, he, htask⟩ :=
    run_delivered kind argument (inv_of_run hc hs hrun₁) (hlength₁ ▸ ht)
  have hjoined : s₂.joined = s.joined := hjoined₂.trans hjoined₁
  have hrun : Run (Step kind argument n key) s s₂ := hrun₁.trans hrun₂
  cases hnumber : number e with
  | waiting => exact ⟨s₂, e, hrun, he, htask, .inl ⟨hnumber, hjoined⟩⟩
  | finished r =>
    have hjoin : Step kind argument n key s₂ (s₂.join e.task r) :=
      .join s₂ e r (hlength₂.trans hlength₁) he hnumber (by rwa [hjoined, htask])
        (waiting_iff.2 (hjoined ▸ waiting_iff.1 hgoing))
    refine ⟨s₂.join e.task r, e, hrun.tail hjoin, he, htask, .inr ⟨r, hnumber, ?_⟩⟩
    rw [St.join, hjoined, htask]

/-! ## One task after another -/

/-- A client that is made while no task is at anything, and whose task then runs alone, does what `Client.call` does. -/
theorem run_client (kind : HandleKind H σ) (hc : Client.ofArguments [argument] = .ok c) (hs : Inv d n key s)
    (hidle : ∀ t, s.tasks.stage t = .idle) (hn : s.tasks.clients.length < n) :
    ∃ s' e, Run (Step kind argument n key) s s' ∧ s'.joined = s.joined ∧
      s'.tasks.clients.length = s.tasks.clients.length + 1 ∧ (∀ t, s'.tasks.stage t = .idle) ∧
      s'.tasks.deliveries = s.tasks.deliveries ++ [e] ∧ e.task = s.tasks.clients.length ∧
      number e = (c.call kind s.tasks.registry s.tasks.world (.incr key)).outcome ∧
      s'.tasks.registry = (c.call kind s.tasks.registry s.tasks.world (.incr key)).registry ∧
      s'.tasks.world = (c.call kind s.tasks.registry s.tasks.world (.incr key)).world := by
  let i := s.tasks.clients.length
  have hspawn : Step kind argument n key s (s.spawned c key) := .spawn s c hn hc
  have hasking : (s.spawned c key).tasks.stage i = .asking ⟨i, .incr key⟩ := Function.update_self ..
  have hclient : (s.spawned c key).tasks.clients[i]? = some c := by simp [i]
  have hfree : (s.spawned c key).tasks.binder i = none := by
    -- no task is to give a client its handle
    apply Option.eq_none_iff_forall_ne_some.2
    intro u hu
    have hbinding := (hs.tasks.binder i u).1 hu
    rw [hidle u] at hbinding
    cases hbinding
  obtain ⟨tasks, id, outcome, hwork, hregistry, hworld, hclients, -, hdeliveries, houtcome, hstage, -⟩ :=
    SharedClients.work_call kind hasking hclient hfree
  refine ⟨{ s.spawned c key with tasks }, ⟨i, ⟨i, .incr key⟩, id, outcome⟩,
    .head hspawn (run_work kind argument n key _ hwork), rfl, ?_, ?_, hdeliveries, rfl, houtcome.symm, hregistry, hworld⟩
  · rw [hclients, List.length_set, St.clients_spawned, List.length_append, List.length_singleton]
  · intro t
    rw [hstage]
    by_cases ht : t = i
    · rw [ht, Function.update_self]
    · rw [Function.update_of_ne ht]
      exact (Function.update_of_ne ht ..).trans (hidle t)

/-- The clients, one after another, are `CliCommand.incrementAll`. -/
theorem run_incrementAll (kind : HandleKind H σ) (hc : Client.ofArguments [argument] = .ok c) (m : Nat) (s : St H σ)
    (hs : Inv c.descriptor n key s) (hidle : ∀ t, s.tasks.stage t = .idle) (hm : s.tasks.clients.length + m = n) :
    ∃ s' ds, Run (Step kind argument n key) s s' ∧ s'.joined = s.joined ∧ s'.tasks.clients.length = n ∧
      s'.tasks.deliveries = s.tasks.deliveries ++ ds ∧ ds.map (·.task) = List.range' s.tasks.clients.length m ∧
      CliCommand.incrementAll kind key (List.replicate m c) s.tasks.registry s.tasks.world =
        (ds.map number, s'.tasks.registry, s'.tasks.world) := by
  induction m generalizing s with
  | zero => exact ⟨s, [], .refl, rfl, hm, by simp, rfl, rfl⟩
  | succ m ih =>
    obtain ⟨s₁, e, hrun₁, hjoined₁, hlength₁, hidle₁, hdeliveries₁, htask, hnumber, hregistry, hworld⟩ :=
      run_client kind hc hs hidle (by omega)
    obtain ⟨s₂, ds, hrun₂, hjoined₂, hlength₂, hdeliveries₂, htasks, hrest⟩ :=
      ih s₁ (inv_of_run hc hs hrun₁) hidle₁ (by omega)
    -- the others find what the first client leaves
    rw [hregistry, hworld] at hrest
    refine ⟨s₂, e :: ds, hrun₁.trans hrun₂, hjoined₂.trans hjoined₁, hlength₂, ?_, ?_, ?_⟩
    · rw [hdeliveries₂, hdeliveries₁, List.append_assoc, List.singleton_append]
    · rw [List.map_cons, htask, htasks, hlength₁, List.range'_succ]
    · simp only [List.replicate_succ, CliCommand.incrementAll, hrest, List.map_cons, hnumber]

/-- A task with its result, if it has ended. -/
def ended? (e : Delivery Nat) : Option (Nat × Except OperationError Int64) := (number e).result?.map (e.task, ·)

theorem map_ended (ds : List (Delivery Nat)) :
    (ds.filterMap ended?).map (·.2) = (ds.map number).filterMap Outcome.result? := by
  rw [List.map_filterMap, List.filterMap_map]
  apply List.filterMap_congr
  intro e he
  rw [ended?, Option.map_map]
  exact Option.map_id_apply

/-- Joining those of some tasks that have ended, in the order of the tasks. -/
theorem run_join (kind : HandleKind H σ) (hc : Client.ofArguments [argument] = .ok c) (ds : List (Delivery Nat))
    (s : St H σ) (hs : Inv c.descriptor n key s) (hn : s.tasks.clients.length = n)
    (hds : ∀ e ∈ ds, e ∈ s.tasks.deliveries) (hnodup : (s.joined.map (·.1) ++ ds.map (·.task)).Nodup)
    (hvalues : ∀ p ∈ s.joined, ∃ v, p.2 = .ok v) :
    ∃ s', Run (Step kind argument n key) s s' ∧ s'.tasks = s.tasks ∧ s'.joined <+: s.joined ++ ds.filterMap ended? ∧
      s'.outcome n key = Fanout.outcome n s.tasks.registry.size key ((s.joined ++ ds.filterMap ended?).map (·.2)) ∧
      (s'.outcome n key = .waiting → s'.joined = s.joined ++ ds.filterMap ended?) := by
  induction ds generalizing s with
  | nil => exact ⟨s, .refl, rfl, by simp, by simp [St.outcome], by simp⟩
  | cons e rest ih =>
    have he : e ∈ s.tasks.deliveries := hds e List.mem_cons_self
    have hrest : ∀ e' ∈ rest, e' ∈ s.tasks.deliveries := fun e' he' => hds e' (List.mem_cons_of_mem _ he')
    cases hnumber : number e with
    | waiting =>
      -- this task is never joined
      have hended : ended? e = none := by rw [ended?, hnumber]; rfl
      have hnodup' : (s.joined.map (·.1) ++ rest.map (·.task)).Nodup :=
        hnodup.sublist ((List.sublist_cons_self ..).append_left _)
      rw [List.filterMap_cons_none hended]
      exact ih s hs hn hrest hnodup' hvalues
    | finished r =>
      have hended : ended? e = some (e.task, r) := by rw [ended?, hnumber]; rfl
      -- the task was not joined, so there are too few results, and the loop goes on
      have hnew : e.task ∉ s.joined.map (·.1) := by
        intro hmem
        exact (List.nodup_append.1 hnodup).2.2 _ hmem _ List.mem_cons_self rfl
      have hlt : s.joined.length < n := hs.length_joined_lt (hn ▸ (hs.request_eq he).1) hnew
      have hjoin : Step kind argument n key s (s.join e.task r) :=
        .join s e r hn he hnumber hnew (waiting_iff.2 ⟨hvalues, hlt⟩)
      have happend : s.joined ++ (e.task, r) :: rest.filterMap ended? =
          (s.join e.task r).joined ++ rest.filterMap ended? := by simp [St.join]
      rw [List.filterMap_cons_some hended, happend]
      cases r with
      | error failure =>
        -- the first failure ends it
        obtain ⟨values, hmap⟩ := exists_values hvalues
        refine ⟨_, .single hjoin, rfl, List.prefix_append .., ?_, ?_⟩
        · simp only [St.outcome, St.join, List.map_append, List.map_cons, List.map_nil, hmap, List.append_assoc,
            List.singleton_append, Fanout.outcome_failure]
        · intro hgoing
          obtain ⟨v, hv⟩ := (waiting_iff.1 hgoing).1 (e.task, .error failure) (by simp [St.join])
          cases hv
      | ok v =>
        have hnodup' : ((s.join e.task (.ok v)).joined.map (·.1) ++ rest.map (·.task)).Nodup := by
          rw [St.join, List.map_append, List.append_assoc]
          exact hnodup
        have hvalues' : ∀ p ∈ (s.join e.task (.ok v)).joined, ∃ v, p.2 = .ok v := by
          intro p hp
          rcases List.mem_append.1 hp with hp | hp
          · exact hvalues p hp
          · exact ⟨v, by rw [List.mem_singleton.1 hp]⟩
        obtain ⟨s', hrun, hends⟩ :=
          ih (s.join e.task (.ok v)) (inv_of_run hc hs (.single hjoin)) hn hrest hnodup' hvalues'
        exact ⟨s', .head hjoin hrun, hends⟩

/-- Nothing more can be joined: the fan-out has ended, or some commands never end, and these are all that it waits
for. -/
def St.IsFinal (n : Nat) (key : String) (s : St H σ) : Prop :=
  s.outcome n key = .waiting → (∃ e ∈ s.tasks.deliveries, number e = .waiting) ∧
    ∀ t < n, t ∉ s.joined.map (·.1) → ∃ e ∈ s.tasks.deliveries, e.task = t ∧ number e = .waiting

/-- Fewer tasks than there are leave one out. -/
theorem exists_not_joined (hgoing : s.outcome n key = .waiting) : ∃ t < n, t ∉ s.joined.map (·.1) := by
  by_contra hno
  push Not at hno
  have hsub : List.range n ⊆ s.joined.map (·.1) := fun t ht => hno t (List.mem_range.1 ht)
  have hle := (List.nodup_range.subperm hsub).length_le
  rw [List.length_range, List.length_map] at hle
  exact absurd (waiting_iff.1 hgoing).2 (Nat.not_lt.2 hle)

/-- Where all that have ended are joined, the others are those that never end. -/
theorem isFinal_of_joined (htasks : s.tasks.deliveries.map (·.task) = List.range' 0 n)
    (hjoined : s.outcome n key = .waiting → s.joined = s.tasks.deliveries.filterMap ended?) : s.IsFinal n key := by
  intro hgoing
  have hwaits : ∀ t < n, t ∉ s.joined.map (·.1) → ∃ e ∈ s.tasks.deliveries, e.task = t ∧ number e = .waiting := by
    intro t ht hnew
    have hmem : t ∈ s.tasks.deliveries.map (·.task) := by
      rw [htasks]
      simpa using ht
    obtain ⟨e, he, rfl⟩ := List.mem_map.1 hmem
    refine ⟨e, he, rfl, ?_⟩
    cases hnumber : number e with
    | waiting => rfl
    | finished r =>
      -- what has ended was joined
      have hended : ended? e = some (e.task, r) := by rw [ended?, hnumber]; rfl
      rw [hjoined hgoing] at hnew
      exact absurd (List.mem_map.2 ⟨(e.task, r), List.mem_filterMap.2 ⟨e, he, hended⟩, rfl⟩) hnew
  obtain ⟨t, ht, hnew⟩ := exists_not_joined hgoing
  obtain ⟨e, he, -, hnumber⟩ := hwaits t ht hnew
  exact ⟨⟨e, he, hnumber⟩, hwaits⟩

/-- The command line's fan-out is one of the runs, to its end. -/
theorem run_fanout (kind : HandleKind H σ) (hc : Client.ofArguments [argument] = .ok c) (n : Nat) (key : String)
    (w : σ) : ∃ s, Reachable kind argument n key w s ∧ s.IsFinal n key ∧
      CliCommand.run kind argument {} w (.fanout n key) = ⟨s.outcome n key, s.tasks.registry, s.tasks.world⟩ := by
  cases n with
  | zero =>
    refine ⟨_, .refl, ?_, rfl⟩
    intro hgoing
    exact absurd (waiting_iff.1 hgoing).2 (Nat.not_lt_zero _)
  | succ n =>
    let s₀ : St H σ := { tasks := { world := w } }
    have hs₀ : Inv c.descriptor (n + 1) key s₀ := inv_init ..
    -- all clients run their commands, and then their tasks are joined in order
    obtain ⟨s₁, ds, hrun₁, hjoined₁, hlength₁, hdeliveries₁, htasks₁, hall⟩ :=
      run_incrementAll kind hc (n + 1) s₀ hs₀ (fun _ => rfl) (Nat.zero_add _)
    have hs₁ : Inv c.descriptor (n + 1) key s₁ := inv_of_run hc hs₀ hrun₁
    have hds : s₁.tasks.deliveries = ds := hdeliveries₁
    have hnil : s₁.joined = [] := hjoined₁
    have hnodup : (s₁.joined.map (·.1) ++ ds.map (·.task)).Nodup := by
      rw [hnil, ← hds]
      exact hs₁.nodup_tasks
    obtain ⟨s₂, hrun₂, hkept₂, -, houtcome₂, hjoined₂⟩ :=
      run_join kind hc ds s₁ hs₁ hlength₁ (fun e he => hds ▸ he) hnodup (by simp [hnil])
    rw [hnil, List.nil_append] at houtcome₂ hjoined₂
    refine ⟨s₂, hrun₁.trans hrun₂, isFinal_of_joined ?_ ?_, ?_⟩
    · rw [hkept₂, hds, htasks₁]
      rfl
    · rw [hkept₂, hds]
      exact hjoined₂
    · have hrun : CliCommand.run kind argument {} w (.fanout (n + 1) key) =
          (CliCommand.fanout (n + 1) key).runWith kind c {} w := by
        rw [CliCommand.run, hc]
        simp
      have hall' : CliCommand.incrementAll kind key (List.replicate (n + 1) c) {} w =
        (ds.map number, s₁.tasks.registry, s₁.tasks.world) := hall
      rw [hrun, houtcome₂, hkept₂, map_ended, CliCommand.runWith, hall']

/-! ## Every list of results, in every order -/

/-- What a handle answers that a number, or a failure, comes from. -/
def answer : Except OperationError Int64 → Outcome Reply
  | .ok v => .success (.int v)
  | .error e => .failed e

/-- Handles that answer what their world holds, one after another. -/
def telling : HandleKind Unit (List (Outcome Reply)) where
  create _ := ()
  query _ h w := (w.headD .waiting, h, w.tail)

theorem call_telling (hc : c.handle = none) {r : Registry Unit} (hr : r.WellFormed)
    (result : Except OperationError Int64) (more : List (Outcome Reply)) (key : String) :
    let called := c.call telling r (answer result :: more) (.incr key)
    called.outcome = .finished result ∧ called.world = more := by
  have hw := hr.getOrCreate telling.create c.descriptor
  have hprobe := Registry.probe_getOrCreate_self telling.create r c.descriptor
  -- the handle that the client gets was created
  have hlt := (List.getElem?_eq_some_iff.1 (hw.probe_eq_some_iff.1 hprobe)).1
  rw [← hw.length_handles] at hlt
  have hhandle : (r.getOrCreate telling.create c.descriptor).registry.handle?
      (r.getOrCreate telling.create c.descriptor).handle = some () := List.getElem?_eq_getElem hlt
  simp only [Client.call, Client.bind_of_eq_none hc, Client.queryHandle, hhandle]
  cases result <;> exact ⟨rfl, rfl⟩

theorem incrementAll_telling (hc : c.handle = none) (results : List (Except OperationError Int64)) (key : String)
    {r : Registry Unit} (hr : r.WellFormed) :
    (CliCommand.incrementAll telling key (List.replicate results.length c) r (results.map answer)).1 =
      results.map .finished := by
  induction results generalizing r with
  | nil => rfl
  | cons result rest ih =>
    obtain ⟨houtcome, hworld⟩ := call_telling hc hr result (rest.map answer) key
    have hcalled : (c.call telling r (answer result :: rest.map answer) (.incr key)).registry.WellFormed :=
      Client.wellFormed_call telling _ _ hr
    simp only [List.length_cons, List.replicate_succ, List.map_cons, CliCommand.incrementAll, houtcome, hworld,
      ih hcalled]
    rfl

/-- The tasks can get any results, before one of them is joined. -/
theorem run_told (hc : Client.ofArguments [argument] = .ok c) (results : List (Except OperationError Int64))
    (key : String) : ∃ s, Reachable telling argument results.length key (results.map answer) s ∧ s.joined = [] ∧
      s.tasks.clients.length = results.length ∧ ∀ t < results.length, ∃ e r,
        s.tasks.deliveries[t]? = some e ∧ results[t]? = some r ∧ e.task = t ∧ number e = .finished r := by
  obtain ⟨s, ds, hrun, hjoined, hlength, hdeliveries, htasks, hall⟩ :=
    run_incrementAll telling hc results.length _ (inv_init _ _ key (results.map answer)) (fun _ => rfl) (Nat.zero_add _)
  refine ⟨s, hrun, hjoined, hlength, fun t ht => ?_⟩
  have hds : s.tasks.deliveries = ds := hdeliveries
  have hnumbers : ds.map number = results.map .finished := by
    rw [← incrementAll_telling (Client.handle_ofArguments hc) results key Registry.wellFormed_empty]
    exact (congrArg Prod.fst hall).symm
  have hlt : t < ds.length := by
    have hlength := congrArg List.length hnumbers
    rw [List.length_map, List.length_map] at hlength
    rwa [hlength]
  have htask : (ds.map (·.task))[t]? = some t := by
    rw [htasks]
    simp [ht]
  have hnumber : (ds.map number)[t]? = some (.finished results[t]) := by
    rw [hnumbers, List.getElem?_map, List.getElem?_eq_getElem ht, Option.map_some]
  rw [List.getElem?_map, List.getElem?_eq_getElem hlt] at htask hnumber
  rw [hds]
  exact ⟨_, _, List.getElem?_eq_getElem hlt, List.getElem?_eq_getElem ht, Option.some.inj htask, Option.some.inj hnumber⟩

/-- The tasks can get any results, and be joined in any order until one has failed. -/
theorem run_any (hc : Client.ofArguments [argument] = .ok c) (results : List (Except OperationError Int64))
    {order : List Nat} (horder : order.Perm (List.range results.length)) (key : String) :
    ∃ s, Reachable telling argument results.length key (results.map answer) s ∧
      (∀ t r, s.Got t r ↔ results[t]? = some r) ∧ s.joined.map (·.1) <+: order ∧
      s.outcome results.length key ≠ .waiting := by
  obtain ⟨s₁, hs₁, hnil, hlength, htold⟩ := run_told hc results key
  have hinv := inv_of_reachable hc hs₁
  have hlt : ∀ t ∈ order, t < results.length := fun t ht => List.mem_range.1 (horder.mem_iff.1 ht)
  -- the tasks in the given order
  let ds := order.filterMap (s₁.tasks.deliveries[·]?)
  have hds : ∀ e ∈ ds, e ∈ s₁.tasks.deliveries := by
    intro e he
    obtain ⟨t, -, hpick⟩ := List.mem_filterMap.1 he
    exact List.mem_of_getElem? hpick
  have htasks : ds.map (·.task) = order := by
    rw [List.map_filterMap]
    refine (List.filterMap_congr fun t ht => ?_).trans List.filterMap_some
    obtain ⟨e, r, he, -, htask, -⟩ := htold t (hlt t ht)
    rw [he, Option.map_some, htask]
  have hended : (ds.filterMap ended?).map (·.1) = order := by
    rw [List.filterMap_filterMap, List.map_filterMap]
    refine (List.filterMap_congr fun t ht => ?_).trans List.filterMap_some
    obtain ⟨e, r, he, -, htask, hnumber⟩ := htold t (hlt t ht)
    rw [he, Option.bind_some, ended?, hnumber, htask]
    rfl
  have hnodup : (s₁.joined.map (·.1) ++ ds.map (·.task)).Nodup := by
    rw [hnil, htasks]
    exact horder.nodup_iff.2 List.nodup_range
  obtain ⟨s₂, hrun, hkept, hprefix, houtcome, -⟩ :=
    run_join telling hc ds s₁ hinv hlength hds hnodup (by simp [hnil])
  rw [hnil, List.nil_append] at hprefix houtcome
  refine ⟨s₂, hs₁.trans hrun, ?_, hended ▸ hprefix.map _, ?_⟩
  · intro t r
    rw [St.Got, hkept]
    constructor
    · intro hgot
      have ht : t < results.length := by
        obtain ⟨e, he, rfl, -⟩ := hgot
        exact hlength ▸ (hinv.request_eq he).1
      obtain ⟨e, r', he, hr', htask, hnumber⟩ := htold t ht
      rw [hr', hinv.got_unique hgot ⟨e, List.mem_of_getElem? he, htask, hnumber⟩]
    · intro hr
      obtain ⟨e, r', he, hr', htask, hnumber⟩ := htold t (List.getElem?_eq_some_iff.1 hr).1
      rw [hr] at hr'
      cases hr'
      exact ⟨e, List.mem_of_getElem? he, htask, hnumber⟩
  · -- there are as many results as clients
    intro hgoing
    rw [houtcome] at hgoing
    obtain ⟨values, hvalues, hfew⟩ := Fanout.outcome_eq_waiting_iff.1 hgoing
    have hall : (ds.filterMap ended?).length = results.length := by
      rw [← List.length_map (·.1), hended, horder.length_eq, List.length_range]
    rw [length_of_values hvalues] at hall
    exact absurd hall hfew.ne

/-- Whatever the order of the steps, for any number of clients of an argument and from a registry that nobody has used:
if the fan-out prints, then every client has sent `INCR` once, all of them on the one handle, and what is printed is the
number of clients, that of the handles, and the highest of the numbers that the tasks got, which does not depend on the
order in which they were joined; it fails exactly as the first task that was joined with a failure, and then prints
nothing; it goes on exactly while there was none and tasks are left, and any of these may be joined next, unless its
command never ends; what the command line does is one of these runs, to its end; and the tasks can get any results,
whatever the order in which they are then joined. -/
theorem highest_or_first_failure (hc : Client.ofArguments [argument] = .ok c)
    (hs : Reachable kind argument n key w s) :
    (Call.incr key).command = [Part.ofText "INCR", Part.ofText key] ∧
    (∀ text, s.outcome n key = .finished (.ok text) → s.Complete n key ∧ (∀ t < n, ∃ v, s.Got t (.ok v)) ∧
      (n = 0 → text = "clients:     0\nhandles:     0\n") ∧
      (n ≠ 0 → ∃ m, s.IsHighest m ∧ text = "clients:     " ++ Decimal.ofNat n ++ "\nhandles:     1\n" ++ key ++ ": " ++
        Decimal.ofInt m.toInt ++ "\n")) ∧
    (∀ w' s' text text', Reachable kind argument n key w' s' → (∀ t r, s.Got t r ↔ s'.Got t r) →
      s.outcome n key = .finished (.ok text) → s'.outcome n key = .finished (.ok text') → text = text') ∧
    (∀ f, s.outcome n key = .finished (.error f) ↔
      ∃ before t e, s.joined = before ++ [(t, .error e)] ∧ (∀ p ∈ before, ∃ v, p.2 = .ok v) ∧ f = .operation e) ∧
    (∀ p ∈ s.joined, s.Got p.1 p.2) ∧
    (∀ t r r', s.Got t r → s.Got t r' → r = r') ∧
    (∀ t e, s.Got t (.error e) → ∀ text, s.outcome n key ≠ .finished (.ok text)) ∧
    (s.outcome n key = .waiting ↔ (∀ p ∈ s.joined, ∃ v, p.2 = .ok v) ∧ s.joined.length < n) ∧
    (s.outcome n key = .waiting → ∀ t < n, t ∉ s.joined.map (·.1) →
      ∃ s' e, Run (Step kind argument n key) s s' ∧ e ∈ s'.tasks.deliveries ∧ e.task = t ∧
        (number e = .waiting ∧ s'.joined = s.joined ∨
          ∃ r, number e = .finished r ∧ s'.joined = s.joined ++ [(t, r)])) ∧
    (∃ s', Reachable kind argument n key w s' ∧ s'.IsFinal n key ∧
      CliCommand.run kind argument {} w (.fanout n key) = ⟨s'.outcome n key, s'.tasks.registry, s'.tasks.world⟩) ∧
    ∀ (results : List (Except OperationError Int64)) (order : List Nat), order.Perm (List.range results.length) →
      ∃ s', Reachable telling argument results.length key (results.map answer) s' ∧
        (∀ t r, s'.Got t r ↔ results[t]? = some r) ∧ s'.joined.map (·.1) <+: order ∧
        s'.outcome results.length key ≠ .waiting := by
  have hinv := inv_of_reachable hc hs
  refine ⟨rfl, fun text => printed hinv, ?_, fun f => failed_iff hinv, hinv.got, fun t r r' => hinv.got_unique, ?_,
    waiting_iff, ?_, run_fanout kind hc n key w, fun results order horder => run_any hc results horder key⟩
  · intro w' s' text text' hs' hgot htext htext'
    exact printed_eq hinv (inv_of_reachable hc hs') hgot htext htext'
  · intro t e hfailed text htext
    obtain ⟨hcomplete, hgot, -⟩ := printed hinv htext
    have ht : t < n := by
      obtain ⟨i, hi, rfl, -⟩ := hfailed
      exact hcomplete.clients ▸ (hinv.request_eq hi).1
    obtain ⟨v, hv⟩ := hgot t ht
    cases hinv.got_unique hfailed hv
  · intro hgoing t ht hnew
    exact run_joined hc hinv hgoing ht hnew

/-- Handles that count in their world, and answer how far they are. -/
def counting : HandleKind Unit Int64 where
  create _ := ()
  query _ h w := (.success (.int (w + 1)), h, w + 1)

/-- The first two commands that such handles get. -/
theorem outcome_counting (hc : c.handle = none) (key : String) (w : Int64) :
    let first := c.call counting {} w (.incr key)
    first.outcome = .finished (.ok (w + 1)) ∧ first.world = w + 1 ∧
      (c.call counting first.registry first.world (.incr key)).outcome = .finished (.ok (w + 1 + 1)) := by
  have hfirst : c.call counting {} w (.incr key) =
      ⟨.finished (.ok (w + 1)), { c with handle := some 0 }, ⟨[(c.fingerprint, 0)], [()]⟩, w + 1,
        [.creating c.fingerprint c.descriptor.mode c.descriptor.addresses, .bound c.fingerprint c.descriptor.mode]⟩ := by
    simp [Client.call, Client.bind_of_eq_none hc, Registry.getOrCreate, Registry.enter, Registry.insert, Registry.probe,
      Client.queryHandle, Registry.handle?, Registry.update, counting, Client.fingerprint]
    rfl
  rw [hfirst]
  refine ⟨rfl, rfl, ?_⟩
  simp [Client.call, Client.bind_of_eq_none hc, Registry.getOrCreate, Registry.probe, Client.queryHandle,
    Registry.handle?, Registry.update, counting, Client.fingerprint]
  rfl

/-- Two clients, of which the second is joined first. -/
theorem highest_or_first_failure_when_second_is_first : ∃ s : St Unit Int64,
    Reachable counting (.string "redis://a:1") 2 "hits" 6 s ∧ s.joined = [(1, .ok 8), (0, .ok 7)] ∧
    s.Complete 2 "hits" ∧ s.outcome 2 "hits" = .finished (.ok "clients:     2\nhandles:     1\nhits: 8\n") := by
  obtain ⟨c, hc⟩ := Client.exists_ofArguments_address
  obtain ⟨hfirst, hworld, hsecond⟩ := outcome_counting (Client.handle_ofArguments hc) "hits" 6
  obtain ⟨s₁, e₁, hrun₁, hjoined₁, hlength₁, hidle₁, hdeliveries₁, htask₁, hnumber₁, hregistry₁, hworld₁⟩ :=
    run_client counting hc (inv_init c.descriptor 2 "hits" 6) (fun _ => rfl) Nat.zero_lt_two
  have hs₁ : Inv c.descriptor 2 "hits" s₁ := inv_of_reachable hc hrun₁
  obtain ⟨s₂, e₂, hrun₂, hjoined₂, hlength₂, -, hdeliveries₂, htask₂, hnumber₂, -⟩ :=
    run_client counting hc hs₁ hidle₁ (by rw [hlength₁]; exact Nat.one_lt_two)
  rw [hregistry₁, hworld₁, hsecond] at hnumber₂
  rw [hfirst] at hnumber₁
  have hnil : s₂.joined = [] := hjoined₂.trans hjoined₁
  have htask₂ : e₂.task = 1 := htask₂.trans hlength₁
  have he₁ : e₁ ∈ s₂.tasks.deliveries := by simp [hdeliveries₂, hdeliveries₁]
  have he₂ : e₂ ∈ s₂.tasks.deliveries := by simp [hdeliveries₂]
  have hlength : s₂.tasks.clients.length = 2 := by rw [hlength₂, hlength₁]; rfl
  -- the second is joined, and then the first
  let s₃ := s₂.join e₂.task (.ok 8)
  let s₄ := s₃.join e₁.task (.ok 7)
  have hjoin₃ : Step counting (.string "redis://a:1") 2 "hits" s₂ s₃ :=
    .join s₂ e₂ (.ok 8) hlength he₂ hnumber₂ (by simp [hnil]) (waiting_iff.2 (by simp [hnil]))
  have hjoined₃ : s₃.joined = [(1, .ok 8)] := by simp [s₃, St.join, hnil, htask₂]
  have hjoin₄ : Step counting (.string "redis://a:1") 2 "hits" s₃ s₄ :=
    .join s₃ e₁ (.ok 7) hlength he₁ hnumber₁ (by simp [hjoined₃, htask₁]) (waiting_iff.2 (by simp [hjoined₃]))
  have hjoined₄ : s₄.joined = [(1, .ok 8), (0, .ok 7)] := by simp [s₄, St.join, hjoined₃, htask₁]
  have hs₄ : Reachable counting (.string "redis://a:1") 2 "hits" 6 s₄ := ((hrun₁.trans hrun₂).tail hjoin₃).tail hjoin₄
  obtain ⟨-, hprinted, -⟩ := highest_or_first_failure hc hs₄
  have hhighest : Fanout.highest (s₄.joined.map (·.2)) = .ok (some 8) := by rw [hjoined₄]; rfl
  have houtcome : s₄.outcome 2 "hits" = .finished (.ok (Fanout.report 2 s₄.tasks.registry.size "hits" (some 8))) := by
    rw [St.outcome, Fanout.outcome, hhighest, hjoined₄]
    rfl
  have hcomplete := (hprinted _ houtcome).1
  have htext : "clients:     " ++ Decimal.ofNat 2 ++ "\nhandles:     1\n" ++ "hits" ++ ": " ++
      Decimal.ofInt (8 : Int64).toInt ++ "\n" = "clients:     2\nhandles:     1\nhits: 8\n" := by
    decide +kernel
  refine ⟨s₄, hs₄, hjoined₄, hcomplete, ?_⟩
  rw [houtcome, hcomplete.size, if_neg (by decide), Fanout.report_of_some, htext]

end SharedFanout

end Tether
