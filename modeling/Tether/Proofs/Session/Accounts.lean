import Tether.Proofs.Session.Ledger
import Tether.Proofs.Session.Lookups

namespace Tether

/-! # Commands, replies and failures in a session

Replies are queued on handles, and commands come to a handle from all clients that share it and from elsewhere. We show:

* `Session.Kept.step`: after a step every handle is as the ledger says to which the step's deeds were added;
* `Session.accounts_hold`: so after any steps a handle has had the commands that were sent to it, has the replies left
  that they did not take, and the next command gets the oldest of them, whatever comes of it; a command that fails fails
  alone.
-/

/-- What an operation makes of a reply. -/
def Call.answerTo (k : Call) (reply : Except StoreError Reply) : CallResult :=
  ⟨k.result, (reply.bind (·.convert k.result)).mapError .store⟩

/-- A client that is bound in a registry finds its handle there. -/
def Client.IsRegistered (c : Client) (r : Registry RecordingHandle) : Prop :=
  ∀ id, c.handle = some id → r.probe c.fingerprint = some id

namespace Client

variable {c : Client} {r : Registry RecordingHandle}

/-- A client is bound to the handle that is registered for it, whether it was so before or not. -/
theorem IsRegistered.bind_eq (h : c.IsRegistered r) :
    (c.bind r RecordingHandle.new).registry = (r.getOrCreate RecordingHandle.new c.descriptor).registry ∧
      (c.bind r RecordingHandle.new).handle = (r.getOrCreate RecordingHandle.new c.descriptor).handle ∧
      (c.bind r RecordingHandle.new).client =
        { c with handle := some (r.getOrCreate RecordingHandle.new c.descriptor).handle } := by
  cases hc : c.handle with
  | some id =>
    have hget := Registry.getOrCreate_of_eq_some RecordingHandle.new (h id hc)
    rw [bind_of_eq_some hc, hget, ← hc]
    exact ⟨rfl, rfl, rfl⟩
  | none =>
    rw [bind_of_eq_none hc]
    exact ⟨rfl, rfl, rfl⟩

theorem IsRegistered.getOrCreate (h : c.IsRegistered r) (d : Descriptor) :
    c.IsRegistered (r.getOrCreate RecordingHandle.new d).registry := by
  intro id hid
  rw [(Registry.getOrCreate_eq_enter r RecordingHandle.new d).1]
  exact Registry.probe_enter_of_eq_some RecordingHandle.new (h id hid) d

end Client

namespace Session

/-- The handle that a client's commands go to: the one that is registered for it, or else the next to be created. -/
def handleOf (s : Session) (c : Client) : HandleId :=
  (s.registry.getOrCreate RecordingHandle.new c.descriptor).handle

/-- The registry once the client has a handle. -/
def registryWith (s : Session) (c : Client) : Registry RecordingHandle :=
  (s.registry.getOrCreate RecordingHandle.new c.descriptor).registry

/-- What is done with the handles of clients that run an operation one after another. -/
def ledgerAll (s : Session) (k : Call) : List (String × Client) → Ledger
  | [] => []
  | (name, _) :: rest =>
    match s.client? name with
    | none => ledgerAll s k rest
    | some c => (s.handleOf c, .sent k.command) :: ledgerAll (s.run name c k).1 k rest

/-- What a step does with handles. -/
def ledger (s : Session) : Step → Ledger
  | .command name k reply =>
    match s.client? name with
    | none => []
    | some c => .ofDeeds (s.handleOf c) (reply.toList.map .queued ++ [.sent k.command])
  | .concurrent names k =>
    match s.clientsOf? names with
    | none => []
    | some clients => s.ledgerAll k clients
  | .queue t replies =>
    match s.targetHandle t with
    | .error _ => []
    | .ok (id, _) => .ofDeeds id (replies.map .queued)
  | .raw t c =>
    match s.targetHandle t with
    | .error _ => []
    | .ok (id, _) => .ofDeeds id [.sent c]
  | _ => []

/-- What was done with the handles in a run. -/
def history (s : Session) : List Step → Ledger
  | [] => []
  | st :: rest => s.ledger st ++ history (s.step st).1 rest

/-- The handles are as the ledger says, and bound clients have the handles that are registered for them. -/
structure Kept (s : Session) (l : Ledger) : Prop where
  registry : s.registry.Kept l
  registered : ∀ name c, s.client? name = some c → c.IsRegistered s.registry

variable {s : Session} {l : Ledger} {name : String} {c : Client}

/-- What an operation does to a session: the client has the handle that is registered for it, and the command goes there
and gets the reply that is next. -/
theorem run_eq (hs : s.registry.WellFormed) (hc : c.IsRegistered s.registry) (name : String) (k : Call) :
    ∃ h, (s.registryWith c).handle? (s.handleOf c) = some h ∧
      (s.run name c k).1.registry = (s.registryWith c).update (s.handleOf c) (h.query k.command).2 ∧
      (s.run name c k).1.clients = (s.putClient name { c with handle := some (s.handleOf c) }).clients ∧
      (s.run name c k).2 = ({ c with handle := some (s.handleOf c) }, k.answerTo (h.query k.command).1) := by
  obtain ⟨hregistry, hhandle, hclient⟩ := hc.bind_eq
  -- the handle that binding gives is there, so the query reaches it
  obtain ⟨h, hh⟩ := hs.handle?_getOrCreate c.descriptor
  have hquery : Client.queryHandle RecordingHandle.kind (c.bind s.registry RecordingHandle.new).handle k.command
      (c.bind s.registry RecordingHandle.new).registry () =
        (.ofStore (h.query k.command).1, (s.registryWith c).update (s.handleOf c) (h.query k.command).2, ()) := by
    rw [hregistry, hhandle, Client.queryHandle, hh]
    rfl
  have hcall : c.call RecordingHandle.kind s.registry () k =
      ⟨(Outcome.ofStore (h.query k.command).1).bind fun reply => .ofStore (reply.convert k.result),
        { c with handle := some (s.handleOf c) }, (s.registryWith c).update (s.handleOf c) (h.query k.command).2, (),
        (c.bind s.registry RecordingHandle.new).events⟩ := by
    have hkind : (RecordingHandle.kind).create = RecordingHandle.new := rfl
    rw [Client.call, hkind, hquery, hclient]
    rfl
  have hresult : resultOf k ((Outcome.ofStore (h.query k.command).1).bind fun reply =>
      .ofStore (reply.convert k.result)) = k.answerTo (h.query k.command).1 := by
    unfold resultOf Call.answerTo
    cases (h.query k.command).1 with
    | error e => rfl
    | ok reply =>
      simp only [Outcome.ofStore, Outcome.success, Outcome.bind, Except.bind]
      cases reply.convert k.result <;> rfl
  refine ⟨h, hh, ?_, ?_, ?_⟩ <;> simp only [run, hcall]
  · rfl
  · rfl
  · rw [hresult]

/-- Replies that are queued on a handle. -/
theorem queueOn_of_eq_some {id : HandleId} {h : RecordingHandle} (hid : s.registry.handle? id = some h)
    (replies : List (Except StoreError Reply)) :
    s.queueOn id replies = { s with registry := s.registry.update id (replies.foldl (fun h r => h.push r) h) } := by
  rw [queueOn, hid]

/-- The same of a client for which a reply is queued first: the reply is on the handle that the operation goes to. -/
theorem run_queued_eq (hs : s.registry.WellFormed) (hc : c.IsRegistered s.registry) (name : String) (k : Call)
    (reply : Except StoreError Reply) {h : RecordingHandle} (hh : (s.registryWith c).handle? (s.handleOf c) = some h) :
    let u := (s.getOrCreate c.descriptor).1.queueOn (s.handleOf c) [reply]
    (u.run name c k).1.registry = (s.registryWith c).update (s.handleOf c) ((h.push reply).query k.command).2 ∧
      (u.run name c k).1.clients = (s.putClient name { c with handle := some (s.handleOf c) }).clients ∧
      (u.run name c k).2 =
        ({ c with handle := some (s.handleOf c) }, k.answerTo ((h.push reply).query k.command).1) := by
  intro u
  have hu : u = { (s.getOrCreate c.descriptor).1 with
      registry := (s.registryWith c).update (s.handleOf c) (h.push reply) } := queueOn_of_eq_some hh [reply]
  have hregistry : u.registry = (s.registryWith c).update (s.handleOf c) (h.push reply) := congrArg registry hu
  have hclients : u.clients = s.clients := (congrArg clients hu).trans rfl
  -- queuing has made the handle, and the operation finds it instead of making one
  have hprobe : u.registry.probe c.descriptor.fingerprint = some (s.handleOf c) := by
    rw [hregistry, Registry.probe_update]
    exact Registry.probe_getOrCreate_self RecordingHandle.new s.registry c.descriptor
  have hfound : u.registryWith c = u.registry ∧ u.handleOf c = s.handleOf c := by
    rw [registryWith, handleOf, Registry.getOrCreate_of_eq_some RecordingHandle.new hprobe]
    exact ⟨rfl, rfl⟩
  have hwellFormed : u.registry.WellFormed := by
    rw [hregistry]
    exact (hs.getOrCreate RecordingHandle.new c.descriptor).update _ _
  have hregistered : c.IsRegistered u.registry := by
    rw [hregistry]
    exact hc.getOrCreate c.descriptor
  obtain ⟨g, hg, hrun, hput, hanswer⟩ := run_eq hwellFormed hregistered name k
  rw [hfound.1, hfound.2, hregistry] at hg hrun
  rw [hfound.2] at hput hanswer
  obtain rfl : h.push reply = g := Option.some.inj ((Registry.handle?_update_self hh _).symm.trans hg)
  rw [Registry.update_update] at hrun
  refine ⟨hrun, ?_, hanswer⟩
  rw [hput, putClient, putClient, hclients]

/-- What the caller of an operation is answered: how the operation has ended, and the command that the handle had
last. -/
theorem command_of_run {u : Session} {k : Call} {h g : RecordingHandle} {r : Registry RecordingHandle} {id : HandleId}
    {answer : CallResult} (hid : r.handle? id = some h)
    (hregistry : (u.run name c k).1.registry = r.update id (g.query k.command).2)
    (hanswer : (u.run name c k).2 = ({ c with handle := some id }, answer)) :
    Answer.command (u.run name c k).2.2 (u.run name c k).2.1.state
        (((u.run name c k).1.boundHandle? (u.run name c k).2.1).bind (·.lastCommand?)) =
      .command answer .bound (some k.command.texts) := by
  have hsent : (g.query k.command).2.lastCommand? = some k.command.texts := by
    rw [RecordingHandle.lastCommand?, RecordingHandle.commands_query, List.getLast?_concat]
  simp only [hanswer, boundHandle?, hregistry, Option.bind_some, Registry.handle?_update_self hid, hsent]
  rfl

/-- The same of an operation for which a reply may be queued. -/
theorem command_eq (hs : s.registry.WellFormed) (hc : c.IsRegistered s.registry) (hname : s.client? name = some c)
    (k : Call) (reply : Option (Except StoreError Reply)) :
    ∃ h, (s.registryWith c).handle? (s.handleOf c) = some h ∧
      let h' := reply.toList.foldl (fun h r => h.push r) h
      (s.command name k reply).1.registry = (s.registryWith c).update (s.handleOf c) (h'.query k.command).2 ∧
      (s.command name k reply).1.clients = (s.putClient name { c with handle := some (s.handleOf c) }).clients ∧
      (s.command name k reply).2 = .command (k.answerTo (h'.query k.command).1) .bound (some k.command.texts) := by
  cases reply with
  | none =>
    obtain ⟨h, hh, hregistry, hclients, hanswer⟩ := run_eq hs hc name k
    refine ⟨h, hh, ?_⟩
    simp only [command, hname]
    exact ⟨hregistry, hclients, command_of_run hh hregistry hanswer⟩
  | some reply =>
    obtain ⟨h, hh⟩ : ∃ h, (s.registryWith c).handle? (s.handleOf c) = some h := hs.handle?_getOrCreate c.descriptor
    obtain ⟨hregistry, hclients, hanswer⟩ := run_queued_eq hs hc name k reply hh
    refine ⟨h, hh, ?_⟩
    simp only [command, hname]
    exact ⟨hregistry, hclients, command_of_run hh hregistry hanswer⟩

namespace Kept

theorem empty : ({} : Session).Kept [] where
  registry := .empty
  registered := by
    intro name c hc
    simp [client?] at hc

theorem of_registry_eq (h : s.Kept l) {s' : Session} (hregistry : s'.registry = s.registry)
    (hclients : ∀ name c, s'.client? name = some c → c.handle = none ∨ s.client? name = some c) : s'.Kept l where
  registry := hregistry ▸ h.registry
  registered := by
    intro name c hc
    rw [hregistry]
    rcases hclients name c hc with hnone | hold
    · intro id hid
      rw [hnone] at hid
      cases hid
    · exact h.registered name c hold

/-- A session that finds or creates a handle. -/
theorem getOrCreate (h : s.Kept l) (d : Descriptor) : (s.getOrCreate d).1.Kept l where
  registry := h.registry.getOrCreate d
  registered := fun name c hc => (h.registered name c hc).getOrCreate d

theorem view (h : s.Kept l) (id : HandleId) : (s.view id).1.Kept l := by
  have hview : (s.view id).1.registry = s.registry ∧ (s.view id).1.clients = s.clients := by
    unfold Session.view
    split <;> exact ⟨rfl, rfl⟩
  refine h.of_registry_eq hview.1 fun name c hc => .inr ?_
  rwa [client?, hview.2] at hc

/-- What is done with a handle that is there. -/
theorem update (h : s.Kept l) {id : HandleId} {g g' : RecordingHandle} (hid : s.registry.handle? id = some g)
    {deeds : List Deed} (ha : g'.Account (l.on id ++ deeds)) :
    ({ s with registry := s.registry.update id g' } : Session).Kept (l ++ .ofDeeds id deeds) where
  registry := h.registry.update hid ha
  registered := fun name c hc => h.registered name c hc

theorem queueOn (h : s.Kept l) {id : HandleId} {g : RecordingHandle} (hid : s.registry.handle? id = some g)
    (replies : List (Except StoreError Reply)) :
    (s.queueOn id replies).Kept (l ++ .ofDeeds id (replies.map .queued)) := by
  unfold Session.queueOn
  rw [hid]
  exact h.update hid ((h.registry.account id g hid).push replies)

/-- A client that runs operations has the handle that is registered for it. -/
theorem bound (h : s.Kept l) {s' : Session} {deeds : List Deed} {g' : RecordingHandle} {g : RecordingHandle}
    (hg : (s.registryWith c).handle? (s.handleOf c) = some g) (ha : g'.Account (l.on (s.handleOf c) ++ deeds))
    (hregistry : s'.registry = (s.registryWith c).update (s.handleOf c) g')
    (hclients : s'.clients = (s.putClient name { c with handle := some (s.handleOf c) }).clients) :
    s'.Kept (l ++ .ofDeeds (s.handleOf c) deeds) where
  registry := by
    rw [hregistry]
    exact (h.registry.getOrCreate c.descriptor).update hg ha
  registered := by
    intro other e he
    rw [client?, hclients] at he
    have hput := client?_putClient s name { c with handle := some (s.handleOf c) } other
    rw [client?, he] at hput
    rw [hregistry]
    by_cases hother : other = name
    · -- the client itself: the registry has the handle that it was bound to
      rw [if_pos hother] at hput
      cases hput
      intro id hid
      cases hid
      exact Registry.probe_getOrCreate_self RecordingHandle.new s.registry c.descriptor
    · -- another client: what it had is not taken away by a handle that is made
      rw [if_neg hother] at hput
      exact (h.registered other e hput.symm).getOrCreate c.descriptor

theorem run (h : s.Kept l) (hc : s.client? name = some c) (k : Call) :
    (s.run name c k).1.Kept (l ++ .ofDeeds (s.handleOf c) [.sent k.command]) := by
  obtain ⟨g, hg, hregistry, hclients, -⟩ := run_eq h.registry.wellFormed (h.registered name c hc) name k
  have ha := ((h.registry.getOrCreate c.descriptor).account _ g hg).query k.command
  exact h.bound hg ha hregistry hclients

theorem command (h : s.Kept l) (hc : s.client? name = some c) (k : Call) (reply : Option (Except StoreError Reply)) :
    (s.command name k reply).1.Kept
      (l ++ .ofDeeds (s.handleOf c) (reply.toList.map .queued ++ [.sent k.command])) := by
  obtain ⟨g, hg, hregistry, hclients, -⟩ := command_eq h.registry.wellFormed (h.registered name c hc) hc k reply
  have ha := (((h.registry.getOrCreate c.descriptor).account _ g hg).push reply.toList).query k.command
  rw [List.append_assoc] at ha
  exact h.bound hg ha hregistry hclients

theorem runAll (h : s.Kept l) (k : Call) (clients : List (String × Client)) :
    (s.runAll k clients).1.Kept (l ++ s.ledgerAll k clients) := by
  induction clients generalizing s l with
  | nil =>
    rw [ledgerAll, List.append_nil]
    exact h
  | cons e rest ih =>
    obtain ⟨name, c'⟩ := e
    unfold Session.runAll ledgerAll
    cases hc : s.client? name with
    | none => exact ih h
    | some c =>
      have hrest := ih (h.run hc k)
      rwa [List.append_assoc] at hrest

theorem raceAll (h : s.Kept l) (descriptors : List Descriptor) : (s.raceAll descriptors).1.Kept l := by
  induction descriptors generalizing s with
  | nil => exact h
  | cons d rest ih => exact ih ((h.getOrCreate d).view _)

/-- After a step every handle is as the ledger says to which the deeds of the step were added. -/
theorem step (h : s.Kept l) (st : Step) : (s.step st).1.Kept (l ++ s.ledger st) := by
  -- most steps do nothing with handles, and a client that is new is not bound
  have hsame : s.Kept (l ++ []) := by rwa [List.append_nil]
  have hfresh : ∀ (name : String) (c : Client), c.handle = none → (s.putClient name c).Kept (l ++ []) := by
    intro name c hc
    refine hsame.of_registry_eq rfl fun other e he => ?_
    rw [client?_putClient] at he
    split at he
    · cases he
      exact .inl hc
    · exact .inr he
  cases st with
  | newClient name arguments =>
    simp only [Session.step, ledger]
    split
    · exact hsame
    · next c hc => exact hfresh name c (Client.handle_ofArguments hc)
  | fromDescriptor name addresses mode options =>
    simp only [Session.step, ledger]
    split
    · exact hsame
    · exact hfresh name _ rfl
  | cloneFactory => exact hsame.of_registry_eq rfl fun _ _ hc => .inr hc
  | drop name =>
    simp only [Session.step, ledger]
    split
    · exact hsame
    · refine hsame.of_registry_eq rfl fun other e he => .inr ?_
      rw [client?, lookup_filter] at he
      split at he
      · cases he
      · exact he
  | command name k reply =>
    simp only [Session.step, ledger]
    cases hc : s.client? name with
    | none =>
      simp only [Session.command, hc]
      exact hsame
    | some c => exact h.command hc k reply
  | concurrent names k =>
    simp only [Session.step, ledger]
    cases s.clientsOf? names with
    | none => exact hsame
    | some clients => exact (h.runAll k clients).of_registry_eq rfl fun _ _ hc => .inr hc
  | queue t replies =>
    simp only [Session.step, ledger, onHandle]
    cases ht : s.targetHandle t with
    | error answer => exact hsame
    | ok p => exact h.queueOn (handle?_of_targetHandle ht) replies
  | raw t c =>
    simp only [Session.step, ledger, onHandle]
    cases ht : s.targetHandle t with
    | error answer => exact hsame
    | ok p =>
      have hid := handle?_of_targetHandle ht
      exact h.update hid ((h.registry.account p.1 p.2 hid).query c)
  | commands t =>
    simp only [Session.step, ledger, onHandle]
    split <;> exact hsame
  | client name =>
    simp only [Session.step, ledger]
    split
    · exact hsame
    · split
      · exact hsame
      · exact hsame.view _
  | getOrCreate argument =>
    simp only [Session.step, ledger, onDescriptor]
    split
    · exact hsame
    · exact (hsame.getOrCreate _).view _
  | get argument =>
    simp only [Session.step, ledger, onDescriptor]
    split
    · exact hsame
    · split
      · exact hsame
      · exact hsame.view _
  | race arguments =>
    simp only [Session.step, ledger]
    split
    · exact hsame
    · exact (hsame.raceAll _).of_registry_eq rfl fun _ _ hc => .inr hc
  | stats => exact hsame
  | debug name =>
    simp only [Session.step, ledger]
    split <;> exact hsame
  | events => exact hsame.of_registry_eq rfl fun _ _ hc => .inr hc

theorem runSteps (h : s.Kept l) (steps : List Step) : (s.runSteps steps).1.Kept (l ++ s.history steps) := by
  induction steps generalizing s l with
  | nil =>
    rw [history, List.append_nil]
    exact h
  | cons st rest ih =>
    have hrest := ih (h.step st)
    rwa [List.append_assoc] at hrest

end Kept

theorem runSteps_concat (s : Session) (steps : List Step) (st : Step) :
    (s.runSteps (steps ++ [st])).1 = ((s.runSteps steps).1.step st).1 := by
  induction steps generalizing s with
  | nil => rfl
  | cons first rest ih => exact ih _

/-- The deeds of a last step are entered last. -/
theorem history_concat (s : Session) (steps : List Step) (st : Step) :
    s.history (steps ++ [st]) = s.history steps ++ (s.runSteps steps).1.ledger st := by
  induction steps generalizing s with
  | nil => simp [history, Session.runSteps]
  | cons first rest ih =>
    rw [List.cons_append, history, ih, history, List.append_assoc]
    rfl

/-! ## Answers -/

/-- What an operation of a client does: it gets the oldest reply that is left on the handle that is registered for the
client, and the client is bound to this handle, as it was if it was bound before. Whatever the reply, no other client and
no other handle changes, and the registry has no other entry than the client's. -/
structure Operates (s : Session) (l : Ledger) (name : String) (c : Client) (k : Call)
    (reply : Option (Except StoreError Reply)) : Prop where
  answer : (s.step (.command name k reply)).2 =
    .command (k.answerTo (Deed.next (l.on (s.handleOf c) ++ reply.toList.map .queued))) .bound (some k.command.texts)
  client : (s.step (.command name k reply)).1.client? name = some { c with handle := some (s.handleOf c) }
  bound : ∀ id, c.handle = some id → id = s.handleOf c
  others : ∀ other, other ≠ name → (s.step (.command name k reply)).1.client? other = s.client? other
  entries : (s.step (.command name k reply)).1.registry.entries = (s.registryWith c).entries
  registered : s.registry.contains c.fingerprint = true →
    (s.step (.command name k reply)).1.registry.entries = s.registry.entries
  handles : ∀ other, other ≠ s.handleOf c →
    (s.step (.command name k reply)).1.registry.handle? other = s.registry.handle? other

/-- What a command that is sent straight to a handle does: it gets the oldest reply that is left there, as it is, and no
client, no entry and no other handle changes. -/
structure Sends (s : Session) (l : Ledger) (t : Target) (id : HandleId) (h : RecordingHandle) (command : Command) :
    Prop where
  answer : (s.step (.raw t command)).2 =
    .raw ((Deed.next (l.on id)).mapError .store) (some command.texts) (h.queries + 1)
  clients : (s.step (.raw t command)).1.clients = s.clients
  entries : (s.step (.raw t command)).1.registry.entries = s.registry.entries
  handles : ∀ other, other ≠ id → (s.step (.raw t command)).1.registry.handle? other = s.registry.handle? other

theorem Kept.operates (h : s.Kept l) (hc : s.client? name = some c) (k : Call)
    (reply : Option (Except StoreError Reply)) : s.Operates l name c k reply := by
  have hregistered := h.registered name c hc
  obtain ⟨g, hg, hregistry, hclients, hanswer⟩ := command_eq h.registry.wellFormed hregistered hc k reply
  have ha := ((h.registry.getOrCreate c.descriptor).account _ g hg).push reply.toList
  have hput : ∀ other, (s.step (.command name k reply)).1.client? other =
      if other = name then some { c with handle := some (s.handleOf c) } else s.client? other := by
    intro other
    rw [← client?_putClient, client?, client?, ← hclients]
    rfl
  have hentries : (s.step (.command name k reply)).1.registry.entries = (s.registryWith c).entries := by
    change (s.command name k reply).1.registry.entries = _
    rw [hregistry]
    rfl
  refine ⟨?_, ?_, ?_, ?_, hentries, ?_, ?_⟩
  · rw [← ha.reply_query k.command]
    exact hanswer
  · rw [hput, if_pos rfl]
  · intro id hid
    rw [handleOf, Registry.getOrCreate_of_eq_some RecordingHandle.new (hregistered id hid)]
  · intro other hother
    rw [hput, if_neg hother]
  · intro hcontains
    obtain ⟨id, hid⟩ := Option.isSome_iff_exists.1 hcontains
    rw [hentries, registryWith, Registry.getOrCreate_of_eq_some RecordingHandle.new hid]
  · intro other hother
    change (s.command name k reply).1.registry.handle? other = _
    rw [hregistry, Registry.handle?_update_of_ne hother]
    exact Registry.handle?_getOrCreate_of_ne hother

theorem Kept.sends (h : s.Kept l) {t : Target} {id : HandleId} {g : RecordingHandle}
    (ht : s.targetHandle t = .ok (id, g)) (command : Command) : s.Sends l t id g command := by
  have ha := h.registry.account id g (handle?_of_targetHandle ht)
  have hstep : s.step (.raw t command) = s.sendRaw id g command := by simp only [Session.step, onHandle, ht]
  refine ⟨?_, ?_, ?_, ?_⟩
  · rw [hstep, sendRaw, ← ha.reply_query command]
    simp only [RecordingHandle.queries_query, RecordingHandle.lastCommand?, RecordingHandle.commands_query,
      List.getLast?_concat]
  · rw [hstep]
    rfl
  · rw [hstep]
    rfl
  · intro other hother
    rw [hstep]
    exact Registry.handle?_update_of_ne hother _

/-- An operation fails by a failure in the place of a reply and by a reply that its result cannot be made from, and by
nothing else. -/
theorem answerTo_eq_error_iff (k : Call) (reply : Except StoreError Reply) (f : OperationError) :
    (k.answerTo reply).result = .error f ↔
      (∃ e, reply = .error e ∧ f = .store e) ∨ ∃ r e, reply = .ok r ∧ r.convert k.result = .error e ∧ f = .store e := by
  cases reply with
  | error e =>
    have hresult : (k.answerTo (.error e)).result = .error (.store e) := rfl
    simp only [hresult, Except.error.injEq, eq_comm, exists_eq_left', reduceCtorEq, false_and, exists_false, or_false]
  | ok r =>
    have hresult : (k.answerTo (.ok r)).result = (r.convert k.result).mapError .store := rfl
    rw [hresult]
    constructor
    · intro h
      cases hr : r.convert k.result with
      | error e =>
        rw [hr] at h
        cases h
        exact .inr ⟨r, e, rfl, hr, rfl⟩
      | ok v =>
        rw [hr] at h
        cases h
    · rintro (⟨_, ⟨⟩, _⟩ | ⟨_, e, ⟨⟩, he, rfl⟩)
      rw [he]
      rfl

/-- An error among the values that the store answers is no result but of operations without one and of those whose result
is the reply. -/
theorem convert_error_iff (e : ServerError) (t : ResultType) :
    (∃ f, (Reply.error e).convert t = .error f) ↔ t ≠ .unit ∧ t ≠ .raw := by
  constructor
  · rintro ⟨f, hf⟩
    constructor
    · rintro rfl
      cases hf
    · rintro rfl
      cases hf
  · rintro ⟨hunit, hraw⟩
    cases t with
    | unit => exact absurd rfl hunit
    | raw => exact absurd rfl hraw
    | _ => exact ⟨_, rfl⟩

/-- After any steps a handle has had the commands that were sent to it, each once and in their order, has counted them,
and has the replies left that no command took. An operation of a client and a command that is sent straight to a handle
get the oldest reply that is left, and OK if there is none. An operation fails exactly by a failure in the place of a
reply and by a reply that its result cannot be made from; of an error among the values that the store answers every
result but none and the reply itself cannot be made. Failed or not, the client is bound to the same handle, the registry
has its entries, and all other clients and handles are as they were. -/
theorem accounts_hold (steps : List Step) :
    (∀ id h, (runSteps {} steps).1.registry.handle? id = some h → h.Account ((history {} steps).on id)) ∧
    (∀ name c k reply, (runSteps {} steps).1.client? name = some c →
      (runSteps {} steps).1.Operates (history {} steps) name c k reply) ∧
    (∀ t id h command, (runSteps {} steps).1.targetHandle t = .ok (id, h) →
      (runSteps {} steps).1.Sends (history {} steps) t id h command) ∧
    (∀ (k : Call) (reply : Except StoreError Reply) (f : OperationError), (k.answerTo reply).result = .error f ↔
      (∃ e, reply = .error e ∧ f = .store e) ∨ ∃ r e, reply = .ok r ∧ r.convert k.result = .error e ∧ f = .store e) ∧
    ∀ (e : ServerError) (t : ResultType), (∃ f, (Reply.error e).convert t = .error f) ↔ t ≠ .unit ∧ t ≠ .raw := by
  have hkept : (runSteps {} steps).1.Kept (history {} steps) := by
    have h := Kept.empty.runSteps steps
    rwa [List.nil_append] at h
  exact ⟨hkept.registry.account, fun _ _ k reply hc => hkept.operates hc k reply,
    fun _ _ _ command ht => hkept.sends ht command, answerTo_eq_error_iff, convert_error_iff⟩

/-- A descriptor of one node. -/
def oneNode : Descriptor := ⟨["localhost:6379"], .single, {}, by decide, by decide +kernel, by simp⟩

/-- A client that was made for this node. -/
def oneClient : List Step := [.newClient "c" [.object [("addresses", .array [.string "localhost:6379"])]]]

/-- The client's first command, whose reply is a failure. -/
def failedOnce : List Step := oneClient ++ [.command "c" .ping (some (.error (.connection "reset")))]

theorem client?_oneClient : (runSteps {} oneClient).1.client? "c" = some { descriptor := oneNode } := by decide +kernel

theorem history_oneClient : history {} oneClient = [] := by simp only [oneClient, history, ledger, List.append_nil]

/-- The client's first command fails and binds the client; the next one gets OK from the same handle. -/
theorem failure_leaves_client_bound :
    ((runSteps {} oneClient).1.step (.command "c" .ping (some (.error (.connection "reset"))))).2 =
      .command ⟨.text, .error (.store (.connection "reset"))⟩ .bound (some Call.ping.command.texts) ∧
    ((runSteps {} failedOnce).1.step (.command "c" .ping none)).2 =
      .command ⟨.text, (.ok "OK" : Except OperationError String)⟩ .bound (some Call.ping.command.texts) := by
  have hhandle : (runSteps {} oneClient).1.handleOf { descriptor := oneNode } = 0 := by decide +kernel
  have hfirst := (accounts_hold oneClient).2.1 "c" { descriptor := oneNode } .ping (some (.error (.connection "reset")))
    client?_oneClient
  have hbound : (runSteps {} failedOnce).1.client? "c" = some { descriptor := oneNode, handle := some 0 } := by
    rw [failedOnce, runSteps_concat, hfirst.client, hhandle]
  have hdeeds : (history {} failedOnce).on 0 = [.queued (.error (.connection "reset")), .sent Call.ping.command] := by
    rw [failedOnce, history_concat, history_oneClient]
    simp only [ledger, client?_oneClient, hhandle]
    exact Ledger.on_ofDeeds_self 0 _
  -- the failure was taken by the first command, so the second gets OK
  have hnext := (accounts_hold failedOnce).2.1 "c" { descriptor := oneNode, handle := some 0 } .ping none hbound
  constructor
  · rw [hfirst.answer, history_oneClient]
    rfl
  · rw [hnext.answer, ← hnext.bound 0 rfl, hdeeds]
    rfl

/-- An error that the store answers is as good a reply as any where there is no result to make of it. -/
theorem set_takes_server_error :
    ((runSteps {} oneClient).1.step
      (.command "c" (.set "k" (.text "v") none) (some (.ok (.error ⟨"ERR", some "something bad"⟩))))).2 =
      .command ⟨.unit, .ok ()⟩ .bound (some (Call.set "k" (.text "v") none).command.texts) := by
  have hkept : (runSteps {} oneClient).1.Kept ([] ++ history {} oneClient) := Kept.empty.runSteps oneClient
  rw [history_oneClient] at hkept
  rw [(hkept.operates client?_oneClient _ _).answer]
  rfl

end Session

end Tether
