import Tether.Proofs.Client.Call
import Tether.Proofs.Descriptor.Passwords
import Tether.Session

namespace Tether

/-! # Sessions but for the passwords in them

A session with all its passwords masked goes on as the session itself, masked: no operation reads a password. So two
sessions that are the same once masked stay so (`Session.run_masked`, `Session.getOrCreate_masked`).
-/

/-- The client with the passwords of its descriptor masked. -/
def Client.masked (c : Client) : Client := { c with descriptor := c.descriptor.masked }

/-- The handle with the passwords of its descriptor masked. -/
def RecordingHandle.masked (h : RecordingHandle) : RecordingHandle := { h with descriptor := h.descriptor.masked }

/-- The registry with the passwords of all handles masked. -/
def Registry.masked (r : Registry RecordingHandle) : Registry RecordingHandle :=
  { r with handles := r.handles.map RecordingHandle.masked }

/-- The session with all passwords masked. -/
def Session.masked (s : Session) : Session :=
  { s with registry := s.registry.masked, clients := s.clients.map fun e => (e.1, e.2.masked) }

namespace Registry

variable (r : Registry RecordingHandle)

@[simp] theorem probe_masked (f : Fingerprint) : r.masked.probe f = r.probe f := rfl

@[simp] theorem debugText_masked : r.masked.debugText = r.debugText := rfl

@[simp] theorem factoryDebugText_masked : r.masked.factoryDebugText = r.factoryDebugText := rfl

@[simp] theorem handle?_masked (id : HandleId) : r.masked.handle? id = (r.handle? id).map RecordingHandle.masked :=
  List.getElem?_map

theorem update_masked (id : HandleId) (h : RecordingHandle) :
    r.masked.update id h.masked = (r.update id h).masked := by
  simp [masked, update, List.map_set]

theorem getOrCreate_masked (d : Descriptor) :
    r.masked.getOrCreate RecordingHandle.new d.masked =
      ⟨(r.getOrCreate RecordingHandle.new d).registry.masked, (r.getOrCreate RecordingHandle.new d).handle,
        (r.getOrCreate RecordingHandle.new d).events⟩ := by
  cases h : r.probe d.fingerprint with
  | some id => simp [getOrCreate, h]
  | none =>
    -- the probe compares fingerprints, which are the same before and after masking
    have hm : r.masked.probe d.masked.fingerprint = none := h
    simp only [getOrCreate, h, hm, enter_of_eq_none _ h, enter_of_eq_none _ hm]
    simp [insert, masked, created, RecordingHandle.new, RecordingHandle.masked]

end Registry

namespace RecordingHandle

theorem query_masked (c : Command) (h : RecordingHandle) : h.masked.query c = ((h.query c).1, (h.query c).2.masked) := by
  cases hr : h.replies <;> simp [query, pop, record, count, masked, hr]

theorem pushAll_masked (replies : List (Except StoreError Reply)) (h : RecordingHandle) :
    replies.foldl (fun h r => h.push r) h.masked = (replies.foldl (fun h r => h.push r) h).masked := by
  induction replies generalizing h with
  | nil => rfl
  | cons reply rest ih => exact ih (h.push reply)

end RecordingHandle

namespace Client

variable (c : Client) (r : Registry RecordingHandle)

@[simp] theorem debugText_masked : c.masked.debugText = c.debugText := by
  have hstate : c.masked.state = c.state := rfl
  have hdescriptor : c.masked.descriptor = c.descriptor.masked := rfl
  rw [debugText, debugText, hstate, hdescriptor, Descriptor.debugText_masked]

theorem bind_masked :
    c.masked.bind r.masked RecordingHandle.new =
      ⟨(c.bind r RecordingHandle.new).client.masked, (c.bind r RecordingHandle.new).registry.masked,
        (c.bind r RecordingHandle.new).handle, (c.bind r RecordingHandle.new).events⟩ := by
  cases h : c.handle with
  | some id =>
    have hm : c.masked.handle = some id := h
    rw [bind_of_eq_some h, bind_of_eq_some hm]
  | none =>
    have hm : c.masked.handle = none := h
    have hget := r.getOrCreate_masked c.descriptor
    rw [bind_of_eq_none h, bind_of_eq_none hm]
    simp only [show c.masked.descriptor = c.descriptor.masked from rfl, hget]
    rfl

theorem queryHandle_masked (id : HandleId) (command : Command) :
    queryHandle RecordingHandle.kind id command r.masked () =
      ((queryHandle RecordingHandle.kind id command r ()).1,
        (queryHandle RecordingHandle.kind id command r ()).2.1.masked, ()) := by
  unfold queryHandle
  rw [r.handle?_masked]
  cases r.handle? id with
  | none => rfl
  | some h => simp [RecordingHandle.kind, RecordingHandle.query_masked, Registry.update_masked]

theorem call_masked (k : Call) :
    c.masked.call RecordingHandle.kind r.masked () k =
      ⟨(c.call RecordingHandle.kind r () k).outcome, (c.call RecordingHandle.kind r () k).client.masked,
        (c.call RecordingHandle.kind r () k).registry.masked, (), (c.call RecordingHandle.kind r () k).events⟩ := by
  have hbind := c.bind_masked r
  have hkind : (RecordingHandle.kind).create = RecordingHandle.new := rfl
  simp only [call, hkind, hbind, queryHandle_masked]

end Client

namespace Session

variable (s : Session)

@[simp] theorem registry_masked : s.masked.registry = s.registry.masked := rfl

@[simp] theorem events_masked : s.masked.events = s.events := rfl

@[simp] theorem client?_masked (name : String) : s.masked.client? name = (s.client? name).map Client.masked := by
  unfold client? masked
  induction s.clients with
  | nil => rfl
  | cons e rest ih =>
    obtain ⟨other, c⟩ := e
    cases h : name == other with
    | true => simp [List.lookup_cons, h]
    | false => simpa [List.lookup_cons, h] using ih

theorem filter_masked (clients : List (String × Client)) (name : String) :
    (clients.map fun e => (e.1, e.2.masked)).filter (·.1 ≠ name) =
      (clients.filter (·.1 ≠ name)).map fun e => (e.1, e.2.masked) := by
  rw [List.filter_map]
  rfl

theorem putClient_masked (name : String) (c : Client) :
    s.masked.putClient name c.masked = (s.putClient name c).masked := by
  simp only [putClient, masked, filter_masked, List.map_append, List.map_cons, List.map_nil]

theorem view_masked (id : HandleId) : s.masked.view id = ((s.view id).1.masked, (s.view id).2) := by
  unfold view
  rw [registry_masked, Registry.handle?_masked]
  cases s.registry.handle? id with
  | none => rfl
  | some h => rfl

theorem getOrCreate_masked (d : Descriptor) :
    s.masked.getOrCreate d.masked = ((s.getOrCreate d).1.masked, (s.getOrCreate d).2) := by
  simp [getOrCreate, Registry.getOrCreate_masked, tell, masked]

theorem queueOn_masked (id : HandleId) (replies : List (Except StoreError Reply)) :
    s.masked.queueOn id replies = (s.queueOn id replies).masked := by
  unfold queueOn
  rw [registry_masked, Registry.handle?_masked]
  cases s.registry.handle? id with
  | none => rfl
  | some h => simp [masked, Registry.update_masked, RecordingHandle.pushAll_masked]

theorem run_masked (name : String) (c : Client) (k : Call) :
    s.masked.run name c.masked k = ((s.run name c k).1.masked, (s.run name c k).2.1.masked, (s.run name c k).2.2) := by
  simp only [run, registry_masked, Client.call_masked, ← putClient_masked]
  rfl

theorem runAll_masked (k : Call) (clients : List (String × Client)) :
    s.masked.runAll k (clients.map fun e => (e.1, e.2.masked)) =
      ((s.runAll k clients).1.masked, (s.runAll k clients).2) := by
  induction clients generalizing s with
  | nil => rfl
  | cons e rest ih =>
    unfold runAll
    simp only [List.map_cons, client?_masked]
    cases s.client? e.1 with
    | none => exact ih s
    | some c => simp only [Option.map_some, run_masked, ih]

theorem clientsOf?_masked (names : List String) :
    s.masked.clientsOf? names = (s.clientsOf? names).map (·.map fun e => (e.1, e.2.masked)) := by
  induction names with
  | nil => rfl
  | cons name rest ih =>
    unfold clientsOf? at ih ⊢
    rw [List.mapM_cons, List.mapM_cons, ih, client?_masked]
    cases s.client? name with
    | none => rfl
    | some c => cases rest.mapM fun name => (s.client? name).map (name, ·) <;> rfl

/-- The command that a client sent last does not depend on passwords. -/
theorem lastCommand?_masked (c : Client) :
    (s.masked.boundHandle? c.masked).bind (·.lastCommand?) = (s.boundHandle? c).bind (·.lastCommand?) := by
  have hhandle : c.masked.handle = c.handle := rfl
  rw [boundHandle?, boundHandle?, hhandle]
  cases c.handle with
  | none => rfl
  | some id =>
    simp only [Option.bind_some, registry_masked, Registry.handle?_masked]
    cases s.registry.handle? id <;> rfl

/-- An operation does not see passwords, and neither does its answer. -/
theorem command_masked (name : String) (k : Call) (reply : Option (Except StoreError Reply)) :
    s.masked.command name k reply = ((s.command name k reply).1.masked, (s.command name k reply).2) := by
  unfold command
  rw [client?_masked]
  cases s.client? name with
  | none => rfl
  | some c =>
    have hdescriptor : c.masked.descriptor = c.descriptor.masked := rfl
    cases reply with
    | none =>
      simp only [Option.map_some, run_masked, lastCommand?_masked]
      rfl
    | some reply =>
      simp only [Option.map_some, hdescriptor, getOrCreate_masked, queueOn_masked, run_masked, lastCommand?_masked]
      rfl

theorem raceAll_masked (descriptors : List Descriptor) :
    s.masked.raceAll (descriptors.map Descriptor.masked) =
      ((s.raceAll descriptors).1.masked, (s.raceAll descriptors).2) := by
  induction descriptors generalizing s with
  | nil => rfl
  | cons d rest ih => simp only [raceAll, List.map_cons, getOrCreate_masked, view_masked, ih]

end Session

end Tether
