import Mathlib.Data.List.Forall2
import Tether.Proofs.Descriptor.Refusals
import Tether.Proofs.Session.Lookups
import Tether.Proofs.Session.Masked

namespace Tether

/-! # What a session tells of passwords

Two users run the same steps on sessions of their own, only that the descriptors of the one have other texts for the
passwords that are in the descriptors of the other. Then the two see the same in all diagnostics. We show:

* `Session.step_alike`: one step of each keeps the two sessions the same but for passwords, and tells the same events;
* `Session.diagnostics_hide_passwords`: so the two have the same diagnostics after every step, and have been told the
  same.
-/

/-- Two arguments that describe the same but for the texts of passwords, or that both describe nothing. -/
inductive ArgumentTwins : Json → Json → Prop where
  | described {a b : Json} {d : Descriptor} (p q : String) (ha : Descriptor.ofJson a = .ok d)
      (hb : Descriptor.ofJson b = .ok (d.withPasswords p q)) : ArgumentTwins a b
  | refused {a b : Json} {e f : DescriptorError} (ha : Descriptor.ofJson a = .error e)
      (hb : Descriptor.ofJson b = .error f) : ArgumentTwins a b

/-- Two targets that are the same but for the texts of passwords. -/
inductive Target.Twins : Target → Target → Prop where
  | client (name : String) : Twins (.client name) (.client name)
  | value {a b : Json} (h : ArgumentTwins a b) : Twins (.value a) (.value b)

/-- Two steps that are the same but for the texts of passwords. -/
inductive Step.Twins : Step → Step → Prop where
  | newClient (name : String) {arguments arguments' : List Json} (h : List.Forall₂ ArgumentTwins arguments arguments') :
      Twins (.newClient name arguments) (.newClient name arguments')
  | fromDescriptor (name : String) (addresses : List String) (mode : Mode) (options : ConnectionOptions) (p q : String) :
      Twins (.fromDescriptor name addresses mode options)
        (.fromDescriptor name addresses mode (options.withPasswords p q))
  | cloneFactory : Twins .cloneFactory .cloneFactory
  | drop (name : String) : Twins (.drop name) (.drop name)
  | command (name : String) (call : Call) (reply : Option (Except StoreError Reply)) :
      Twins (.command name call reply) (.command name call reply)
  | concurrent (names : List String) (call : Call) : Twins (.concurrent names call) (.concurrent names call)
  | queue {t t' : Target} (h : t.Twins t') (replies : List (Except StoreError Reply)) :
      Twins (.queue t replies) (.queue t' replies)
  | raw {t t' : Target} (h : t.Twins t') (command : Command) : Twins (.raw t command) (.raw t' command)
  | commands {t t' : Target} (h : t.Twins t') : Twins (.commands t) (.commands t')
  | client (name : String) : Twins (.client name) (.client name)
  | getOrCreate {a b : Json} (h : ArgumentTwins a b) : Twins (.getOrCreate a) (.getOrCreate b)
  | get {a b : Json} (h : ArgumentTwins a b) : Twins (.get a) (.get b)
  | race {arguments arguments' : List Json} (h : List.Forall₂ ArgumentTwins arguments arguments') :
      Twins (.race arguments) (.race arguments')
  | stats : Twins .stats .stats
  | debug (name : String) : Twins (.debug name) (.debug name)
  | events : Twins .events .events

/-! ## Arguments -/

theorem ArgumentTwins.of_answeredAlike {a b : Json}
    (h : Descriptor.AnsweredAlike (Descriptor.ofJson a) (Descriptor.ofJson b)) : ArgumentTwins a b := by
  cases ha : Descriptor.ofJson a with
  | error e =>
    cases hb : Descriptor.ofJson b with
    | error f => exact .refused ha hb
    | ok e => rw [ha, hb] at h; exact h.elim
  | ok d =>
    cases hb : Descriptor.ofJson b with
    | error f => rw [ha, hb] at h; exact h.elim
    | ok e =>
      rw [ha, hb] at h
      obtain ⟨p, q, rfl⟩ := Descriptor.masked_eq_iff.1 h
      exact .described p q ha hb

/-- Objects of options are twins if they differ in the texts of passwords at most. -/
theorem argumentTwins_object {members members' : List (String × Json)}
    (h : List.Forall₂ ConnectionSpec.MemberTwins members members') :
    ArgumentTwins (.object members) (.object members') :=
  .of_answeredAlike (Descriptor.answeredAlike_object h)

/-- URLs are twins if they differ in a plain password at most. -/
theorem argumentTwins_url {before after p q : String}
    (h : Url.PasswordPlace (Url.cleanStart before.toList) (Url.cleanEnd after.toList)) (hp : Url.IsPlain p.toList)
    (hq : Url.IsPlain q.toList) : ArgumentTwins (.string (before ++ p ++ after)) (.string (before ++ q ++ after)) := by
  by_cases hsocket : Url.NamesSocket (before ++ p ++ after)
  · exact .refused (Descriptor.ofUrl_of_namesSocket hsocket)
      (Descriptor.ofUrl_of_namesSocket (Url.namesSocket_alike h hp hq hsocket))
  · exact .of_answeredAlike (Descriptor.answeredAlike_of_not_namesSocket h hp hq hsocket)

/-- Two lists of arguments describe the same clients with the passwords masked, or both none. -/
theorem masked_ofArguments {arguments arguments' : List Json} (h : List.Forall₂ ArgumentTwins arguments arguments') :
    (Client.ofArguments arguments).toOption.map Client.masked =
      (Client.ofArguments arguments').toOption.map Client.masked := by
  cases h with
  | nil => rfl
  | cons hab hrest =>
    cases hrest with
    | nil =>
      cases hab with
      | described p q ha hb =>
        simp [Client.ofArguments, ha, hb, Except.toOption, Client.masked]
      | refused ha hb => simp [Client.ofArguments, ha, hb, Except.toOption]
    | cons _ _ => rfl

/-- Descriptors of several arguments are the same with the passwords masked, or there are none on either side. -/
theorem masked_mapM_ofJson {arguments arguments' : List Json} (h : List.Forall₂ ArgumentTwins arguments arguments') :
    (arguments.mapM Descriptor.ofJson).toOption.map (·.map Descriptor.masked) =
      (arguments'.mapM Descriptor.ofJson).toOption.map (·.map Descriptor.masked) := by
  induction h with
  | nil => rfl
  | @cons a b rest rest' hab _ ih =>
    rw [List.mapM_cons, List.mapM_cons]
    cases hab with
    | refused ha hb =>
      rw [ha, hb]
      rfl
    | described p q ha hb =>
      rw [ha, hb]
      revert ih
      cases rest.mapM Descriptor.ofJson <;> cases rest'.mapM Descriptor.ofJson <;>
        simp [Except.toOption, bind, Except.bind, pure, Except.pure]

/-- Of two results that look the same both are there, and look the same, or neither is. -/
theorem errors_or_alike {ε α β : Type} {x y : Except ε α} {f : α → β} (h : x.toOption.map f = y.toOption.map f) :
    (∃ e e', x = .error e ∧ y = .error e') ∨ ∃ a b, x = .ok a ∧ y = .ok b ∧ f a = f b := by
  cases x with
  | error e =>
    cases y with
    | error e' => exact .inl ⟨e, e', rfl, rfl⟩
    | ok b => cases h
  | ok a =>
    cases y with
    | error e' => cases h
    | ok b => exact .inr ⟨a, b, rfl, rfl, Option.some.inj h⟩

namespace Session

variable {s t : Session}

/-- What was told and not yet given away or dropped when a step ends. -/
def toldBy (s : Session) : Step → List Event
  | .concurrent names k => ((s.clientsOf? names).map fun clients => (s.runAll k clients).1.events).getD s.events
  | .race arguments =>
    ((arguments.mapM Descriptor.ofJson).toOption.map fun descriptors => (s.raceAll descriptors).1.events).getD s.events
  | .events => s.events
  | step => (s.step step).1.events

theorem onDescriptor_alike (h : s.masked = t.masked) {a b : Json} (hab : ArgumentTwins a b)
    {f g : Descriptor → Session × Answer}
    (hfg : ∀ d p q, (f d).1.masked = (g (d.withPasswords p q)).1.masked) :
    (s.onDescriptor a f).1.masked = (t.onDescriptor b g).1.masked := by
  cases hab with
  | refused ha hb => simpa [onDescriptor, ha, hb] using h
  | described p q ha hb => simpa [onDescriptor, ha, hb] using hfg _ p q

theorem client?_alike (h : s.masked = t.masked) (name : String) :
    (s.client? name).map Client.masked = (t.client? name).map Client.masked := by
  rw [← client?_masked, h, client?_masked]

theorem handle?_alike (h : s.masked = t.masked) (id : HandleId) :
    (s.registry.handle? id).map RecordingHandle.masked = (t.registry.handle? id).map RecordingHandle.masked := by
  rw [← Registry.handle?_masked, ← registry_masked, h, registry_masked, Registry.handle?_masked]

theorem probe_alike (h : s.masked = t.masked) (f : Fingerprint) : s.registry.probe f = t.registry.probe f := by
  rw [← Registry.probe_masked, ← registry_masked, h, registry_masked, Registry.probe_masked]

theorem events_alike (h : s.masked = t.masked) : s.events = t.events := by
  rw [← events_masked, h, events_masked]

theorem targetFingerprint_alike (h : s.masked = t.masked) {target target' : Target} (ht : target.Twins target') :
    (s.targetFingerprint target).toOption = (t.targetFingerprint target').toOption := by
  cases ht with
  | client name =>
    have hc := congrArg (Option.map Client.fingerprint) (client?_alike h name)
    have hf : ∀ u : Session, (u.targetFingerprint (.client name)).toOption =
        ((u.client? name).map Client.masked).map Client.fingerprint := by
      intro u
      simp only [targetFingerprint]
      cases u.client? name <;> rfl
    rw [hf, hf, hc]
  | value hab =>
    cases hab with
    | refused ha hb => simp [targetFingerprint, ha, hb, Except.toOption]
    | described p q ha hb =>
      simp only [targetFingerprint, ha, hb]
      rfl

/-- A target leads to the same handle on both sides, the passwords in it apart, or to none. -/
theorem targetHandle_alike (h : s.masked = t.masked) {target target' : Target} (ht : target.Twins target') :
    (s.targetHandle target).toOption.map (fun p => (p.1, p.2.masked)) =
      (t.targetHandle target').toOption.map fun p => (p.1, p.2.masked) := by
  rw [toOption_targetHandle, toOption_targetHandle, targetFingerprint_alike h ht]
  cases (t.targetFingerprint target').toOption with
  | none => rfl
  | some f =>
    simp only [Option.bind_some, probe_alike h f]
    cases t.registry.probe f with
    | none => rfl
    | some id =>
      have hid := congrArg (Option.map (id, ·)) (handle?_alike h id)
      simpa [Function.comp_def] using hid

theorem onHandle_alike (h : s.masked = t.masked) {target target' : Target} (ht : target.Twins target')
    {f g : HandleId → RecordingHandle → Session × Answer}
    (hfg : ∀ id a b, a.masked = b.masked → (f id a).1.masked = (g id b).1.masked) :
    (s.onHandle target f).1.masked = (t.onHandle target' g).1.masked := by
  obtain ⟨_, _, hs, ht⟩ | ⟨⟨id, a⟩, ⟨id', b⟩, hs, ht, hab⟩ := errors_or_alike (targetHandle_alike h ht)
  · simpa only [onHandle, hs, ht] using h
  · obtain ⟨rfl, hab⟩ := Prod.mk.inj hab
    simpa only [onHandle, hs, ht] using hfg id a b hab

/-- What goes on with a session as with the masked one keeps two sessions alike. -/
theorem alike_of_masked (h : s.masked = t.masked) {f : Session → Session} (hf : ∀ u, f u.masked = (f u).masked) :
    (f s).masked = (f t).masked := by
  rw [← hf, h, hf]

theorem runAll_alike (h : s.masked = t.masked) (k : Call) {clients clients' : List (String × Client)}
    (hc : clients.map (fun e => (e.1, e.2.masked)) = clients'.map fun e => (e.1, e.2.masked)) :
    (s.runAll k clients).1.masked = (t.runAll k clients').1.masked := by
  have hs : (s.masked.runAll k (clients.map fun e => (e.1, e.2.masked))).1 = (s.runAll k clients).1.masked :=
    congrArg Prod.fst (s.runAll_masked k clients)
  have ht : (t.masked.runAll k (clients'.map fun e => (e.1, e.2.masked))).1 = (t.runAll k clients').1.masked :=
    congrArg Prod.fst (t.runAll_masked k clients')
  rw [← hs, ← ht, h, hc]

theorem raceAll_alike (h : s.masked = t.masked) {descriptors descriptors' : List Descriptor}
    (hd : descriptors.map Descriptor.masked = descriptors'.map Descriptor.masked) :
    (s.raceAll descriptors).1.masked = (t.raceAll descriptors').1.masked := by
  have hs : (s.masked.raceAll (descriptors.map Descriptor.masked)).1 = (s.raceAll descriptors).1.masked :=
    congrArg Prod.fst (s.raceAll_masked descriptors)
  have ht : (t.masked.raceAll (descriptors'.map Descriptor.masked)).1 = (t.raceAll descriptors').1.masked :=
    congrArg Prod.fst (t.raceAll_masked descriptors')
  rw [← hs, ← ht, h, hd]

/-- One step of each keeps two sessions the same but for the texts of passwords. -/
theorem step_alike (h : s.masked = t.masked) {st st' : Step} (hst : st.Twins st') :
    (s.step st).1.masked = (t.step st').1.masked := by
  cases hst with
  | newClient name hargs =>
    obtain ⟨_, _, ha, hb⟩ | ⟨c, d, ha, hb, hcd⟩ := errors_or_alike (masked_ofArguments hargs)
    · simpa only [step, ha, hb] using h
    · simp only [step, ha, hb, addClient, ← putClient_masked, h, hcd]
  | fromDescriptor name addresses mode options p q =>
    simp only [step, Descriptor.new_withPasswords]
    cases Descriptor.new addresses mode options with
    | error e => exact h
    | ok d =>
      simp only [Except.map, addClient, ← putClient_masked, h]
      exact congrArg _ (congrArg (Client.mk · none) (d.masked_withPasswords p q).symm)
  | cloneFactory => exact congrArg (fun u : Session => { u with factories := u.factories + 1 }) h
  | drop name =>
    refine alike_of_masked h (f := fun u => (u.step (.drop name)).1) fun u => ?_
    simp only [step, client?_masked]
    cases u.client? name with
    | none => rfl
    | some c => simp only [Option.map_some, masked, filter_masked]
  | command name call reply =>
    exact alike_of_masked h (f := fun u => (u.step (.command name call reply)).1) fun u =>
      congrArg Prod.fst (u.command_masked name call reply)
  | concurrent names call =>
    refine alike_of_masked h (f := fun u => (u.step (.concurrent names call)).1) fun u => ?_
    simp only [step, clientsOf?_masked]
    cases u.clientsOf? names with
    | none => rfl
    | some clients =>
      simp only [Option.map_some, runAll_masked]
      rfl
  | queue ht replies =>
    refine onHandle_alike h ht fun id _ _ _ => ?_
    exact alike_of_masked h (f := fun u => u.queueOn id replies) fun u => u.queueOn_masked id replies
  | raw ht command =>
    refine onHandle_alike h ht fun id a b hab => ?_
    -- what is sent is seen by the handle alone, so the handles must be compared and not only the sessions
    have hsend : ∀ (u : Session) (x : RecordingHandle), (u.sendRaw id x command).1.masked =
        { u.masked with registry := u.masked.registry.update id (x.masked.query command).2 } := by
      intro u x
      simp only [sendRaw, masked, ← Registry.update_masked, RecordingHandle.query_masked]
    rw [hsend, hsend, h, hab]
  | commands ht => exact onHandle_alike h ht fun _ _ _ _ => h
  | client name =>
    refine alike_of_masked h (f := fun u => (u.step (.client name)).1) fun u => ?_
    simp only [step, client?_masked]
    cases u.client? name with
    | none => rfl
    | some c =>
      have hhandle : c.masked.handle = c.handle := rfl
      simp only [Option.map_some, hhandle]
      cases c.handle with
      | none => rfl
      | some id => simp only [view_masked]
  | getOrCreate hab =>
    refine onDescriptor_alike h hab fun d p q => ?_
    have hask : ∀ (u : Session) (e : Descriptor), ((u.getOrCreate e).1.showHandle (u.getOrCreate e).2).1.masked =
        ((u.masked.getOrCreate e.masked).1.view (u.masked.getOrCreate e.masked).2).1 := by
      intro u e
      simp only [getOrCreate_masked, view_masked, showHandle]
    rw [hask, hask, h, Descriptor.masked_withPasswords]
  | get hab =>
    refine onDescriptor_alike h hab fun d p q => ?_
    -- passwords are no part of a fingerprint
    have hprobe : t.registry.probe (d.withPasswords p q).fingerprint = s.registry.probe d.fingerprint :=
      (probe_alike h d.fingerprint).symm
    simp only [hprobe]
    cases s.registry.probe d.fingerprint with
    | none => exact h
    | some id => exact alike_of_masked h (f := fun u => (u.view id).1) fun u => congrArg Prod.fst (u.view_masked id)
  | race hargs =>
    obtain ⟨_, _, ha, hb⟩ | ⟨_, _, ha, hb, hdescriptors⟩ := errors_or_alike (masked_mapM_ofJson hargs)
    · simpa only [step, ha, hb] using h
    · simp only [step, ha, hb]
      exact congrArg (fun u : Session => { u with events := [] }) (raceAll_alike h hdescriptors)
  | stats => exact h
  | debug name =>
    refine alike_of_masked h (f := fun u => (u.step (.debug name)).1) fun u => ?_
    simp only [step, client?_masked]
    cases u.client? name <;> rfl
  | events => exact congrArg (fun u : Session => { u with events := [] }) h

/-- One step of each of two sessions tells the same. -/
theorem toldBy_alike (h : s.masked = t.masked) {st st' : Step} (hst : st.Twins st') : s.toldBy st = t.toldBy st' := by
  -- only three steps give away or drop what was told; after all others it is still there
  have hafter : (s.step st).1.events = (t.step st').1.events := events_alike (step_alike h hst)
  cases hst with
  | concurrent names call =>
    have hs := s.clientsOf?_masked names
    rw [h, clientsOf?_masked] at hs
    simp only [toldBy]
    revert hs
    cases s.clientsOf? names <;> cases t.clientsOf? names <;> intro hs
    · exact events_alike h
    · cases hs
    · cases hs
    · exact events_alike (runAll_alike h call (Option.some.inj hs).symm)
  | race hargs =>
    obtain ⟨_, _, ha, hb⟩ | ⟨_, _, ha, hb, hdescriptors⟩ := errors_or_alike (masked_mapM_ofJson hargs)
    · simp only [toldBy, ha, hb]
      exact events_alike h
    · simp only [toldBy, ha, hb]
      exact events_alike (raceAll_alike h hdescriptors)
  | events => exact events_alike h
  | _ => exact hafter

/-! ## Runs -/

/-- Two sessions show the same in all their diagnostics: each client, its descriptor and its options, the descriptors and
options of all handles, the registry, the maker of clients, and what was told. -/
structure SameDiagnostics (s t : Session) : Prop where
  client : ∀ name, (s.client? name).map (·.debugText) = (t.client? name).map (·.debugText)
  descriptor : ∀ name, (s.client? name).map (·.descriptor.debugText) = (t.client? name).map (·.descriptor.debugText)
  options : ∀ name,
    (s.client? name).map (·.descriptor.options.debugText) = (t.client? name).map (·.descriptor.options.debugText)
  handle : ∀ id, (s.registry.handle? id).map (fun h => (h.descriptor.debugText, h.descriptor.options.debugText)) =
    (t.registry.handle? id).map fun h => (h.descriptor.debugText, h.descriptor.options.debugText)
  registry : s.registry.debugText = t.registry.debugText
  factory : s.registry.factoryDebugText = t.registry.factoryDebugText
  events : s.events = t.events

/-- Diagnostics do not see passwords. -/
theorem sameDiagnostics (h : s.masked = t.masked) : s.SameDiagnostics t := by
  have hclient : ∀ (f : Client → String), (∀ c, f c.masked = f c) → ∀ name,
      (s.client? name).map f = (t.client? name).map f := by
    intro f hf name
    have hname := congrArg (Option.map f) (client?_alike h name)
    simpa [Function.comp_def, hf] using hname
  have hregistry : s.registry.masked = t.registry.masked := congrArg (·.registry) h
  refine ⟨hclient _ fun c => c.debugText_masked, hclient _ fun c => c.descriptor.debugText_masked,
    hclient _ fun c => c.descriptor.debugText_options_masked, ?_, ?_, ?_, events_alike h⟩
  · intro id
    have hid := congrArg (Option.map fun h : RecordingHandle =>
      (h.descriptor.debugText, h.descriptor.options.debugText)) (handle?_alike h id)
    simpa [Function.comp_def, RecordingHandle.masked] using hid
  · rw [← Registry.debugText_masked, hregistry, Registry.debugText_masked]
  · rw [← Registry.factoryDebugText_masked, hregistry, Registry.factoryDebugText_masked]

theorem runSteps_alike (h : s.masked = t.masked) {steps steps' : List Step}
    (hsteps : List.Forall₂ Step.Twins steps steps') : (s.runSteps steps).1.masked = (t.runSteps steps').1.masked := by
  induction hsteps generalizing s t with
  | nil => exact h
  | cons hst _ ih => exact ih (step_alike h hst)

/-- Two sessions whose steps are the same but for the texts of passwords in the descriptors show the same in all
diagnostics after every step, and every step of the one has told the same events as that of the other, with the same
fields. -/
theorem diagnostics_hide_passwords {steps steps' : List Step} (h : List.Forall₂ Step.Twins steps steps') (n : Nat) :
    (runSteps {} (steps.take n)).1.SameDiagnostics (runSteps {} (steps'.take n)).1 ∧
    ∀ st st', steps[n]? = some st → steps'[n]? = some st' →
      (runSteps {} (steps.take n)).1.toldBy st = (runSteps {} (steps'.take n)).1.toldBy st' := by
  have halike : (runSteps {} (steps.take n)).1.masked = (runSteps {} (steps'.take n)).1.masked :=
    runSteps_alike rfl (List.forall₂_take n h)
  refine ⟨sameDiagnostics halike, ?_⟩
  intro st st' hst hst'
  refine toldBy_alike halike ?_
  obtain ⟨hn, rfl⟩ := List.getElem?_eq_some_iff.1 hst
  obtain ⟨hn', rfl⟩ := List.getElem?_eq_some_iff.1 hst'
  exact h.get hn hn'

/-- A client with this password, which its first command binds. -/
def boundWith (password : String) : List Step :=
  [.newClient "a" [.object [("addresses", .array [.string "h:1"]), ("password", .string password)]],
    .command "a" .ping none, .events]

/-- Two clients that are bound with different passwords show the same, and two events are told of each. -/
theorem bound_twins_show_alike :
    List.Forall₂ Step.Twins (boundWith "aaa") (boundWith "bbb") ∧
    (runSteps {} ((boundWith "aaa").take 2)).1.SameDiagnostics (runSteps {} ((boundWith "bbb").take 2)).1 ∧
    (runSteps {} ((boundWith "aaa").take 2)).1.toldBy .events =
      (runSteps {} ((boundWith "bbb").take 2)).1.toldBy .events ∧
    ((runSteps {} ((boundWith "aaa").take 2)).1.toldBy .events).length = 2 := by
  have hargument : ArgumentTwins (.object [("addresses", .array [.string "h:1"]), ("password", .string "aaa")])
      (.object [("addresses", .array [.string "h:1"]), ("password", .string "bbb")]) :=
    argumentTwins_object (.cons (.same _) (.cons (.password (.inl rfl) "aaa" "bbb") .nil))
  have htwins : List.Forall₂ Step.Twins (boundWith "aaa") (boundWith "bbb") :=
    .cons (.newClient "a" (.cons hargument .nil)) (.cons (.command "a" .ping none) (.cons .events .nil))
  have h := diagnostics_hide_passwords htwins 2
  exact ⟨htwins, h.1, h.2 .events .events rfl rfl, rfl⟩

end Session

end Tether
