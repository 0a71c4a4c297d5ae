import Tether.Handle.Recording
import Tether.Proofs.Host.Basic

namespace Tether

/-! # The registry is its history

What was done to a host says which handles its registry has, whatever the handles and the stores did: the registry has
one for each fingerprint that was asked for, and for each of a client that was given a command. Clients that were made
and not used, and clients that were dropped, change nothing. We show:

* `History.tracks_act`: an action does to the host what it does to its history;
* `History.registry_tells_history`: so the entries, the number of created handles and the states of the clients are what
  the history says.
-/

namespace Host

/-- A client that was made. -/
structure Past where
  descriptor : Descriptor
  living : Bool := true
  /-- It was given a command while it was there. -/
  commanded : Bool := false

namespace Past

/-- The client is dropped. -/
def drop (p : Past) : Past := { p with living := false }

/-- The client is given a command, if it is there. -/
def command (p : Past) : Past := if p.living then { p with commanded := true } else p

/-- A client is bound if it was given a command. -/
def state (p : Past) : ClientState := if p.commanded then .bound else .configured

/-- What there is to see of a client. -/
def seen (p : Past) : Option (Descriptor × ClientState) := if p.living then some (p.descriptor, p.state) else none

end Past

/-- What was done to a host. -/
structure History where
  factories : Nat := 1
  clients : List Past := []
  /-- The descriptors that were asked for. -/
  resolved : List Descriptor := []

namespace History

/-- A factory is to make a client. -/
def make (h : History) (factory : Nat) (made : Except ConstructionError Client) : History :=
  if factory < h.factories then
    match made with
    | .ok c => { h with clients := h.clients ++ [{ descriptor := c.descriptor }] }
    | .error _ => h
  else h

/-- The history after one more action. -/
def after (h : History) : Action → History
  | .newClient factory arguments => h.make factory (Client.ofArguments arguments)
  | .fromDescriptor factory d => h.make factory (.ok { descriptor := d })
  | .cloneFactory => { h with factories := h.factories + 1 }
  | .drop k => { h with clients := h.clients.modify k Past.drop }
  | .command k _ => { h with clients := h.clients.modify k Past.command }
  | .getOrCreate d => { h with resolved := h.resolved ++ [d] }
  | .lookup d => { h with resolved := h.resolved ++ [d] }
  | .get _ => h
  | .contains _ => h

/-- The history of actions. -/
def of (actions : List Action) : History := actions.foldl after {}

/-- The fingerprint was asked for, or is that of a client, living or dropped, that was given a command. -/
def Used (h : History) (f : Fingerprint) : Prop :=
  (∃ d ∈ h.resolved, d.fingerprint = f) ∨ ∃ p ∈ h.clients, p.commanded = true ∧ p.descriptor.fingerprint = f

/-! ## What an action does to the history -/

theorem used_make (h : History) (factory : Nat) (made : Except ConstructionError Client) (f : Fingerprint) :
    (h.make factory made).Used f ↔ h.Used f := by
  unfold make
  split
  · cases made with
    | error e => rfl
    | ok c =>
      -- the new client was given no command yet
      simp [Used]
  · rfl

theorem used_resolve (h : History) (d : Descriptor) (f : Fingerprint) :
    Used { h with resolved := h.resolved ++ [d] } f ↔ h.Used f ∨ f = d.fingerprint := by
  simp only [Used, List.mem_append, List.mem_singleton, or_and_right, exists_or, exists_eq_left]
  rw [or_right_comm, @eq_comm _ d.fingerprint]

/-- Where the change of one item can only add to what holds of it. -/
theorem exists_mem_modify {α : Type} {P Q : α → Prop} {g : α → α} (hg : ∀ p, P (g p) ↔ P p ∨ Q p) (l : List α)
    (k : Nat) : (∃ p ∈ l.modify k g, P p) ↔ (∃ p ∈ l, P p) ∨ ∃ p, l[k]? = some p ∧ Q p := by
  simp only [List.mem_iff_getElem?, List.getElem?_modify]
  constructor
  · rintro ⟨p, ⟨j, hj⟩, hp⟩
    obtain ⟨o, ho, rfl⟩ := Option.map_eq_some_iff.1 hj
    by_cases hk : k = j
    · subst hk
      rw [if_pos rfl] at hp
      rcases (hg o).1 hp with hp | hq
      · exact Or.inl ⟨o, ⟨k, ho⟩, hp⟩
      · exact Or.inr ⟨o, ho, hq⟩
    · rw [if_neg hk] at hp
      exact Or.inl ⟨o, ⟨j, ho⟩, hp⟩
  · rintro (⟨p, ⟨j, hj⟩, hp⟩ | ⟨p, hk, hq⟩)
    · by_cases hk : k = j
      · exact ⟨g p, ⟨j, by simp [hk, hj]⟩, (hg p).2 (Or.inl hp)⟩
      · exact ⟨p, ⟨j, by simp [hk, hj]⟩, hp⟩
    · exact ⟨g p, ⟨k, by simp [hk]⟩, (hg p).2 (Or.inr hq)⟩

theorem used_drop (h : History) (k : Nat) (f : Fingerprint) :
    Used { h with clients := h.clients.modify k Past.drop } f ↔ h.Used f := by
  refine or_congr_right ?_
  rw [exists_mem_modify (Q := fun _ => False)]
  · simp
  · intro p
    simp [Past.drop]

theorem used_command (h : History) (k : Nat) (f : Fingerprint) :
    Used { h with clients := h.clients.modify k Past.command } f ↔
      h.Used f ∨ ∃ p, h.clients[k]? = some p ∧ p.living = true ∧ p.descriptor.fingerprint = f := by
  rw [Used, Used, or_assoc]
  refine or_congr_right ?_
  rw [exists_mem_modify (Q := fun p => p.living = true ∧ p.descriptor.fingerprint = f)]
  intro p
  cases hp : p.living <;> cases hc : p.commanded <;> simp [Past.command, hp, hc]

/-- Where what is seen of the changed item is known. -/
theorem map_modify {α β : Type} {f : α → β} {g : α → α} {b : β} (l : List α) (k : Nat)
    (hk : ∀ p, l[k]? = some p → f (g p) = b) : (l.modify k g).map f = (l.map f).set k b := by
  apply List.ext_getElem?
  intro j
  rw [List.getElem?_map, List.getElem?_modify, List.getElem?_set, List.getElem?_map, List.length_map]
  by_cases hj : k = j
  · subst hj
    cases hp : l[k]? with
    | none => simpa using List.getElem?_eq_none_iff.1 hp
    | some p =>
      have hlt : k < l.length := (List.getElem?_eq_some_iff.1 hp).1
      simp [hlt, hk p hp]
  · simp [hj]

/-! ## What an action does to the host -/

variable {H σ : Type} {kind : HandleKind H σ} {h : History} {s : Host H σ}

/-- The host is as the history says. -/
structure Tracks (h : History) (s : Host H σ) : Prop where
  wellFormed : s.registry.WellFormed
  creations : SharedRegistry.creations s.events = s.registry.keys
  factories : s.factories = h.factories
  clients : s.clients.map (Option.map fun c => (c.descriptor, c.state)) = h.clients.map Past.seen
  keys : ∀ f, f ∈ s.registry.keys ↔ h.Used f

theorem tracks_init (w : σ) : Tracks {} ({ world := w } : Host H σ) where
  wellFormed := Registry.wellFormed_empty
  creations := rfl
  factories := rfl
  clients := rfl
  keys := by simp [Registry.keys, Used]

/-- A client that is there has a past in which it was not dropped. -/
theorem Tracks.past (ht : Tracks h s) {k : Nat} {c : Client} (hc : s.clients[k]? = some (some c)) :
    ∃ p, h.clients[k]? = some p ∧ p.living = true ∧ p.descriptor = c.descriptor ∧ p.state = c.state := by
  have hk := congrArg (fun l => l[k]?) ht.clients
  simp only [List.getElem?_map, hc, Option.map_some] at hk
  obtain ⟨p, hp, hseen⟩ := Option.map_eq_some_iff.1 hk.symm
  unfold Past.seen at hseen
  split at hseen
  · next hl =>
    obtain ⟨hd, hst⟩ := Prod.mk.inj (Option.some.inj hseen)
    exact ⟨p, hp, hl, hd, hst⟩
  · cases hseen

/-- The past of a client that is gone says so. -/
theorem Tracks.dropped (ht : Tracks h s) {k : Nat} {p : Past} (hgone : ∀ c, s.clients[k]? ≠ some (some c))
    (hp : h.clients[k]? = some p) : p.living = false := by
  cases hl : p.living with
  | false => rfl
  | true =>
    have hk := congrArg (fun l => l[k]?) ht.clients
    simp only [List.getElem?_map, hp, Option.map_some, Past.seen, hl, if_true] at hk
    obtain ⟨o, ho, hc⟩ := Option.map_eq_some_iff.1 hk
    obtain ⟨c, rfl, _⟩ := Option.map_eq_some_iff.1 hc
    exact absurd ho (hgone c)

theorem tracks_make (ht : Tracks h s) (factory : Nat) {made : Except ConstructionError Client}
    (hm : ∀ c, made = .ok c → c.handle = none) : Tracks (h.make factory made) (s.make factory made).1 := by
  unfold Host.make make
  have hfactory : factory < s.factories ↔ factory < h.factories := by rw [ht.factories]
  by_cases hf : factory < h.factories
  · rw [if_pos hf, if_pos (hfactory.2 hf)]
    cases made with
    | error e => exact ht
    | ok c =>
      -- a client that was just made is not bound, and was given no command
      have hstate : c.state = .configured := by simp [Client.state, hm c rfl]
      have hused := used_make h factory (.ok c)
      rw [make, if_pos hf] at hused
      constructor
      · exact ht.wellFormed
      · exact ht.creations
      · exact ht.factories
      · simp [ht.clients, Past.seen, Past.state, hstate]
      · intro f
        rw [hused]
        exact ht.keys f
  · rw [if_neg hf, if_neg fun hs => hf (hfactory.1 hs)]
    exact ht

theorem tracks_resolve (ht : Tracks h s) (d : Descriptor) :
    Tracks { h with resolved := h.resolved ++ [d] } (s.resolve kind d).1 where
  wellFormed := ht.wellFormed.getOrCreate kind.create d
  creations := creations_act ht.creations (.getOrCreate d)
  factories := ht.factories
  clients := ht.clients
  keys := by
    intro f
    rw [used_resolve, ← ht.keys]
    exact Registry.mem_keys_getOrCreate kind.create

theorem tracks_drop (ht : Tracks h s) (k : Nat) :
    Tracks { h with clients := h.clients.modify k Past.drop } { s with clients := s.clients.set k none } where
  wellFormed := ht.wellFormed
  creations := ht.creations
  factories := ht.factories
  clients := by
    rw [List.map_set, ht.clients, map_modify h.clients k (b := none)]
    · rfl
    · intro p _
      rfl
  keys := by
    intro f
    rw [used_drop]
    exact ht.keys f

theorem tracks_command (ht : Tracks h s) (k : Nat) (call : Call) :
    Tracks { h with clients := h.clients.modify k Past.command } (s.command kind k call).1 where
  wellFormed := wellFormed_act ht.wellFormed (.command k call)
  creations := creations_act ht.creations (.command k call)
  factories := by
    rcases s.command_cases kind k call with ⟨c, _, hc⟩ | ⟨_, hc⟩
    · rw [hc]
      exact ht.factories
    · rw [hc]
      exact ht.factories
  clients := by
    rcases s.command_cases kind k call with ⟨c, hk, hc⟩ | ⟨hgone, hc⟩
    · -- the client is bound now
      obtain ⟨p, hp, hl, hd, _⟩ := ht.past hk
      have hdescriptor : (c.call kind s.registry s.world call).client.descriptor = p.descriptor := by
        rw [Client.client_call, Client.descriptor_bind, hd]
      have hstate : (c.call kind s.registry s.world call).client.state = .bound := by
        rw [Client.client_call, Client.state, Client.handle_bind]
        rfl
      rw [hc, List.map_set, ht.clients, map_modify h.clients k (b := some (p.descriptor, .bound))]
      · rw [Option.map_some, hdescriptor, hstate]
      · intro p' hp'
        rw [hp] at hp'
        cases hp'
        simp [Past.command, Past.seen, Past.state, hl]
    · -- a client that is gone stays as it was
      have hsame : h.clients.modify k Past.command = h.clients := by
        apply List.ext_getElem?
        intro j
        rw [List.getElem?_modify]
        by_cases hj : k = j
        · subst hj
          cases hp : h.clients[k]? with
          | none => rfl
          | some p => simp [Past.command, ht.dropped hgone hp]
        · simp [hj]
      rw [hc, hsame]
      exact ht.clients
  keys := by
    intro f
    rw [used_command]
    rcases s.command_cases kind k call with ⟨c, hk, hc⟩ | ⟨hgone, hc⟩
    · obtain ⟨p, hp, hl, hd, hst⟩ := ht.past hk
      have hf : p.descriptor.fingerprint = c.fingerprint := congrArg Descriptor.fingerprint hd
      -- a client that was bound before was given a command before
      have hbound : c.handle.isSome = true → c.fingerprint ∈ s.registry.keys := by
        intro hbound
        have hcommanded : p.commanded = true := by
          cases hp' : p.commanded with
          | true => rfl
          | false => simp [Past.state, Client.state, hp', hbound] at hst
        rw [ht.keys]
        exact Or.inr ⟨p, List.mem_of_getElem? hp, hcommanded, hf⟩
      rw [hc]
      show f ∈ (c.call kind s.registry s.world call).registry.keys ↔ _
      rw [Client.keys_call, Client.mem_keys_bind hbound, ht.keys]
      refine or_congr_right ?_
      constructor
      · rintro rfl
        exact ⟨p, hp, hl, hf⟩
      · rintro ⟨p', hp', _, hf'⟩
        rw [hp] at hp'
        cases hp'
        rw [← hf', hf]
    · have hnone : ¬ ∃ p, h.clients[k]? = some p ∧ p.living = true ∧ p.descriptor.fingerprint = f := by
        rintro ⟨p, hp, hl, _⟩
        rw [ht.dropped hgone hp] at hl
        cases hl
      rw [hc]
      show f ∈ s.registry.keys ↔ _
      rw [ht.keys, or_iff_left hnone]

/-- An action does to the host what it does to its history. -/
theorem tracks_act (ht : Tracks h s) (a : Action) : Tracks (h.after a) (s.act kind a).1 := by
  cases a with
  | newClient factory arguments => exact tracks_make ht factory fun c hc => Client.handle_ofArguments hc
  | fromDescriptor factory d =>
    have hnew : ∀ c, (Except.ok { descriptor := d } : Except ConstructionError Client) = .ok c → c.handle = none := by
      rintro c ⟨⟩
      rfl
    exact tracks_make ht factory hnew
  | cloneFactory => exact { ht with factories := congrArg (· + 1) ht.factories }
  | drop k => exact tracks_drop ht k
  | command k call => exact tracks_command ht k call
  | getOrCreate d => exact tracks_resolve ht d
  | lookup d => exact tracks_resolve ht d
  | get f => exact ht
  | contains f => exact ht

theorem tracks_run (actions : List Action) (ht : Tracks h s) :
    Tracks (actions.foldl after h) (s.run kind actions) := by
  induction actions generalizing h s with
  | nil => exact ht
  | cons a rest ih => exact ih (tracks_act ht a)

theorem tracks_of (kind : HandleKind H σ) (w : σ) (actions : List Action) :
    Tracks (of actions) (reached kind w actions) :=
  tracks_run actions (tracks_init w)

/-- The fingerprints of the registry are those that were asked for and those of the clients, living or dropped, that were
given a command; each has one handle, which was created when it came in, and no other was; a client is bound exactly if
it was given a command; and no action that makes or drops a client, clones a factory or only looks changes the entries
or creates a handle. -/
theorem registry_tells_history (kind : HandleKind H σ) (w : σ) (actions : List Action) :
    (∀ f, f ∈ (reached kind w actions).registry.fingerprints ↔
      (∃ d ∈ (of actions).resolved, d.fingerprint = f) ∨
        ∃ p ∈ (of actions).clients, p.commanded = true ∧ p.descriptor.fingerprint = f) ∧
    (reached kind w actions).registry.fingerprints.Nodup ∧
    (reached kind w actions).registry.created = (reached kind w actions).registry.size ∧
    (SharedRegistry.creations (reached kind w actions).events).length = (reached kind w actions).registry.size ∧
    (∀ (k : Nat) (c : Client), (reached kind w actions).clients[k]? = some (some c) →
      ∃ p, (of actions).clients[k]? = some p ∧ p.living = true ∧ p.descriptor = c.descriptor ∧
        (c.state = .bound ↔ p.commanded = true)) ∧
    (∀ (k : Nat) (p : Past), (of actions).clients[k]? = some p → p.living = true →
      ∃ c, (reached kind w actions).clients[k]? = some (some c)) ∧
    ∀ a : Action, a.isInert = true →
      ((reached kind w actions).act kind a).1.registry = (reached kind w actions).registry ∧
        ((reached kind w actions).act kind a).1.events = (reached kind w actions).events := by
  have ht := tracks_of kind w actions
  refine ⟨?_, ?_, ?_, ?_, ?_, ?_, fun a ha => act_of_isInert _ ha⟩
  · intro f
    rw [Registry.mem_fingerprints, ht.keys]
    rfl
  · exact ht.wellFormed.nodup_fingerprints
  · rw [Registry.size_eq_length_keys]
    exact ht.wellFormed.length_handles
  · rw [Registry.size_eq_length_keys, ht.creations]
  · intro k c hc
    obtain ⟨p, hp, hl, hd, hst⟩ := ht.past hc
    refine ⟨p, hp, hl, hd, ?_⟩
    rw [← hst, Past.state]
    cases p.commanded <;> simp
  · -- a client that is gone was dropped
    intro k p hp hl
    apply Classical.byContradiction
    intro hgone
    have hdropped := ht.dropped (fun c hc => hgone ⟨c, hc⟩) hp
    rw [hdropped] at hl
    cases hl

/-- A client that is dropped after a command leaves its entry behind, and one that could not be made left none. -/
theorem registry_tells_history_of_dropped :
    SharedRegistry.lone.fingerprint ∈ (reached RecordingHandle.kind ()
      [.newClient 0 [], .fromDescriptor 0 SharedRegistry.lone, .command 0 .ping, .drop 0]).registry.fingerprints ∧
    (reached RecordingHandle.kind ()
      [.newClient 0 [], .fromDescriptor 0 SharedRegistry.lone, .command 0 .ping, .drop 0]).registry.created = 1 := by
  have h := registry_tells_history RecordingHandle.kind ()
    [.newClient 0 [], .fromDescriptor 0 SharedRegistry.lone, .command 0 .ping, .drop 0]
  refine ⟨(h.1 _).2 (Or.inr ⟨⟨SharedRegistry.lone, false, true⟩, ?_, rfl, rfl⟩), rfl⟩
  exact List.mem_singleton.2 rfl

end History

end Host

end Tether
