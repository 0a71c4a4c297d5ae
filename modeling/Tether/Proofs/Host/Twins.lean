import Mathlib.Data.List.Forall2
import Tether.Proofs.Descriptor.Sharing
import Tether.Proofs.Host.History

namespace Tether

/-! # Which handle a client has depends on its addresses alone

Two users do the same with two hosts, only that each descriptor of the one has the addresses of the other's in another
order, and any other mode and options; the handles, the worlds and the commands may differ as well. After every action
the two hosts have the same clients on the same handles. We show:

* `Host.Alike.act`: one action of each keeps the two hosts alike;
* `Host.twins_share_alike`: so after every action the two have, client by client, the same fingerprints and handles.
-/

section

variable {H K σ υ : Type}

/-- Two registries with the same entries, and as many handles. -/
structure Registry.Alike (r : Registry H) (q : Registry K) : Prop where
  entries : r.entries = q.entries
  created : r.created = q.created

namespace Registry.Alike

variable {r : Registry H} {q : Registry K}

theorem probe (h : r.Alike q) (f : Fingerprint) : r.probe f = q.probe f := by
  rw [Registry.probe, h.entries, Registry.probe]

theorem fingerprints (h : r.Alike q) : r.fingerprints = q.fingerprints := by
  rw [Registry.fingerprints, h.entries, Registry.fingerprints]

/-- Two descriptors of one fingerprint get the same handle, and a new one where there was none. -/
theorem getOrCreate (h : r.Alike q) (create : Descriptor → H) (create' : Descriptor → K) {d e : Descriptor}
    (hf : d.fingerprint = e.fingerprint) :
    (r.getOrCreate create d).registry.Alike (q.getOrCreate create' e).registry ∧
      (r.getOrCreate create d).handle = (q.getOrCreate create' e).handle := by
  have hd := getOrCreate_eq_enter r create d
  have he := getOrCreate_eq_enter q create' e
  rw [hd.1, hd.2, he.1, he.2]
  cases hp : r.probe d.fingerprint with
  | some id =>
    have hq : q.probe e.fingerprint = some id := by rw [← h.probe, ← hf, hp]
    rw [enter_of_eq_some create hp, enter_of_eq_some create' hq]
    exact ⟨h, rfl⟩
  | none =>
    have hq : q.probe e.fingerprint = none := by rw [← h.probe, ← hf, hp]
    have hlength : r.handles.length = q.handles.length := h.created
    rw [enter_of_eq_none create hp, enter_of_eq_none create' hq]
    refine ⟨⟨?_, ?_⟩, h.created⟩
    · simp [insert, h.entries, hf, hlength]
    · simp [insert, Registry.created, hlength]

/-- Running commands on handles keeps two registries alike. -/
theorem queryHandle (h : r.Alike q) (kind : HandleKind H σ) (kind' : HandleKind K υ) (i j : HandleId) (a b : Command)
    (w : σ) (v : υ) :
    (Client.queryHandle kind i a r w).2.1.Alike (Client.queryHandle kind' j b q v).2.1 := by
  constructor
  · rw [Client.entries_queryHandle, Client.entries_queryHandle]
    exact h.entries
  · rw [Client.created_queryHandle, Client.created_queryHandle]
    exact h.created

end Registry.Alike

/-- What tells where a client's commands go. -/
def Client.place (c : Client) : Fingerprint × Option HandleId := (c.fingerprint, c.handle)

/-- Clients of one fingerprint on one handle, or both without one, are bound to one handle. -/
theorem Registry.Alike.bind {r : Registry H} {q : Registry K} (h : r.Alike q) (create : Descriptor → H)
    (create' : Descriptor → K) {c d : Client} (hcd : c.place = d.place) :
    (c.bind r create).registry.Alike (d.bind q create').registry ∧
      (c.bind r create).client.place = (d.bind q create').client.place := by
  obtain ⟨hf, hh⟩ := Prod.mk.inj hcd
  cases hc : c.handle with
  | some id =>
    have hd : d.handle = some id := by rw [← hh, hc]
    rw [Client.bind_of_eq_some hc, Client.bind_of_eq_some hd]
    exact ⟨h, hcd⟩
  | none =>
    have hd : d.handle = none := by rw [← hh, hc]
    obtain ⟨hr, hid⟩ := h.getOrCreate create create' (d := c.descriptor) (e := d.descriptor) hf
    rw [Client.bind_of_eq_none hc, Client.bind_of_eq_none hd]
    exact ⟨hr, Prod.ext hf (congrArg some hid)⟩

end

namespace Host

variable {H K σ υ : Type}

/-- Two actions that differ in the order of addresses, and in what has nothing to do with them. -/
inductive Action.Twins : Action → Action → Prop where
  | newClient (factory : Nat) {arguments arguments' : List Json} {c d : Client}
      (hc : Client.ofArguments arguments = .ok c) (hd : Client.ofArguments arguments' = .ok d)
      (h : c.descriptor.addresses.Perm d.descriptor.addresses) :
      Twins (.newClient factory arguments) (.newClient factory arguments')
  | refused (factory : Nat) {arguments arguments' : List Json} {e e' : ConstructionError}
      (hc : Client.ofArguments arguments = .error e) (hd : Client.ofArguments arguments' = .error e') :
      Twins (.newClient factory arguments) (.newClient factory arguments')
  | fromDescriptor (factory : Nat) {d e : Descriptor} (h : d.addresses.Perm e.addresses) :
      Twins (.fromDescriptor factory d) (.fromDescriptor factory e)
  | cloneFactory : Twins .cloneFactory .cloneFactory
  | drop (k : Nat) : Twins (.drop k) (.drop k)
  | command (k : Nat) (call call' : Call) : Twins (.command k call) (.command k call')
  | getOrCreate {d e : Descriptor} (h : d.addresses.Perm e.addresses) : Twins (.getOrCreate d) (.getOrCreate e)
  | lookup {d e : Descriptor} (h : d.addresses.Perm e.addresses) : Twins (.lookup d) (.lookup e)
  | get (f : Fingerprint) : Twins (.get f) (.get f)
  | contains (f : Fingerprint) : Twins (.contains f) (.contains f)

/-- Two hosts with clients of the same fingerprints on the same handles. -/
structure Alike (s : Host H σ) (t : Host K υ) : Prop where
  registry : s.registry.Alike t.registry
  factories : s.factories = t.factories
  clients : s.clients.map (Option.map Client.place) = t.clients.map (Option.map Client.place)

namespace Alike

variable {s : Host H σ} {t : Host K υ}

theorem symm (h : s.Alike t) : t.Alike s where
  registry := ⟨h.registry.entries.symm, h.registry.created.symm⟩
  factories := h.factories.symm
  clients := h.clients.symm

/-- A client of the one host has its like in the other. -/
theorem client (h : s.Alike t) {k : Nat} {c : Client} (hc : s.clients[k]? = some (some c)) :
    ∃ d, t.clients[k]? = some (some d) ∧ c.place = d.place := by
  have hk := congrArg (fun l => l[k]?) h.clients
  simp only [List.getElem?_map, hc, Option.map_some] at hk
  obtain ⟨o, ho, hplace⟩ := Option.map_eq_some_iff.1 hk.symm
  obtain ⟨d, rfl, hd⟩ := Option.map_eq_some_iff.1 hplace
  exact ⟨d, ho, hd.symm⟩

theorem make (h : s.Alike t) (factory : Nat) {made made' : Except ConstructionError Client}
    (hm : made.toOption.map Client.place = made'.toOption.map Client.place) :
    (s.make factory made).1.Alike (t.make factory made').1 := by
  have hfactory : factory < s.factories ↔ factory < t.factories := by rw [h.factories]
  unfold Host.make
  by_cases hf : factory < s.factories
  · rw [if_pos hf, if_pos (hfactory.1 hf)]
    cases made with
    | error e =>
      cases made' with
      | error e' => exact h
      | ok d => cases hm
    | ok c =>
      cases made' with
      | error e' => cases hm
      | ok d =>
        have hplace : c.place = d.place := Option.some.inj hm
        refine ⟨h.registry, h.factories, ?_⟩
        simp [h.clients, hplace]
  · rw [if_neg hf, if_neg fun ht => hf (hfactory.2 ht)]
    exact h

theorem resolve (h : s.Alike t) (kind : HandleKind H σ) (kind' : HandleKind K υ) {d e : Descriptor}
    (hf : d.fingerprint = e.fingerprint) : (s.resolve kind d).1.Alike (t.resolve kind' e).1 where
  registry := (h.registry.getOrCreate kind.create kind'.create hf).1
  factories := h.factories
  clients := h.clients

theorem command (h : s.Alike t) (kind : HandleKind H σ) (kind' : HandleKind K υ) (k : Nat) (call call' : Call) :
    (s.command kind k call).1.Alike (t.command kind' k call').1 := by
  rcases s.command_cases kind k call with ⟨c, hk, hc⟩ | ⟨hgone, hc⟩
  · obtain ⟨d', hk', hplace⟩ := h.client hk
    rcases t.command_cases kind' k call' with ⟨d, hd, hcd⟩ | ⟨hgone, _⟩
    · rw [hk'] at hd
      cases hd
      obtain ⟨hregistry, hbound⟩ := h.registry.bind kind.create kind'.create hplace
      rw [hc, hcd]
      refine ⟨hregistry.queryHandle kind kind' _ _ _ _ _ _, h.factories, ?_⟩
      simp only [List.map_set, h.clients, Option.map_some, Client.client_call, hbound]
    · exact absurd hk' (hgone d')
  · rcases t.command_cases kind' k call' with ⟨d, hd, _⟩ | ⟨_, hcd⟩
    · obtain ⟨c, hk, _⟩ := h.symm.client hd
      exact absurd hk (hgone c)
    · rw [hc, hcd]
      exact h

/-- One action of each keeps the two hosts alike. -/
theorem act (h : s.Alike t) (kind : HandleKind H σ) (kind' : HandleKind K υ) {a b : Action} (hab : a.Twins b) :
    (s.act kind a).1.Alike (t.act kind' b).1 := by
  cases hab with
  | newClient factory hc hd hperm =>
    refine h.make factory ?_
    have hf := Fingerprint.fingerprint_eq_of_perm hperm
    have hnew := Client.handle_ofArguments hc
    have hnew' := Client.handle_ofArguments hd
    rw [hc, hd]
    simp [Except.toOption, Client.place, Client.fingerprint, hf, hnew, hnew']
  | refused factory hc hd =>
    refine h.make factory ?_
    rw [hc, hd]
    rfl
  | fromDescriptor factory hperm =>
    have hf := Fingerprint.fingerprint_eq_of_perm hperm
    refine h.make factory ?_
    simp [Except.toOption, Client.place, Client.fingerprint, hf]
  | cloneFactory => exact { h with factories := congrArg (· + 1) h.factories }
  | drop k =>
    refine ⟨h.registry, h.factories, ?_⟩
    show (s.clients.set k none).map _ = (t.clients.set k none).map _
    rw [List.map_set, List.map_set, h.clients]
  | command k call call' => exact h.command kind kind' k call call'
  | getOrCreate hperm => exact h.resolve kind kind' (Fingerprint.fingerprint_eq_of_perm hperm)
  | lookup hperm => exact h.resolve kind kind' (Fingerprint.fingerprint_eq_of_perm hperm)
  | get f => exact h
  | contains f => exact h

theorem run (h : s.Alike t) (kind : HandleKind H σ) (kind' : HandleKind K υ) {as bs : List Action}
    (hab : List.Forall₂ Action.Twins as bs) : (s.run kind as).Alike (t.run kind' bs) := by
  induction hab generalizing s t with
  | nil => exact h
  | cons hfirst _ ih => exact ih (h.act kind kind' hfirst)

end Alike

/-- After every action of two users who do the same, but for the order of addresses and for modes, options, commands,
handles and worlds: the two have, client by client, the same fingerprints and the handle of the same number, so that the
same clients share a handle; the same fingerprints are in the registries, as many handles were created, and for the same
fingerprints in the same order; and each client has the descriptor with which it was made, its addresses in their own
order. -/
theorem twins_share_alike (kind : HandleKind H σ) (kind' : HandleKind K υ) (w : σ) (v : υ) {as bs : List Action}
    (hab : List.Forall₂ Action.Twins as bs) (n : Nat) :
    (reached kind w (as.take n)).clients.map (Option.map fun c => (c.fingerprint, c.handle)) =
      (reached kind' v (bs.take n)).clients.map (Option.map fun c => (c.fingerprint, c.handle)) ∧
    (∀ (j k : Nat) (c d c' d' : Client),
      (reached kind w (as.take n)).clients[j]? = some (some c) →
      (reached kind w (as.take n)).clients[k]? = some (some d) →
      (reached kind' v (bs.take n)).clients[j]? = some (some c') →
      (reached kind' v (bs.take n)).clients[k]? = some (some d') →
      c.handle.isSome = c'.handle.isSome ∧ (c.handle = d.handle ↔ c'.handle = d'.handle)) ∧
    (reached kind w (as.take n)).registry.fingerprints = (reached kind' v (bs.take n)).registry.fingerprints ∧
    (reached kind w (as.take n)).registry.created = (reached kind' v (bs.take n)).registry.created ∧
    SharedRegistry.creations (reached kind w (as.take n)).events =
      SharedRegistry.creations (reached kind' v (bs.take n)).events ∧
    (∀ (k : Nat) (c : Client), (reached kind w (as.take n)).clients[k]? = some (some c) →
      ∃ p, (History.of (as.take n)).clients[k]? = some p ∧ p.descriptor = c.descriptor) ∧
    ∀ (k : Nat) (d : Client), (reached kind' v (bs.take n)).clients[k]? = some (some d) →
      ∃ p, (History.of (bs.take n)).clients[k]? = some p ∧ p.descriptor = d.descriptor := by
  have hinit : Alike ({ world := w } : Host H σ) ({ world := v } : Host K υ) := ⟨⟨rfl, rfl⟩, rfl, rfl⟩
  have halike : (reached kind w (as.take n)).Alike (reached kind' v (bs.take n)) :=
    hinit.run kind kind' (List.forall₂_take n hab)
  have hs := History.tracks_of kind w (as.take n)
  have ht := History.tracks_of kind' v (bs.take n)
  refine ⟨halike.clients, ?_, halike.registry.fingerprints, halike.registry.created, ?_, ?_, ?_⟩
  · intro j k c d c' d' hc hd hc' hd'
    obtain ⟨c₁, hc₁, hj⟩ := halike.client hc
    obtain ⟨d₁, hd₁, hk⟩ := halike.client hd
    rw [hc'] at hc₁
    rw [hd'] at hd₁
    cases hc₁
    cases hd₁
    have hjhandle : c.handle = c'.handle := congrArg Prod.snd hj
    have hkhandle : d.handle = d'.handle := congrArg Prod.snd hk
    rw [hjhandle, hkhandle]
    exact ⟨rfl, Iff.rfl⟩
  · rw [hs.creations, ht.creations, Registry.keys, halike.registry.entries, Registry.keys]
  · intro k c hc
    obtain ⟨p, hp, _, hd, _⟩ := hs.past hc
    exact ⟨p, hp, hd⟩
  · intro k d hd
    obtain ⟨p, hp, _, hd, _⟩ := ht.past hd
    exact ⟨p, hp, hd⟩

/-- A single node and a cluster of the same two addresses, in either order: both have one handle after a client of the
one has run a command and the handle was asked for in the other order. -/
theorem twins_share_alike_in_any_mode :
    List.Forall₂ Action.Twins
      [.fromDescriptor 0 .descending, .command 0 .ping, .getOrCreate .ascending]
      [.fromDescriptor 0 Descriptor.ascending.asCluster, .command 0 (.get "key"), .getOrCreate .descending] ∧
    (reached RecordingHandle.kind ()
        [.fromDescriptor 0 .descending, .command 0 .ping, .getOrCreate .ascending]).registry.fingerprints =
      (reached RecordingHandle.kind ()
        [.fromDescriptor 0 Descriptor.ascending.asCluster, .command 0 (.get "key"),
          .getOrCreate .descending]).registry.fingerprints ∧
    (reached RecordingHandle.kind ()
        [.fromDescriptor 0 .descending, .command 0 .ping, .getOrCreate .ascending]).registry.created =
      (reached RecordingHandle.kind ()
        [.fromDescriptor 0 Descriptor.ascending.asCluster, .command 0 (.get "key"),
          .getOrCreate .descending]).registry.created := by
  have hperm : Descriptor.descending.addresses.Perm Descriptor.ascending.addresses := List.Perm.swap "a:1" "b:2" []
  have htwins : List.Forall₂ Action.Twins
      [.fromDescriptor 0 .descending, .command 0 .ping, .getOrCreate .ascending]
      [.fromDescriptor 0 Descriptor.ascending.asCluster, .command 0 (.get "key"), .getOrCreate .descending] :=
    .cons (.fromDescriptor 0 hperm) (.cons (.command 0 _ _) (.cons (.getOrCreate hperm.symm) .nil))
  have h := twins_share_alike RecordingHandle.kind RecordingHandle.kind () () htwins 3
  exact ⟨htwins, h.2.2.1, h.2.2.2.1⟩

end Host

end Tether
