import Tether.Descriptor.OfUrl
import Tether.Proofs.Handle.Errands
import Tether.Proofs.Url.Host

namespace Tether

/-! # What is dialled for a URL

The host of a URL is written into an address and read out of it again before it is dialled. We note the nodes that are
dialled over a network, and show, for whatever reads URLs:

* `Descriptor.ofUrlBy_of_node`: the address of the node that a URL names is accepted and gives its endpoint back;
* `LiveHandle.keepsTo_run`: a handle to one node dials that node and no other, whatever comes of its commands;
* `LiveHandle.dials_node_of_url`: so the handle of a URL dials what the URL names, as whom the URL says.
-/

/-! ## From a URL to a node -/

/-- The node with its certificate verified, where it uses one. -/
def Node.checked (n : Node) : Node := { n with security := if n.security.isTls then .verified else .plain }

theorem Node.isTls_checked (n : Node) : n.checked.security.isTls = n.security.isTls := by
  unfold checked
  cases n.security <;> rfl

namespace Descriptor

/-- The descriptor of a node whose host may stand in an address. -/
def ofNode (n : Node) (h : Address.IsBare n.host) : Descriptor where
  addresses := [Address.join n.host n.port]
  mode := .single
  options := nodeOptions n
  addresses_ne_nil := List.cons_ne_nil _ _
  endpoint_isSome := by
    intro a ha
    rw [List.mem_singleton.1 ha, Address.endpoint?_join h n.port]
    rfl
  masterName_ne_empty := Mode.name_ne_empty_of_single

variable {n : Node} (h : Address.IsBare n.host)

theorem endpoints_ofNode : (ofNode n h).endpoints = [n.endpoint] :=
  List.filterMap_cons_some (Address.endpoint?_join h n.port)

/-- The node that is dialled is the one that is described, but that its certificate is verified. -/
theorem plan_ofNode : (ofNode n h).plan = .single n.checked := by
  have hfirst : (ofNode n h).firstEndpoint = n.endpoint := by
    simp only [firstEndpoint, endpoints_ofNode h, List.head_cons]
  rw [plan_of_single rfl, hfirst]
  rfl

theorem ofUrlBy_of_node {read : String → Except UrlFault Node} {url : String} (hurl : read url = .ok n) :
    ofUrlBy read url = .ok (ofNode n h) := by
  unfold ofUrlBy
  rw [hurl]
  exact new_eq_ok_iff.2 ⟨rfl, rfl, rfl⟩

end Descriptor

/-! ## Noting what is dialled -/

/-- A world with the nodes that were dialled in it, in order. -/
structure Noted (σ : Type) where
  world : σ
  dialled : List Node := []

variable {σ : Type}

namespace Noted

/-- Nothing is dialled but one node, a number of times. -/
def Dials (n : Node) (times : Nat) (w w' : Noted σ) : Prop := w'.dialled = w.dialled ++ List.replicate times n

theorem Dials.trans {n : Node} {i k : Nat} {u v w : Noted σ} (huv : Dials n i u v) (hvw : Dials n k v w) :
    Dials n (i + k) u w := by
  unfold Dials at huv hvw ⊢
  rw [hvw, huv, List.append_assoc, List.replicate_append_replicate]

/-- Nothing is dialled but one node, if anything is. -/
def KeepsTo (n : Node) (w w' : Noted σ) : Prop := ∃ times, Dials n times w w'

instance (n : Node) : IsPreorder (Noted σ) (Dials n 0) where
  refl w := (List.append_nil w.dialled).symm
  trans _ _ _ := Dials.trans

instance (n : Node) : IsPreorder (Noted σ) (KeepsTo n) where
  refl w := ⟨0, refl_of (Dials n 0) w⟩
  trans := by
    rintro u v w ⟨i, huv⟩ ⟨k, hvw⟩
    exact ⟨i + k, huv.trans hvw⟩

end Noted

open Noted Attempt

namespace Network

/-- The network with a note of what is dialled. -/
def noted (net : Network σ) : Network (Noted σ) where
  dial n w :=
    let (link, world) := net.dial n w.world
    (link, ⟨world, w.dialled ++ [n]⟩)
  send l c w :=
    let (response, world) := net.send l c w.world
    (response, { w with world })
  pause w :=
    let (more, world) := net.pause w.world
    (more, { w with world })
  await w :=
    let (ended, world) := net.await w.world
    (ended, { w with world })

/-- The networks for all limits with a note of what is dialled. -/
def noting (net : Option Duration → Network σ) (limit : Option Duration) : Network (Noted σ) := (net limit).noted

theorem limited_noting (net : Option Duration → Network σ) : limited (noting net) = noting (limited net) := by
  funext limit
  cases limit <;> rfl

variable (net : Network σ) (n : Node)

/-- To send is to dial nothing. -/
theorem leads_request_noted (l : Link) (c : Command) : Leads (Dials n 0) (net.noted.request l c) :=
  fun w => (List.append_nil w.dialled).symm

/-- So is to wait. -/
theorem keepsTo_pause (w : Noted σ) : Noted.KeepsTo n w (net.noted.pause w).2 := ⟨0, (List.append_nil w.dialled).symm⟩

theorem keepsTo_await (w : Noted σ) : Noted.KeepsTo n w (net.noted.await w).2 := ⟨0, (List.append_nil w.dialled).symm⟩

theorem dials_connect (w : Noted σ) : Dials n 1 w (net.noted.connect n w).2 := by
  have hprepare : ∀ l, Leads (Dials n 0) (do
      net.noted.authenticate l n
      net.noted.select l n.database
      net.noted.introduce l
      pure l) := fun l => leads_prepare net.noted (fun c _ => net.leads_request_noted n l c) n
  have hdial : Dials n 1 w (net.noted.dial n w).2 := rfl
  unfold connect
  rw [bind_apply]
  cases h : net.noted.dial n w with
  | mk result w' =>
    rw [h] at hdial
    cases result with
    | error e => exact hdial
    | ok l => exact hdial.trans (hprepare l w')

/-- Every try dials the node. -/
theorem dials_connectAtLength (w : Noted σ) :
    ∃ times, 0 < times ∧ Dials n times w (net.noted.connectAtLength n w).2 := by
  obtain ⟨more, hmore⟩ := leads_from_try (r := Noted.KeepsTo n) (fun w => ⟨1, net.dials_connect n w⟩)
    (net.keepsTo_pause n) reopenLimit w
  exact ⟨1 + more, Nat.lt_add_right more Nat.one_pos, (net.dials_connect n w).trans hmore⟩

end Network

namespace Connection

/-- The connection is one to the node. -/
def IsTo (n : Node) (c : Connection) : Prop := ∃ uplink, c = .managed n uplink

theorem isTo_of_toNode (net : Network σ) (n : Node) : Gives (toNode net n) (IsTo n) :=
  gives_bind fun l => gives_pure ⟨.up l, rfl⟩

theorem dials_toNode (net : Network σ) (n : Node) (w : Noted σ) :
    ∃ times, 0 < times ∧ Dials n times w (toNode net.noted n w).2 := by
  obtain ⟨times, hpos, hdials⟩ := net.dials_connectAtLength n w
  refine ⟨times, hpos, ?_⟩
  unfold toNode
  rw [bind_apply]
  cases h : net.noted.connectAtLength n w with
  | mk result w' =>
    rw [h] at hdials
    cases result <;> exact hdials

/-- The connection is still one to the node, and no other has been dialled. -/
structure Stays (n : Node) (w : Noted σ) (c : Connection) (w' : Noted σ) : Prop where
  isTo : c.IsTo n
  keepsTo : Noted.KeepsTo n w w'

theorem Stays.of_keepsTo {n : Node} {u v w : Noted σ} {c : Connection} (huv : Noted.KeepsTo n u v)
    (hvw : Stays n v c w) : Stays n u c w := ⟨hvw.isTo, trans_of (Noted.KeepsTo n) huv hvw.keepsTo⟩

variable (net : Option Duration → Network σ) (limit : Option Duration) (n : Node)

theorem stays_reopen (w : Noted σ) :
    Stays n w (reopen (Network.noting net) n w).1 (reopen (Network.noting net) n w).2 := by
  obtain ⟨times, _, hdials⟩ := (net none).dials_connectAtLength n w
  exact ⟨⟨_, rfl⟩, times, hdials⟩

theorem stays_arrive (result : Except Halt Link) (w : Noted σ) :
    Stays n w (arrive (Network.noting net) n w result).2.1 (arrive (Network.noting net) n w result).2.2 := by
  match result with
  | .ok l => exact ⟨⟨_, rfl⟩, refl_of (Noted.KeepsTo n) w⟩
  | .error .waiting => exact ⟨⟨_, rfl⟩, refl_of (Noted.KeepsTo n) w⟩
  | .error (.failed e) =>
    simp only [arrive]
    split
    · exact stays_reopen net n w
    · exact ⟨⟨_, rfl⟩, refl_of (Noted.KeepsTo n) w⟩

theorem stays_take (uplink : Uplink) (w : Noted σ) :
    Stays n w (take (Network.noting net) limit (.managed n uplink) w).2.1
      (take (Network.noting net) limit (.managed n uplink) w).2.2 := by
  cases uplink with
  | up l => exact ⟨⟨_, rfl⟩, refl_of (Noted.KeepsTo n) w⟩
  | down e => exact ⟨⟨_, rfl⟩, refl_of (Noted.KeepsTo n) w⟩
  | coming result =>
    have hawait : Noted.KeepsTo n w ((Network.noting net limit).await w).2 := (net limit).keepsTo_await n w
    simp only [take]
    cases h : (Network.noting net limit).await w with
    | mk ended w' =>
      rw [h] at hawait
      cases ended with
      | true => exact (stays_arrive net n result w').of_keepsTo hawait
      | false => exact ⟨⟨_, rfl⟩, hawait⟩

theorem stays_carry (uplink : Uplink) (command : Command) (l : Link) (w : Noted σ) :
    Stays n w (carry (Network.noting net) limit command l (.managed n uplink) w).2.1
      (carry (Network.noting net) limit command l (.managed n uplink) w).2.2 := by
  have hrequest : Noted.KeepsTo n w ((Network.noting net limit).request l command w).2 :=
    ⟨0, (net limit).leads_request_noted n l command w⟩
  simp only [carry]
  cases h : (Network.noting net limit).request l command w with
  | mk result w' =>
    rw [h] at hrequest
    cases result with
    | ok r => exact ⟨⟨_, rfl⟩, hrequest⟩
    | error halt =>
      cases halt with
      | waiting => exact ⟨⟨_, rfl⟩, hrequest⟩
      | failed e =>
        simp only
        cases e.spoilsConnection with
        | false => exact ⟨⟨_, rfl⟩, hrequest⟩
        | true => exact (stays_reopen net n w').of_keepsTo hrequest

/-- A managed connection stays with its node, which it dials again where its link is spoilt. -/
theorem stays_run {c : Connection} (hc : c.IsTo n) (command : Command) (w : Noted σ) :
    Stays n w (c.run (Network.noting net) limit command w).2.1 (c.run (Network.noting net) limit command w).2.2 := by
  obtain ⟨uplink, rfl⟩ := hc
  have htake := stays_take net limit n uplink w
  unfold run
  cases h : take (Network.noting net) limit (.managed n uplink) w with
  | mk result rest =>
    obtain ⟨c', w'⟩ := rest
    rw [h] at htake
    obtain ⟨⟨uplink', rfl⟩, hkeeps⟩ := htake
    cases result with
    | error halt => exact ⟨⟨uplink', rfl⟩, hkeeps⟩
    | ok l => exact (stays_carry net limit n uplink' command l w').of_keepsTo hkeeps

end Connection

/-! ## Handles to one node -/

namespace LiveHandle

/-- The handle is one to the node, and so is its connection. -/
structure KeepsTo (n : Node) (h : LiveHandle Connection) : Prop where
  plan : h.descriptor.plan = .single n
  clientName : h.descriptor.options.clientName = none
  dialTimeout : h.descriptor.options.dialTimeout = none
  connection : ∀ c, h.slot.connection = some c → c.IsTo n

variable (net : Option Duration → Network σ) {n : Node} {h : LiveHandle Connection}

/-- A handle without a connection dials its node when it is given a command. -/
theorem connect_of_keepsTo (hkeeps : KeepsTo n h) :
    h.connect (Network.transport net) = Connection.toNode (Network.limited net none) n := by
  show Connection.ofPlan (Network.limited net) h.descriptor.options.dialTimeout h.descriptor.options.clientName
    h.descriptor.plan = _
  rw [hkeeps.clientName, hkeeps.plan, hkeeps.dialTimeout]
  exact bind_pure (Connection.toNode (Network.limited net none) n)

theorem keepsTo_settle (hkeeps : KeepsTo n h) {c : Connection} {generation : UInt64}
    (hcurrent : h.slot.current = some (c, generation)) {c' : Connection} (hc' : c'.IsTo n) (outcome : Outcome Reply) :
    KeepsTo n (h.settle generation c' outcome) where
  plan := by rw [descriptor_settle, hkeeps.plan]
  clientName := by rw [descriptor_settle, hkeeps.clientName]
  dialTimeout := by rw [descriptor_settle, hkeeps.dialTimeout]
  connection := by
    intro c hc
    rw [connection_settle hcurrent] at hc
    split at hc
    · cases hc
    · exact Option.some.inj hc ▸ hc'

theorem keepsTo_of_connection (hkeeps : KeepsTo n h) {c : Connection} (hc : h.slot.connection = some c)
    (command : Command) (w : Noted σ) :
    KeepsTo n (h.query (Network.transport (Network.noting net)) command w).2.1 ∧
      Noted.KeepsTo n w (h.query (Network.transport (Network.noting net)) command w).2.2 := by
  have hstays := Connection.stays_run (Network.limited net) h.descriptor.options.responseTimeout n
    (hkeeps.connection c hc) command w
  rw [← Network.limited_noting] at hstays
  rw [query_of_connection _ hc]
  exact ⟨keepsTo_settle hkeeps (Slot.current_eq_some_iff.2 ⟨hc, rfl⟩) hstays.isTo _, hstays.keepsTo⟩

/-- A command keeps the handle to its node, and is preceded by dialling where there is no connection. -/
theorem keepsTo_query (hkeeps : KeepsTo n h) (command : Command) (w : Noted σ) :
    KeepsTo n (h.query (Network.transport (Network.noting net)) command w).2.1 ∧
      ∃ times, Dials n times w (h.query (Network.transport (Network.noting net)) command w).2.2 ∧
        (h.slot.connection = none → 0 < times) := by
  cases hc : h.slot.connection with
  | some c =>
    obtain ⟨hkeeps', times, hdials⟩ := keepsTo_of_connection net hkeeps hc command w
    exact ⟨hkeeps', times, hdials, nofun⟩
  | none =>
    have hopens : h.connect (Network.transport (Network.noting net)) =
        Connection.toNode (Network.limited net none).noted n := by
      rw [connect_of_keepsTo _ hkeeps, Network.limited_noting]
      rfl
    obtain ⟨times, hpos, hdials⟩ := Connection.dials_toNode (Network.limited net none) n w
    rw [← hopens] at hdials
    cases hconnect : h.connect (Network.transport (Network.noting net)) w with
    | mk result w' =>
      rw [hconnect] at hdials
      cases result with
      | error halt =>
        rw [query_of_error _ hc hconnect]
        exact ⟨hkeeps, times, hdials, fun _ => hpos⟩
      | ok c =>
        have hto : c.IsTo n := by
          rw [hopens] at hconnect
          exact Connection.isTo_of_toNode _ n w c (by rw [hconnect])
        have hopened : KeepsTo n { h with slot := h.slot.install c } :=
          ⟨hkeeps.plan, hkeeps.clientName, hkeeps.dialTimeout, fun c' hc' => Option.some.inj hc' ▸ hto⟩
        obtain ⟨hkeeps', more, hmore⟩ := keepsTo_of_connection net hopened rfl command w'
        rw [query_of_ok _ hc hconnect]
        exact ⟨hkeeps', times + more, hdials.trans hmore, fun _ => Nat.lt_add_right more hpos⟩

/-- A command and what comes after it. -/
theorem keepsTo_run (hkeeps : KeepsTo n h) (visits : List (Visit Connection)) (commands : List Command)
    (w : Noted σ) :
    ∃ times, Dials n times w (Service.run (Network.transport (Network.noting net)) ⟨h, w, visits⟩ commands).world ∧
      (commands ≠ [] → h.slot.connection = none → 0 < times) := by
  induction commands generalizing h visits w with
  | nil => exact ⟨0, refl_of (Dials n 0) w, fun hne => absurd rfl hne⟩
  | cons command rest ih =>
    obtain ⟨hkeeps', times, hdials, hpos⟩ := keepsTo_query net hkeeps command w
    obtain ⟨more, hmore, _⟩ := ih hkeeps'
      (visits ++ [Service.visit (Network.transport (Network.noting net)) ⟨h, w, visits⟩ command])
      (h.query (Network.transport (Network.noting net)) command w).2.2
    exact ⟨times + more, hdials.trans hmore, fun _ hempty => Nat.lt_add_right more (hpos hempty)⟩

/-! ## Handles of URLs -/

theorem keepsTo_new (h : Address.IsBare n.host) : KeepsTo n.checked (.new (Descriptor.ofNode n h)) where
  plan := Descriptor.plan_ofNode h
  clientName := rfl
  dialTimeout := rfl
  connection := nofun

/-- URLs are read by `Url.node`, and the hosts that it finds may stand in an address. For whatever reads URLs and finds
such hosts only: a string that names a node as a URL has a descriptor, whose one address gives the endpoint of the node
back. A handle to it dials the node and no other over any network, with TLS exactly where the URL asks for it and with
the database and the credentials of the URL. Every other string is refused as a URL. -/
theorem dials_node_of_url :
    (Descriptor.ofUrl = Descriptor.ofUrlBy Url.node ∧ ∀ url n, Url.node url = .ok n → Address.IsBare n.host) ∧
    ∀ read : String → Except UrlFault Node, (∀ url n, read url = .ok n → Address.IsBare n.host) → ∀ url : String,
      match read url with
      | .error fault => Descriptor.ofUrlBy read url = .error (.invalidUrl fault)
      | .ok n =>
        ∃ d, Descriptor.ofUrlBy read url = .ok d ∧ d.addresses = [Address.join n.host n.port] ∧ d.mode = .single ∧
          d.endpoints = [n.endpoint] ∧
          ∃ m : Node, m.endpoint = n.endpoint ∧ m.security.isTls = n.security.isTls ∧ m.database = n.database ∧
            m.username = n.username ∧ m.password = n.password ∧
            ∀ (σ : Type) (net : Option Duration → Network σ),
              (LiveHandle.new d).connect (Network.transport net) = Connection.toNode (Network.limited net none) m ∧
              ∀ (world : σ) (commands : List Command),
                let s := Service.run (Network.transport (Network.noting net)) ⟨.new d, ⟨world, []⟩, []⟩ commands
                (∀ x ∈ s.world.dialled, x = m) ∧ (commands ≠ [] → m ∈ s.world.dialled) := by
  refine ⟨⟨rfl, fun _ _ => Url.bare_of_node⟩, ?_⟩
  intro read hread url
  cases hurl : read url with
  | error fault =>
    show Descriptor.ofUrlBy read url = _
    rw [Descriptor.ofUrlBy, hurl]
  | ok n =>
    have hbare := hread url n hurl
    have hkeeps := keepsTo_new hbare
    refine ⟨Descriptor.ofNode n hbare, Descriptor.ofUrlBy_of_node hbare hurl, rfl, rfl, Descriptor.endpoints_ofNode hbare,
      n.checked, rfl, n.isTls_checked, rfl, rfl, rfl, ?_⟩
    intro σ net
    refine ⟨connect_of_keepsTo net hkeeps, ?_⟩
    intro world commands s
    obtain ⟨times, hdials, hpos⟩ := keepsTo_run net hkeeps [] commands ⟨world, []⟩
    have hdialled : s.world.dialled = List.replicate times n.checked := hdials
    rw [hdialled]
    refine ⟨fun x hx => List.eq_of_mem_replicate hx, ?_⟩
    intro hne
    exact List.mem_replicate.2 ⟨Nat.pos_iff_ne_zero.1 (hpos hne rfl), rfl⟩

/-- The host is an IPv6 address, which stands in brackets in the URL and in the address and without them otherwise. -/
theorem dials_node_of_url_ipv6 :
    ∃ d, Descriptor.ofUrl "rediss://app:pw@[2001:db8::1]:6380/2" = .ok d ∧ d.addresses = ["[2001:db8::1]:6380"] ∧
      d.endpoints = [⟨"2001:db8::1", 6380⟩] ∧
      ∃ m ∈ (Service.run (Network.transport (Network.noting ScriptedServer.network))
          ⟨.new d, ⟨{ port := 1 }, []⟩, []⟩ [.ping]).world.dialled,
        m.endpoint = ⟨"2001:db8::1", 6380⟩ ∧ m.security.isTls = true ∧ m.database = 2 ∧ m.username = some "app" ∧
          m.password = some "pw" := by
  have hnode : Url.node "rediss://app:pw@[2001:db8::1]:6380/2" =
      .ok ⟨"2001:db8::1", 6380, .verified, some "app", some "pw", 2⟩ := by decide +kernel
  have hjoin : Address.join "2001:db8::1" 6380 = "[2001:db8::1]:6380" := by decide +kernel
  obtain ⟨⟨hofUrl, hbare⟩, hread⟩ := dials_node_of_url
  have hdials := hread Url.node hbare "rediss://app:pw@[2001:db8::1]:6380/2"
  rw [hnode] at hdials
  obtain ⟨d, hd, haddresses, _, hendpoints, m, hendpoint, htls, hdatabase, husername, hpassword, hrun⟩ := hdials
  obtain ⟨_, hcommands⟩ := hrun ScriptedServer ScriptedServer.network
  obtain ⟨_, hdialled⟩ := hcommands { port := 1 } [.ping]
  rw [hjoin] at haddresses
  rw [← hofUrl] at hd
  exact ⟨d, hd, haddresses, hendpoints, m, hdialled (List.cons_ne_nil _ _), hendpoint, htls, hdatabase, husername,
    hpassword⟩

end LiveHandle

end Tether
