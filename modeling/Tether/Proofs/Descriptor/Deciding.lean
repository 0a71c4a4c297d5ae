import Tether.Proofs.Descriptor.FieldTypes
import Tether.Proofs.Descriptor.New

namespace Tether

/-! # What becomes of an object of options

We say of every object of options whether there is a descriptor for it, which one it is, and which of several errors is
told where there is none (`Descriptor.Decided`), without reading member after member:

* `ConnectionSpec.ofMembers_eq_ok_iff`: an object is read as the options that it spells;
* `ConnectionSpec.ofMembers_eq_error_iff`: and where it spells none, the misfit with the least key is told;
* `Descriptor.decided_iff`: then the mode, the addresses and the name of the master decide, in this order.
-/

namespace SpecField

theorem ofName?_name (f : SpecField) : ofName? f.name = some f := by
  cases f <;> decide

theorem name_injective {f g : SpecField} (h : f.name = g.name) : f = g := by
  have hf := ofName?_name f
  rw [h, ofName?_name g] at hf
  exact (Option.some.inj hf).symm

end SpecField

namespace Json

variable {members : List (String × Json)}

theorem lookup_of_mem (h : Ascending members) {m : String × Json} (hm : m ∈ members) :
    members.lookup m.1 = some m.2 := by
  obtain ⟨before, after, rfl⟩ := List.append_of_mem hm
  refine List.lookup_eq_some_iff.2 ⟨before, after, rfl, ?_⟩
  intro m' hm'
  have hlt : m'.1 < m.1 := (List.pairwise_append.1 h).2.2 m' hm' m List.mem_cons_self
  exact bne_iff_ne.2 hlt.ne'

theorem mem_of_lookup {key : String} {j : Json} (h : members.lookup key = some j) : (key, j) ∈ members := by
  obtain ⟨before, after, rfl, _⟩ := List.lookup_eq_some_iff.1 h
  simp

end Json

namespace ConnectionSpec

open Json

/-! ## Members -/

/-- The key is that of a field, and the value spells one of its type. -/
def Fits (m : String × Json) : Prop := ∃ (f : SpecField) (v : f.type.Value), m.1 = f.name ∧ f.type.Spells v m.2

theorem setMember_of_fits {m : String × Json} (hm : m.2.Ordered) {f : SpecField} {v : f.type.Value}
    (hname : m.1 = f.name) (hv : f.type.Spells v m.2) (s : ConnectionSpec) :
    ∃ t, s.setMember m = .ok t ∧ t.value f = v ∧ ∀ g, g ≠ f → t.value g = s.value g := by
  obtain ⟨t, ht, hvalues⟩ := set_of_ok ((FieldType.read_eq_ok_iff hm f.type v).2 hv) s
  refine ⟨t, ?_, hvalues⟩
  unfold setMember
  rw [hname, SpecField.ofName?_name]
  exact ht

/-- What is wrong with a member does not depend on what was read before. -/
theorem setMember_of_not_fits {m : String × Json} (hm : m.2.Ordered) (h : ¬Fits m) :
    ∃ cause, ∀ s : ConnectionSpec, s.setMember m = .error cause := by
  unfold setMember
  cases hname : SpecField.ofName? m.1 with
  | none => exact ⟨_, fun _ => rfl⟩
  | some f =>
    cases hread : f.type.read m.2.fieldReaders with
    | ok v =>
      have hspells : f.type.Spells v m.2 := (FieldType.read_eq_ok_iff hm f.type v).1 hread
      exact absurd ⟨f, v, (SpecField.name_of_ofName? hname).symm, hspells⟩ h
    | error cause => exact ⟨cause, fun s => set_of_error hread s⟩

/-! ## Objects -/

variable {members : List (String × Json)}

/-- The value is that of the member with the key of the field, or what it was before if there is none. -/
def ValueFrom (members : List (String × Json)) (s t : ConnectionSpec) (f : SpecField) : Prop :=
  match members.lookup f.name with
  | some j => f.type.Spells (t.value f) j
  | none => t.value f = s.value f

/-- The first member gives its field a value, which stays as the key does not come again. -/
theorem valueFrom_cons_self {s t u : ConnectionSpec} {f : SpecField} {j : Json} (hgone : members.lookup f.name = none)
    (hspells : f.type.Spells (u.value f) j) (h : ValueFrom members u t f) : ValueFrom ((f.name, j) :: members) s t f := by
  unfold ValueFrom at h ⊢
  rw [hgone] at h
  rw [List.lookup_cons_self]
  show f.type.Spells (t.value f) j
  rw [show t.value f = u.value f from h]
  exact hspells

/-- The first member does nothing to other fields. -/
theorem valueFrom_cons_of_ne {s t u : ConnectionSpec} {f : SpecField} {key : String} (hne : f.name ≠ key) (j : Json)
    (hsame : u.value f = s.value f) (h : ValueFrom members u t f) : ValueFrom ((key, j) :: members) s t f := by
  unfold ValueFrom at h ⊢
  rw [List.lookup_cons, beq_false_of_ne hne]
  cases hl : members.lookup f.name with
  | some j' =>
    rw [hl] at h
    exact h
  | none =>
    rw [hl] at h
    exact h.trans hsame

/-- Members that fit are all read, and the fields that they do not set stay as they are. -/
theorem foldlM_setMember (h : (Json.object members).Ordered) (hfits : ∀ m ∈ members, Fits m) (s : ConnectionSpec) :
    ∃ t, members.foldlM setMember s = .ok t ∧ ∀ f, ValueFrom members s t f := by
  induction members generalizing s with
  | nil => exact ⟨s, rfl, fun _ => rfl⟩
  | cons m rest ih =>
    obtain ⟨key, j⟩ := m
    cases h with
    | object hkeys hvalues =>
      obtain ⟨hfirst, hrest⟩ := List.pairwise_cons.1 hkeys
      obtain ⟨f, v, hname, hv⟩ := hfits (key, j) List.mem_cons_self
      obtain rfl : key = f.name := hname
      obtain ⟨u, hu, huf, hother⟩ := setMember_of_fits (hvalues (f.name, j) List.mem_cons_self) rfl hv s
      obtain ⟨t, ht, hfrom⟩ := ih (.object hrest fun m hm => hvalues m (List.mem_cons_of_mem _ hm))
        (fun m hm => hfits m (List.mem_cons_of_mem _ hm)) u
      have hgone : rest.lookup f.name = none := by
        refine List.lookup_eq_none_iff.2 ?_
        intro m hm
        exact bne_iff_ne.2 (hfirst m hm).ne
      refine ⟨t, ?_, ?_⟩
      · rw [List.foldlM_cons, hu]
        exact ht
      · intro g
        by_cases hgf : g = f
        · rw [hgf]
          exact valueFrom_cons_self hgone (huf.symm ▸ hv) (hfrom f)
        · have hne : g.name ≠ f.name := fun heq => hgf (SpecField.name_injective heq)
          exact valueFrom_cons_of_ne hne j (hother g hgf) (hfrom g)

/-- The members spell these options: each is a field, and a field that is left out is as in no options at all. -/
structure IsSpelled (s : ConnectionSpec) (members : List (String × Json)) : Prop where
  known : ∀ m ∈ members, ∃ f : SpecField, m.1 = f.name
  value : ∀ f, ValueFrom members {} s f

theorem IsSpelled.fits {s : ConnectionSpec} (hs : s.IsSpelled members) (h : (Json.object members).Ordered) :
    ∀ m ∈ members, Fits m := by
  intro m hm
  cases h with
  | object hkeys _ =>
    obtain ⟨f, hname⟩ := hs.known m hm
    have hvalue := hs.value f
    unfold ValueFrom at hvalue
    rw [← hname, lookup_of_mem hkeys hm] at hvalue
    exact ⟨f, s.value f, hname, hvalue⟩

/-- The members spell at most one. -/
theorem IsSpelled.unique {s t : ConnectionSpec} (hs : s.IsSpelled members) (ht : t.IsSpelled members)
    (h : (Json.object members).Ordered) : s = t := by
  refine eq_of_value ?_
  intro f
  have hsf := hs.value f
  have htf := ht.value f
  unfold ValueFrom at hsf htf
  cases h with
  | object _ hvalues =>
    cases hl : members.lookup f.name with
    | some j =>
      rw [hl] at hsf htf
      exact FieldType.eq_of_spells (hvalues _ (mem_of_lookup hl)) hsf htf
    | none =>
      rw [hl] at hsf htf
      exact hsf.trans htf.symm

theorem exists_isSpelled (h : (Json.object members).Ordered) (hfits : ∀ m ∈ members, Fits m) :
    ∃ s, ofMembers members = .ok s ∧ s.IsSpelled members := by
  obtain ⟨s, hs, hvalue⟩ := foldlM_setMember h hfits {}
  refine ⟨s, hs, ?_, hvalue⟩
  intro m hm
  obtain ⟨f, _, hname, _⟩ := hfits m hm
  exact ⟨f, hname⟩

/-- The member does not fit, and those with smaller keys do. -/
structure IsLeastMisfit (members : List (String × Json)) (m : String × Json) : Prop where
  mem : m ∈ members
  not_fits : ¬Fits m
  least : ∀ m' ∈ members, ¬Fits m' → m.1 ≤ m'.1

theorem exists_isLeastMisfit (h : Ascending members) (hmisfit : ¬∀ m ∈ members, Fits m) :
    ∃ m, IsLeastMisfit members m := by
  induction members with
  | nil => exact absurd (fun _ hm => nomatch hm) hmisfit
  | cons first rest ih =>
    obtain ⟨hfirst, hrest⟩ := List.pairwise_cons.1 h
    by_cases hfits : Fits first
    · obtain ⟨m, hm, hnot, hleast⟩ := ih hrest fun hall => hmisfit (List.forall_mem_cons.2 ⟨hfits, hall⟩)
      refine ⟨m, List.mem_cons_of_mem first hm, hnot, ?_⟩
      intro m' hm' hnot'
      rcases List.mem_cons.1 hm' with rfl | hm'
      · exact absurd hfits hnot'
      · exact hleast m' hm' hnot'
    · refine ⟨first, List.mem_cons_self, hfits, ?_⟩
      intro m' hm' _
      rcases List.mem_cons.1 hm' with rfl | hm'
      · exact le_refl _
      · exact (hfirst m' hm').le

/-- It is what the object is refused for, as it would be alone. -/
theorem ofMembers_of_isLeastMisfit (h : (Json.object members).Ordered) {m : String × Json}
    (hm : IsLeastMisfit members m) : ∃ cause, ofMembers members = .error cause ∧ ofMembers [m] = .error cause := by
  obtain ⟨before, after, rfl⟩ := List.append_of_mem hm.mem
  cases h with
  | object hkeys hvalues =>
    obtain ⟨hbefore, _, hlt⟩ := List.pairwise_append.1 hkeys
    have hfits : ∀ b ∈ before, Fits b := by
      intro b hb
      by_contra hnot
      exact absurd (hlt b hb m List.mem_cons_self) (not_lt.2 (hm.least b (List.mem_append_left _ hb) hnot))
    obtain ⟨s, hs, _⟩ := exists_isSpelled (.object hbefore fun b hb => hvalues b (List.mem_append_left _ hb)) hfits
    obtain ⟨cause, hcause⟩ := setMember_of_not_fits (hvalues m hm.mem) hm.not_fits
    refine ⟨cause, ?_, ?_⟩
    · rw [ofMembers] at hs ⊢
      rw [List.foldlM_append, hs]
      show (do let t ← setMember s m; after.foldlM setMember t) = _
      rw [hcause s]
      rfl
    · rw [ofMembers, List.foldlM_cons, hcause]
      rfl

/-- An object is read as the options that it spells. -/
theorem ofMembers_eq_ok_iff (h : (Json.object members).Ordered) {s : ConnectionSpec} :
    ofMembers members = .ok s ↔ s.IsSpelled members := by
  constructor
  · intro hs
    by_cases hfits : ∀ m ∈ members, Fits m
    · obtain ⟨t, ht, hspelled⟩ := exists_isSpelled h hfits
      rw [Except.ok.inj (hs.symm.trans ht)]
      exact hspelled
    · obtain ⟨m, hm⟩ := exists_isLeastMisfit h.ascending hfits
      obtain ⟨cause, hcause, _⟩ := ofMembers_of_isLeastMisfit h hm
      rw [hs] at hcause
      cases hcause
  · intro hs
    obtain ⟨t, ht, hspelled⟩ := exists_isSpelled h (hs.fits h)
    rw [hs.unique hspelled h]
    exact ht

/-- An object that spells none is refused for its least misfit. -/
theorem ofMembers_eq_error_iff (h : (Json.object members).Ordered) {cause : Misfit} :
    ofMembers members = .error cause ↔ ∃ m, IsLeastMisfit members m ∧ ofMembers [m] = .error cause := by
  constructor
  · intro hcause
    have hmisfit : ¬∀ m ∈ members, Fits m := by
      intro hfits
      obtain ⟨s, hs, _⟩ := exists_isSpelled h hfits
      rw [hcause] at hs
      cases hs
    obtain ⟨m, hm⟩ := exists_isLeastMisfit h.ascending hmisfit
    obtain ⟨cause', hall, hone⟩ := ofMembers_of_isLeastMisfit h hm
    rw [Except.error.inj (hcause.symm.trans hall)]
    exact ⟨m, hm, hone⟩
  · rintro ⟨m, hm, hone⟩
    obtain ⟨cause', hall, hone'⟩ := ofMembers_of_isLeastMisfit h hm
    rw [Except.error.inj (hone.symm.trans hone')]
    exact hall

/-! ## Options -/

variable {s : ConnectionSpec}

/-- The options select the mode. -/
def Selects (s : ConnectionSpec) : Mode → Prop
  | .single => s.masterName = none ∧ s.cluster = none
  | .sentinel name => s.masterName = some name ∧ s.cluster = none
  | .cluster o => s.masterName = none ∧ s.cluster = some o

theorem mode_eq_ok_iff {mode : Mode} : s.mode = .ok mode ↔ s.Selects mode := by
  unfold ConnectionSpec.mode
  cases hmaster : s.masterName <;> cases hcluster : s.cluster <;> cases mode <;> simp [Selects, hmaster, hcluster]

theorem mode_eq_error_iff {e : DescriptorError} :
    s.mode = .error e ↔ e = .conflictingModes ∧ s.masterName ≠ none ∧ s.cluster ≠ none := by
  unfold ConnectionSpec.mode
  cases s.masterName <;> cases s.cluster <;> simp [eq_comm]

/-- The settings of the connection that the options ask for; limits are so many milliseconds. -/
structure Gives (s : ConnectionSpec) (o : ConnectionOptions) : Prop where
  username : o.username = s.username
  password : o.password = s.password
  database : o.database = s.database.getD 0
  clientName : o.clientName = s.clientName
  tls : o.tls = s.tls
  sentinelUsername : o.sentinelUsername = s.sentinelUsername
  sentinelPassword : o.sentinelPassword = s.sentinelPassword
  dialTimeout : o.dialTimeout.map Duration.toNanos = s.dialTimeout.map (·.toNat * 1000000)
  responseTimeout : o.responseTimeout.map Duration.toNanos = s.responseTimeout.map (·.toNat * 1000000)

end ConnectionSpec

namespace Duration

theorem toNanos_ofMillis (ms : UInt64) : (ofMillis ms).toNanos = ms.toNat * 1000000 := by
  have hseconds : (ms / 1000).toNat = ms.toNat / 1000 := UInt64.toNat_div ms 1000
  show (ms / 1000).toNat * 1000000000 + ms.toNat % 1000 * 1000000 = _
  rw [hseconds]
  omega

/-- A span is told by its length. -/
theorem eq_of_toNanos {d e : Duration} (h : d.toNanos = e.toNanos) : d = e := by
  obtain ⟨seconds, nanos, hnanos⟩ := d
  obtain ⟨seconds', nanos', hnanos'⟩ := e
  have hlength : seconds.toNat * 1000000000 + nanos = seconds'.toNat * 1000000000 + nanos' := h
  have hseconds : seconds = seconds' := UInt64.toNat_inj.1 (by omega)
  have hnanos : nanos = nanos' := by omega
  subst hseconds hnanos
  rfl

theorem map_toNanos_eq_iff {limit : Option Duration} {ms : Option UInt64} :
    limit.map toNanos = ms.map (·.toNat * 1000000) ↔ limit = ms.map ofMillis := by
  cases limit with
  | none =>
    cases ms with
    | none => exact ⟨fun _ => rfl, fun _ => rfl⟩
    | some n => exact ⟨nofun, nofun⟩
  | some d =>
    cases ms with
    | none => exact ⟨nofun, nofun⟩
    | some n =>
      simp only [Option.map_some, Option.some.injEq, ← toNanos_ofMillis]
      constructor
      · exact eq_of_toNanos
      · rintro rfl
        rfl

end Duration

theorem ConnectionSpec.gives_iff {s : ConnectionSpec} {o : ConnectionOptions} : s.Gives o ↔ o = s.options := by
  constructor
  · intro h
    cases o
    simp only [options, ConnectionOptions.mk.injEq]
    exact ⟨h.username, h.password, h.database, h.clientName, h.tls, h.sentinelUsername, h.sentinelPassword,
      Duration.map_toNanos_eq_iff.1 h.dialTimeout, Duration.map_toNanos_eq_iff.1 h.responseTimeout⟩
  · rintro rfl
    exact ⟨rfl, rfl, rfl, rfl, rfl, rfl, rfl, Duration.map_toNanos_eq_iff.2 rfl, Duration.map_toNanos_eq_iff.2 rfl⟩

/-! ## What is decided -/

namespace Descriptor

open ConnectionSpec

variable {members : List (String × Json)}

/-- What becomes of an object of options. -/
inductive Decided (members : List (String × Json)) : Except DescriptorError Descriptor → Prop where
  /-- Some member does not fit: the one with the least key is told, as it would be alone. -/
  | misfit (m : String × Json) (cause : Json.Misfit) (hm : IsLeastMisfit members m)
    (hcause : ofJson (.object [m]) = .error (.malformed (.misfit cause))) :
    Decided members (.error (.malformed (.misfit cause)))
  | conflictingModes (s : ConnectionSpec) (hs : s.IsSpelled members) (hmaster : s.masterName ≠ none)
    (hcluster : s.cluster ≠ none) : Decided members (.error .conflictingModes)
  | missingAddresses (s : ConnectionSpec) (mode : Mode) (hs : s.IsSpelled members) (hmode : s.Selects mode)
    (hnone : s.addresses = []) : Decided members (.error .missingAddresses)
  /-- The first address that does not split is told. -/
  | invalidAddress (s : ConnectionSpec) (mode : Mode) (before after : List String) (a : String) (fault : Address.Fault)
    (hs : s.IsSpelled members) (hmode : s.Selects mode) (haddresses : s.addresses = before ++ a :: after)
    (hbefore : ∀ b ∈ before, ∃ e, Address.split b = .ok e) (hfault : Address.split a = .error fault) :
    Decided members (.error (.invalidAddress a fault))
  | emptyMasterName (s : ConnectionSpec) (hs : s.IsSpelled members) (hmode : s.Selects (.sentinel ""))
    (hne : s.addresses ≠ []) (hsplit : ∀ a ∈ s.addresses, ∃ e, Address.split a = .ok e) :
    Decided members (.error (.malformed .emptyMasterName))
  | accepted (s : ConnectionSpec) (d : Descriptor) (hs : s.IsSpelled members) (hmode : s.Selects d.mode)
    (haddresses : d.addresses = s.addresses) (hoptions : s.Gives d.options) : Decided members (.ok d)

theorem ofJson_of_ok {s : ConnectionSpec} (h : ofMembers members = .ok s) :
    ofJson (.object members) = s.toDescriptor := by
  simp only [ofJson, h]

theorem ofJson_of_error {cause : Json.Misfit} (h : ofMembers members = .error cause) :
    ofJson (.object members) = .error (.malformed (.misfit cause)) := by
  simp only [ofJson, h]

theorem toDescriptor_of_selects {s : ConnectionSpec} {mode : Mode} (h : s.Selects mode) :
    s.toDescriptor = new s.addresses mode s.options := by
  unfold toDescriptor
  rw [mode_eq_ok_iff.2 h]
  rfl

theorem toDescriptor_of_conflict {s : ConnectionSpec} (hmaster : s.masterName ≠ none) (hcluster : s.cluster ≠ none) :
    s.toDescriptor = .error .conflictingModes := by
  unfold toDescriptor
  rw [mode_eq_error_iff.2 ⟨rfl, hmaster, hcluster⟩]
  rfl

/-- What is decided is what is answered. -/
theorem ofJson_of_decided (h : (Json.object members).Ordered) {r : Except DescriptorError Descriptor}
    (hr : Decided members r) : ofJson (.object members) = r := by
  cases hr with
  | misfit m cause hm hcause =>
    obtain ⟨cause', hall, hone⟩ := ofMembers_of_isLeastMisfit h hm
    rw [ofJson_of_error hall, ← hcause, ofJson_of_error hone]
  | conflictingModes s hs hmaster hcluster =>
    rw [ofJson_of_ok ((ofMembers_eq_ok_iff h).2 hs), toDescriptor_of_conflict hmaster hcluster]
  | missingAddresses s mode hs hmode hnone =>
    rw [ofJson_of_ok ((ofMembers_eq_ok_iff h).2 hs), toDescriptor_of_selects hmode, hnone]
    rfl
  | invalidAddress s mode before after a fault hs hmode haddresses hbefore hfault =>
    rw [ofJson_of_ok ((ofMembers_eq_ok_iff h).2 hs), toDescriptor_of_selects hmode]
    exact new_of_firstFault?_eq_some (firstFault?_eq_some_iff.2 ⟨before, after, haddresses, hbefore, hfault⟩) _ _
  | emptyMasterName s hs hmode hne hsplit =>
    rw [ofJson_of_ok ((ofMembers_eq_ok_iff h).2 hs), toDescriptor_of_selects hmode]
    exact new_of_emptyMasterName hne
      (firstFault?_eq_none fun a ha => Address.isSome_endpoint?_iff.2 (hsplit a ha)) _
  | accepted s d hs hmode haddresses hoptions =>
    rw [ofJson_of_ok ((ofMembers_eq_ok_iff h).2 hs), toDescriptor_of_selects hmode]
    exact new_eq_ok_iff.2 ⟨haddresses, rfl, gives_iff.1 hoptions⟩

/-- Where the members spell options that select a mode, the parts decide. -/
theorem decided_new {s : ConnectionSpec} (hs : s.IsSpelled members) {mode : Mode} (hmode : s.Selects mode) :
    Decided members (new s.addresses mode s.options) := by
  by_cases hnone : s.addresses = []
  · have hmissing : new s.addresses mode s.options = .error .missingAddresses := dif_pos hnone
    rw [hmissing]
    exact .missingAddresses s mode hs hmode hnone
  · cases hfault : firstFault? s.addresses with
    | some p =>
      obtain ⟨before, after, haddresses, hbefore, hsplit⟩ := firstFault?_eq_some_iff.1 hfault
      rw [new_of_firstFault?_eq_some hfault]
      exact .invalidAddress s mode before after p.1 p.2 hs hmode haddresses hbefore hsplit
    | none =>
      have hsplit : ∀ a ∈ s.addresses, ∃ e, Address.split a = .ok e := fun a ha =>
        Address.isSome_endpoint?_iff.1 (endpoint_isSome_of_firstFault?_eq_none hfault a ha)
      by_cases hempty : mode = .sentinel ""
      · subst hempty
        rw [new_of_emptyMasterName hnone hfault]
        exact .emptyMasterName s hs hmode hnone hsplit
      · obtain ⟨d, hd⟩ : ∃ d, new s.addresses mode s.options = .ok d := exists_new_iff.2 ⟨hnone, hsplit, hempty⟩
        obtain ⟨haddresses, rfl, hoptions⟩ := new_eq_ok_iff.1 hd
        rw [hd]
        exact .accepted s d hs hmode haddresses (gives_iff.2 hoptions)

theorem decided_ofJson (h : (Json.object members).Ordered) : Decided members (ofJson (.object members)) := by
  cases hread : ofMembers members with
  | error cause =>
    obtain ⟨m, hm, hone⟩ := (ofMembers_eq_error_iff h).1 hread
    rw [ofJson_of_error hread]
    exact .misfit m cause hm (ofJson_of_error hone)
  | ok s =>
    have hs := (ofMembers_eq_ok_iff h).1 hread
    rw [ofJson_of_ok hread]
    cases hmode : s.mode with
    | error e =>
      obtain ⟨_, hmaster, hcluster⟩ := mode_eq_error_iff.1 hmode
      rw [toDescriptor_of_conflict hmaster hcluster]
      exact .conflictingModes s hs hmaster hcluster
    | ok mode =>
      have hselects := mode_eq_ok_iff.1 hmode
      rw [toDescriptor_of_selects hselects]
      exact decided_new hs hselects

/-- For every object of options it is decided which descriptor there is for it, or which error is told. -/
theorem decided_iff (h : (Json.object members).Ordered) (r : Except DescriptorError Descriptor) :
    Decided members r ↔ ofJson (.object members) = r := by
  constructor
  · exact ofJson_of_decided h
  · rintro rfl
    exact decided_ofJson h

/-- Options with a limit, and with a password that is left out. -/
def limited : List (String × Json) :=
  [("addresses", .array [.string "10.0.0.1:6379"]), ("dialTimeout", .number (.int 250)), ("password", .null)]

/-- The options that they spell. -/
def limitedSpec : ConnectionSpec := { addresses := ["10.0.0.1:6379"], dialTimeout := some 250 }

theorem decided_limited :
    (Json.object limited).Ordered ∧ ∃ d, ofJson (.object limited) = .ok d ∧ d.addresses = ["10.0.0.1:6379"] ∧
      d.mode = .single ∧ d.options.dialTimeout.map Duration.toNanos = some 250000000 := by
  have hkeys : Json.Ascending limited := by
    unfold Json.Ascending limited
    decide
  have hvalues : ∀ m ∈ limited, m.2.Ordered := by
    simp only [limited, List.forall_mem_cons]
    exact ⟨.array (by simpa using .string _), .number _, .null, List.forall_mem_nil _⟩
  have hordered : (Json.object limited).Ordered := .object hkeys hvalues
  have hspelled : limitedSpec.IsSpelled limited := by
    refine ⟨List.forall_mem_cons.2 ⟨⟨.addresses, rfl⟩, ?_⟩, ?_⟩
    · exact List.forall_mem_cons.2
        ⟨⟨.dialTimeout, rfl⟩, List.forall_mem_cons.2 ⟨⟨.password, rfl⟩, List.forall_mem_nil _⟩⟩
    · intro f
      cases f <;> rfl
  obtain ⟨d, hd⟩ : ∃ d, new limitedSpec.addresses .single limitedSpec.options = .ok d :=
    exists_new_iff.2 ⟨List.cons_ne_nil _ _,
      List.forall_mem_cons.2 ⟨⟨⟨"10.0.0.1", 6379⟩, by decide +kernel⟩, List.forall_mem_nil _⟩, Mode.noConfusion⟩
  obtain ⟨haddresses, hmode, hoptions⟩ := new_eq_ok_iff.1 hd
  have hgives : limitedSpec.Gives d.options := gives_iff.2 hoptions
  have hselects : limitedSpec.Selects d.mode := by
    rw [hmode]
    exact ⟨rfl, rfl⟩
  refine ⟨hordered, d, ?_, haddresses, hmode, hgives.dialTimeout⟩
  exact (decided_iff hordered (.ok d)).1 (.accepted limitedSpec d hspelled hselects haddresses hgives)

end Descriptor

end Tether
