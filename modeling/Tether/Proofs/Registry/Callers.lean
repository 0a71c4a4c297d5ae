import Mathlib.Logic.Function.Basic
import Tether.Proofs.Descriptor.New
import Tether.Proofs.Registry.Entries
import Tether.Proofs.Run

namespace Tether

/-! # Callers of one registry

Any number of callers use one registry at the same time. A call for a handle has two sections that nobody
interrupts: the look, and after a miss the entry, which looks again. Between the two any other caller may do
anything. We show:

* `inv_of_reachable`: whatever the order of the sections, the registry is the table that the same questions give
  one after another;
* `run_getOrCreate`: a call that nobody comes between is `Registry.getOrCreate`;
* `calls_are_atomic`: so all answers are those of the table, a handle is created at most once for a fingerprint,
  all calls for it get that handle, and no entry is replaced or removed.
-/

namespace SharedRegistry

/-! ## One operation at a time -/

/-- What a registry is asked. -/
inductive Question where
  | resolve (d : Descriptor)
  | get (f : Fingerprint)
  | contains (f : Fingerprint)
  | size
  | fingerprints

/-- What a registry answers. -/
inductive Finding where
  | handle (id : HandleId)
  | found (id : Option HandleId)
  | known (b : Bool)
  | count (n : Nat)
  | listed (fs : List Fingerprint)

/-- A map from fingerprints to handles, which are numbered as they come, and its fingerprints. -/
structure Table where
  find : Fingerprint → Option HandleId := fun _ => none
  keys : List Fingerprint := []

namespace Table

/-- Finds the handle of a fingerprint or puts in the next one, all at once. -/
def findOrInsert (t : Table) (f : Fingerprint) : Table × HandleId :=
  match t.find f with
  | some id => (t, id)
  | none => (⟨Function.update t.find f (some t.keys.length), t.keys ++ [f]⟩, t.keys.length)

/-- The answer to a question, and the table after it. -/
def answer (t : Table) : Question → Table × Finding
  | .resolve d => ((t.findOrInsert d.fingerprint).1, .handle (t.findOrInsert d.fingerprint).2)
  | .get f => (t, .found (t.find f))
  | .contains f => (t, .known (t.find f).isSome)
  | .size => (t, .count t.keys.length)
  | .fingerprints => (t, .listed (t.keys.mergeSort Fingerprint.le))

/-- The answers to questions that are asked one after another. -/
def answers (t : Table) : List Question → List Finding
  | [] => []
  | q :: rest => (t.answer q).2 :: (t.answer q).1.answers rest

/-- The table after questions. -/
def after (t : Table) (qs : List Question) : Table := qs.foldl (fun t q => (t.answer q).1) t

theorem after_concat (t : Table) (qs : List Question) (q : Question) :
    t.after (qs ++ [q]) = ((t.after qs).answer q).1 := by
  simp [after]

theorem answers_concat (t : Table) (qs : List Question) (q : Question) :
    t.answers (qs ++ [q]) = t.answers qs ++ [((t.after qs).answer q).2] := by
  induction qs generalizing t with
  | nil => rfl
  | cons p rest ih => simp [answers, after, ih]

end Table

/-! ## Many callers -/

variable {ι H : Type} [DecidableEq ι]

/-- A question of a caller that was answered. -/
structure Entry (ι : Type) where
  caller : ι
  question : Question
  finding : Finding

/-- A registry with its callers. -/
structure St (ι H : Type) where
  registry : Registry H := {}
  /-- The descriptor of a caller that has missed and has not entered yet. -/
  missed : ι → Option Descriptor := fun _ => none
  /-- The questions that were answered, in the order of the sections that answered them. -/
  log : List (Entry ι) := []
  events : List Event := []

namespace St

/-- A caller gets its answer. -/
def told (s : St ι H) (i : ι) (q : Question) (x : Finding) : St ι H := { s with log := s.log ++ [⟨i, q, x⟩] }

/-- A caller finds a handle at its look, and its call ends. -/
def hit (s : St ι H) (i : ι) (d : Descriptor) (id : HandleId) : St ι H :=
  { s.told i (.resolve d) (.handle id) with events := s.events ++ [.reusing d.fingerprint] }

/-- A caller finds nothing at its look. -/
def missedBy (s : St ι H) (i : ι) (d : Descriptor) : St ι H :=
  { s with missed := Function.update s.missed i (some d) }

/-- A caller that has missed enters, and its call ends. -/
def entered (create : Descriptor → H) (s : St ι H) (i : ι) (d : Descriptor) : St ι H :=
  let e := s.registry.enter create d
  { s.told i (.resolve d) (.handle e.handle) with
    registry := e.registry
    missed := Function.update s.missed i none
    events := s.events ++ e.events }

end St

/-- A section of some caller. A caller that has missed does nothing else before it enters. -/
inductive Step (create : Descriptor → H) : St ι H → St ι H → Prop where
  | hit (s : St ι H) (i : ι) (d : Descriptor) (id : HandleId) (hi : s.missed i = none)
      (hp : s.registry.probe d.fingerprint = some id) : Step create s (s.hit i d id)
  | miss (s : St ι H) (i : ι) (d : Descriptor) (hi : s.missed i = none)
      (hp : s.registry.probe d.fingerprint = none) : Step create s (s.missedBy i d)
  | enter (s : St ι H) (i : ι) (d : Descriptor) (hi : s.missed i = some d) :
      Step create s (s.entered create i d)
  | get (s : St ι H) (i : ι) (f : Fingerprint) (hi : s.missed i = none) :
      Step create s (s.told i (.get f) (.found (s.registry.probe f)))
  | contains (s : St ι H) (i : ι) (f : Fingerprint) (hi : s.missed i = none) :
      Step create s (s.told i (.contains f) (.known (s.registry.contains f)))
  | size (s : St ι H) (i : ι) (hi : s.missed i = none) :
      Step create s (s.told i .size (.count s.registry.size))
  | fingerprints (s : St ι H) (i : ι) (hi : s.missed i = none) :
      Step create s (s.told i .fingerprints (.listed s.registry.fingerprints))

/-- What any sections of any callers lead to, from an empty registry that nobody uses. -/
def Reachable (create : Descriptor → H) (s : St ι H) : Prop := Run (Step create) {} s

/-! ## What a section does -/

/-- The fingerprint for which a handle was created, if one was. -/
def created? : Event → Option Fingerprint
  | .creating f _ _ => some f
  | _ => none

/-- The fingerprints for which handles were created, in order. -/
def creations (events : List Event) : List Fingerprint := events.filterMap created?

@[simp] theorem creations_append (es fs : List Event) : creations (es ++ fs) = creations es ++ creations fs :=
  List.filterMap_append

@[simp] theorem creations_nil : creations [] = [] := rfl

@[simp] theorem creations_creating (f : Fingerprint) (mode : Mode) (addresses : List String) (es : List Event) :
    creations (.creating f mode addresses :: es) = f :: creations es := rfl

@[simp] theorem creations_reusing (f : Fingerprint) (es : List Event) :
    creations (.reusing f :: es) = creations es := rfl

@[simp] theorem creations_overtaken (f : Fingerprint) (es : List Event) :
    creations (.overtaken f :: es) = creations es := rfl

/-- A registry as a table. -/
def table (r : Registry H) : Table := ⟨r.probe, r.keys⟩

/-- What the table finds or inserts is found from then on. -/
theorem Table.find_findOrInsert (t : Table) (f : Fingerprint) :
    (t.findOrInsert f).1.find f = some (t.findOrInsert f).2 := by
  cases h : t.find f <;> simp [findOrInsert, h]

/-- Entering is finding or inserting. -/
theorem findOrInsert_table (create : Descriptor → H) {r : Registry H} (hr : r.WellFormed) (d : Descriptor) :
    (table r).findOrInsert d.fingerprint =
      (table (r.enter create d).registry, (r.enter create d).handle) := by
  cases h : r.probe d.fingerprint with
  | some id =>
    -- the handle is there, and nothing changes
    rw [Registry.enter_of_eq_some create h]
    simp [Table.findOrInsert, table, h]
  | none =>
    -- the new handle is numbered by the entries before it, as in the table
    have hfind : (r.insert create d).probe = Function.update r.probe d.fingerprint (some r.keys.length) := by
      funext f
      rw [Registry.probe_insert, Registry.created, hr.length_handles]
      by_cases hf : f = d.fingerprint
      · rw [hf, h]
        simp
      · simp [hf]
    rw [Registry.enter_of_eq_none create h]
    simp [Table.findOrInsert, table, h, hfind, Registry.created, hr.length_handles]

/-- Only an entry changes the registry. -/
theorem step_registry {create : Descriptor → H} {s s' : St ι H} (h : Step create s s') :
    s'.registry = s.registry ∨ ∃ d, s'.registry = (s.registry.enter create d).registry := by
  cases h with
  | enter i d hi => exact Or.inr ⟨d, rfl⟩
  | _ => exact Or.inl rfl

/-- A section leaves the table alone, or answers a question as the table does. -/
theorem step_log {create : Descriptor → H} {s s' : St ι H} (hr : s.registry.WellFormed) (h : Step create s s') :
    (s'.log = s.log ∧ s'.registry = s.registry) ∨
      ∃ e : Entry ι, s'.log = s.log ++ [e] ∧
        (table s.registry).answer e.question = (table s'.registry, e.finding) := by
  cases h with
  | miss i d hi hp => exact Or.inl ⟨rfl, rfl⟩
  | hit i d id hi hp =>
    -- the call is answered at its look
    refine Or.inr ⟨⟨i, .resolve d, .handle id⟩, rfl, ?_⟩
    have ht := findOrInsert_table create hr d
    rw [Registry.enter_of_eq_some create hp] at ht
    simp [Table.answer, ht, St.hit, St.told]
  | enter i d hi =>
    -- the call is answered where it enters, whatever came in since its look
    refine Or.inr ⟨⟨i, .resolve d, .handle (s.registry.enter create d).handle⟩, rfl, ?_⟩
    simp [Table.answer, findOrInsert_table create hr d, St.entered]
  | get i f hi => exact Or.inr ⟨_, rfl, rfl⟩
  | contains i f hi => exact Or.inr ⟨_, rfl, rfl⟩
  | size i hi =>
    refine Or.inr ⟨_, rfl, ?_⟩
    simp [Table.answer, table, St.told]
  | fingerprints i hi => exact Or.inr ⟨_, rfl, rfl⟩

/-- Handles are created for the fingerprints that come into the registry. -/
theorem step_creations {create : Descriptor → H} {s s' : St ι H} (h : Step create s s')
    (hs : creations s.events = s.registry.keys) : creations s'.events = s'.registry.keys := by
  cases h with
  | hit i d id hi hp => simpa [St.hit, St.told] using hs
  | enter i d hi =>
    cases hp : s.registry.probe d.fingerprint with
    | some id => simpa [St.entered, Registry.enter_of_eq_some create hp] using hs
    | none => simpa [St.entered, Registry.enter_of_eq_none create hp] using hs
  | _ => exact hs

/-! ## The invariant -/

/-- What holds between any two sections. -/
structure Inv (create : Descriptor → H) (s : St ι H) : Prop where
  wellFormed : s.registry.WellFormed
  findings : s.log.map (·.finding) = Table.answers {} (s.log.map (·.question))
  after : Table.after {} (s.log.map (·.question)) = table s.registry
  calls : ∀ i d id, ⟨i, .resolve d, .handle id⟩ ∈ s.log → s.registry.probe d.fingerprint = some id
  creations : creations s.events = s.registry.keys
  handles : ∃ made : List Descriptor,
    s.registry.keys = made.map Descriptor.fingerprint ∧ s.registry.handles = made.map create

omit [DecidableEq ι] in
theorem inv_init (create : Descriptor → H) : Inv create ({} : St ι H) where
  wellFormed := Registry.wellFormed_empty
  findings := rfl
  after := rfl
  calls := by simp
  creations := rfl
  handles := ⟨[], rfl, rfl⟩

/-- The handles that were created are those of the descriptors that came in. -/
theorem made_enter {create : Descriptor → H} {r : Registry H} {made : List Descriptor}
    (hk : r.keys = made.map Descriptor.fingerprint) (hh : r.handles = made.map create) (d : Descriptor) :
    ∃ made : List Descriptor, (r.enter create d).registry.keys = made.map Descriptor.fingerprint ∧
      (r.enter create d).registry.handles = made.map create := by
  cases hp : r.probe d.fingerprint with
  | some id =>
    rw [Registry.enter_of_eq_some create hp]
    exact ⟨made, hk, hh⟩
  | none =>
    rw [Registry.enter_of_eq_none create hp]
    refine ⟨made ++ [d], ?_, ?_⟩
    · rw [Registry.keys_insert, hk, List.map_append, List.map_singleton]
    · rw [Registry.insert, hh, List.map_append, List.map_singleton]

theorem inv_step {create : Descriptor → H} (s s' : St ι H) (h : Step create s s') (hs : Inv create s) :
    Inv create s' where
  wellFormed := by
    rcases step_registry h with hr | ⟨d, hr⟩
    · rw [hr]
      exact hs.wellFormed
    · rw [hr]
      exact hs.wellFormed.enter create d
  findings := by
    rcases step_log hs.wellFormed h with ⟨hl, _⟩ | ⟨e, hl, ha⟩
    · rw [hl]
      exact hs.findings
    · -- one more answer, which is that of the table after all before it
      rw [hl, List.map_append, List.map_append, hs.findings]
      simp [Table.answers_concat, hs.after, ha]
  after := by
    rcases step_log hs.wellFormed h with ⟨hl, hr⟩ | ⟨e, hl, ha⟩
    · rw [hl, hr]
      exact hs.after
    · rw [hl, List.map_append]
      simp [Table.after_concat, hs.after, ha]
  calls := by
    have hkeep : ∀ f id, s.registry.probe f = some id → s'.registry.probe f = some id := by
      intro f id hf
      rcases step_registry h with hr | ⟨d, hr⟩
      · rw [hr]
        exact hf
      · rw [hr]
        exact Registry.probe_enter_of_eq_some create hf d
    intro i d id he
    rcases step_log hs.wellFormed h with ⟨hl, _⟩ | ⟨e, hl, ha⟩
    · rw [hl] at he
      exact hkeep _ _ (hs.calls i d id he)
    · rw [hl, List.mem_append, List.mem_singleton] at he
      rcases he with he | rfl
      · exact hkeep _ _ (hs.calls i d id he)
      · -- the call that this section answers
        have hfind := (table s.registry).find_findOrInsert d.fingerprint
        simp only [Table.answer, Prod.mk.injEq, Finding.handle.injEq] at ha
        rw [ha.1, ha.2] at hfind
        exact hfind
  creations := step_creations h hs.creations
  handles := by
    obtain ⟨made, hk, hh⟩ := hs.handles
    rcases step_registry h with hr | ⟨d, hr⟩
    · exact ⟨made, hr ▸ hk, hr ▸ hh⟩
    · rw [hr]
      exact made_enter hk hh d

theorem inv_of_reachable {create : Descriptor → H} {s : St ι H} (h : Reachable create s) : Inv create s :=
  h.invariant inv_step (inv_init create)

/-! ## What callers may rely on -/

/-- Runs only add to a registry. -/
theorem prefix_of_run {create : Descriptor → H} {s s' : St ι H} (h : Run (Step create) s s') :
    s.registry.entries <+: s'.registry.entries ∧ s.registry.handles <+: s'.registry.handles := by
  induction h with
  | refl => exact ⟨List.prefix_rfl, List.prefix_rfl⟩
  | tail _ hlast ih =>
    rcases step_registry hlast with hr | ⟨d, hr⟩
    · rw [hr]
      exact ih
    · rw [hr]
      exact ⟨ih.1.trans (Registry.entries_prefix_enter create _ d),
        ih.2.trans (Registry.handles_prefix_enter create _ d)⟩

/-- A call that nobody comes between is `Registry.getOrCreate`. -/
theorem run_getOrCreate (create : Descriptor → H) (s : St ι H) (i : ι) (d : Descriptor) (hi : s.missed i = none) :
    ∃ s', Run (Step create) s s' ∧ s'.registry = (s.registry.getOrCreate create d).registry ∧
      s'.log = s.log ++ [⟨i, .resolve d, .handle (s.registry.getOrCreate create d).handle⟩] ∧
      s'.events = s.events ++ (s.registry.getOrCreate create d).events ∧ s'.missed = s.missed := by
  cases hp : s.registry.probe d.fingerprint with
  | some id =>
    -- found at the look
    refine ⟨_, .single (.hit s i d id hi hp), ?_⟩
    simp [Registry.getOrCreate, hp, St.hit, St.told]
  | none =>
    -- missed, and entered at once
    have hlook : Step create s (s.missedBy i d) := .miss s i d hi hp
    have henter : Step create (s.missedBy i d) ((s.missedBy i d).entered create i d) :=
      .enter _ i d (by simp [St.missedBy])
    have hback : Function.update (Function.update s.missed i (some d)) i none = s.missed := by
      rw [Function.update_idem, ← hi, Function.update_eq_self]
    refine ⟨_, (Relation.ReflTransGen.single hlook).tail henter, ?_⟩
    simp [Registry.getOrCreate, hp, St.entered, St.missedBy, St.told, hback]

/-- One node with nothing set. -/
def lone : Descriptor := .ofAddresses ["a:1"] (List.cons_ne_nil _ _) (by decide)

/-- Whatever the order of the sections: the answers are those of a table that is used by one operation at a time,
a caller that has missed can always end its call, no fingerprint has a handle created twice, a call gets the handle
that was created for its fingerprint, calls for one fingerprint get one handle, and nothing is replaced or removed. The
sections of a call that nobody comes between do what `Registry.getOrCreate` does. -/
theorem calls_are_atomic (create : Descriptor → H) {s : St ι H} (hs : Reachable create s) :
    s.log.map (·.finding) = Table.answers {} (s.log.map (·.question)) ∧
    (∀ i d, s.missed i = some d →
      ∃ s' id, Step create s s' ∧ s'.log = s.log ++ [⟨i, .resolve d, .handle id⟩]) ∧
    (creations s.events).Nodup ∧ s.registry.created = (creations s.events).length ∧
    (∀ i d id, ⟨i, .resolve d, .handle id⟩ ∈ s.log →
      ∃ c : Descriptor, c.fingerprint = d.fingerprint ∧ s.registry.handle? id = some (create c)) ∧
    (∀ i j d e id id', ⟨i, .resolve d, .handle id⟩ ∈ s.log → ⟨j, .resolve e, .handle id'⟩ ∈ s.log →
      d.fingerprint = e.fingerprint → id = id') ∧
    (∀ s', Run (Step create) s s' →
      s.registry.entries <+: s'.registry.entries ∧ s.registry.handles <+: s'.registry.handles) ∧
    ∀ i d, s.missed i = none →
      ∃ s', Run (Step create) s s' ∧ s'.registry = (s.registry.getOrCreate create d).registry ∧
        s'.log = s.log ++ [⟨i, .resolve d, .handle (s.registry.getOrCreate create d).handle⟩] ∧
        s'.events = s.events ++ (s.registry.getOrCreate create d).events ∧ s'.missed = s.missed := by
  have hinv := inv_of_reachable hs
  refine ⟨hinv.findings, ?_, ?_, ?_, ?_, ?_, fun s' h => prefix_of_run h, run_getOrCreate create s⟩
  · -- a caller that has missed can enter
    intro i d hi
    exact ⟨_, _, .enter s i d hi, rfl⟩
  · -- handles were created for the fingerprints of the entries, each of which has one
    rw [hinv.creations]
    exact hinv.wellFormed.nodup
  · rw [hinv.creations]
    exact hinv.wellFormed.length_handles
  · -- the place of a fingerprint among the entries is that of its handle among those created
    intro i d id he
    obtain ⟨made, hk, hh⟩ := hinv.handles
    have hplace := hinv.wellFormed.probe_eq_some_iff.1 (hinv.calls i d id he)
    rw [hk, List.getElem?_map, Option.map_eq_some_iff] at hplace
    obtain ⟨c, hc, hf⟩ := hplace
    refine ⟨c, hf, ?_⟩
    rw [Registry.handle?, hh, List.getElem?_map, hc]
    rfl
  · -- both handles are found under the one fingerprint
    intro i j d e id id' hd he hf
    have hsame := hinv.calls i d id hd
    rw [hf, hinv.calls j e id' he] at hsame
    exact (Option.some.inj hsame).symm

/-- Two callers that both miss before either of them enters. -/
theorem calls_are_atomic_when_both_miss :
    ∃ s : St Bool Descriptor, Reachable id s ∧
      s.log = [⟨true, .resolve lone, .handle 0⟩, ⟨false, .resolve lone, .handle 0⟩] ∧
      creations s.events = [lone.fingerprint] ∧
      s.log.map (·.finding) = Table.answers {} (s.log.map (·.question)) := by
  have hrun : Run (Step id) ({} : St Bool Descriptor) _ :=
    (((Relation.ReflTransGen.single (.miss {} true lone rfl rfl)).tail
      (.miss _ false lone rfl rfl)).tail
      (.enter _ true lone rfl)).tail
      (.enter _ false lone rfl)
  refine ⟨_, hrun, ?_, ?_, (calls_are_atomic id hrun).1⟩
  · simp [St.entered, St.missedBy, St.told, Registry.enter, Registry.probe, Registry.insert]
  · simp [St.entered, St.missedBy, St.told, Registry.enter, Registry.probe, Registry.insert]

end SharedRegistry

end Tether
