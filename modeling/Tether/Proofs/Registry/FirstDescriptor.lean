import Mathlib.Data.String.Basic
import Tether.Handle.Recording
import Tether.Proofs.Descriptor.Sharing
import Tether.Proofs.Registry.Callers

namespace Tether

/-! # The first descriptor of a fingerprint

Descriptors with one fingerprint may differ in mode, in options and in the order of their addresses, and still share
a handle. It is made from the one that was asked for first, and stays that way whatever comes later. We show:

* `SharedRegistry.keepsFirst_of_reachable`: the handle under a fingerprint is the one made from the first descriptor
  asked for;
* `Registry.WellFormed.pairwise_fingerprints`: a registry lists its fingerprints in ascending order, each once, in
  whatever order they are kept;
* `SharedRegistry.first_descriptor_wins`: so the descriptor of every handle is the first, and all ways to look at the
  registry agree.
-/

namespace Fingerprint

theorem le_iff {f g : Fingerprint} : le f g = true ↔ f.text ≤ g.text := by simp [le]

theorem eq_of_le_of_le {f g : Fingerprint} (hfg : le f g = true) (hgf : le g f = true) : f = g := by
  cases f
  cases g
  exact congrArg mk (le_antisymm (le_iff.1 hfg) (le_iff.1 hgf))

theorem pairwise_mergeSort (fs : List Fingerprint) : (fs.mergeSort le).Pairwise fun f g => le f g = true := by
  refine List.pairwise_mergeSort ?_ ?_ fs
  · intro f g h hfg hgh
    exact le_iff.2 (le_trans (le_iff.1 hfg) (le_iff.1 hgh))
  · intro f g
    simpa [le] using le_total f.text g.text

/-- The order in which fingerprints are kept does not matter once they are sorted. -/
theorem mergeSort_eq_of_perm {fs gs : List Fingerprint} (h : fs.Perm gs) : fs.mergeSort le = gs.mergeSort le := by
  have hperm : (fs.mergeSort le).Perm (gs.mergeSort le) :=
    (List.mergeSort_perm fs le).trans (h.trans (List.mergeSort_perm gs le).symm)
  exact hperm.eq_of_pairwise (fun _ _ _ _ => eq_of_le_of_le) (pairwise_mergeSort fs) (pairwise_mergeSort gs)

end Fingerprint

namespace Registry

variable {H : Type}

/-- The handle under a fingerprint. -/
def get (r : Registry H) (f : Fingerprint) : Option H := (r.probe f).bind r.handle?

theorem length_fingerprints (r : Registry H) : r.fingerprints.length = r.size := by
  rw [r.fingerprints_perm_keys.length_eq, size_eq_length_keys]

theorem contains_iff_mem_fingerprints {r : Registry H} {f : Fingerprint} :
    r.contains f = true ↔ f ∈ r.fingerprints := by
  rw [mem_fingerprints, contains, Option.isSome_iff_ne_none, ne_eq, probe_eq_none_iff, not_not]

namespace WellFormed

variable {r : Registry H}

/-- A registry lists its fingerprints in ascending order, each once. -/
theorem pairwise_fingerprints (hr : r.WellFormed) : r.fingerprints.Pairwise fun f g => f.text < g.text := by
  have hle : r.fingerprints.Pairwise fun f g => Fingerprint.le f g = true := Fingerprint.pairwise_mergeSort _
  refine (hle.and hr.nodup_fingerprints).imp ?_
  rintro f g ⟨hfg, hne⟩
  refine lt_of_le_of_ne (Fingerprint.le_iff.1 hfg) ?_
  intro htext
  exact hne (Fingerprint.eq_of_le_of_le hfg (Fingerprint.le_iff.2 htext.ge))

/-- What is found was created. -/
theorem lt_created (hr : r.WellFormed) {f : Fingerprint} {id : HandleId} (h : r.probe f = some id) :
    id < r.created := by
  have hlt : id < r.keys.length := (List.getElem?_eq_some_iff.1 (hr.probe_eq_some_iff.1 h)).1
  exact hlt.trans_eq hr.length_handles.symm

/-- An entry is what is found for its fingerprint. -/
theorem probe_of_mem_entries (hr : r.WellFormed) {f : Fingerprint} {id : HandleId} (h : (f, id) ∈ r.entries) :
    r.probe f = some id := by
  rw [hr.entries_eq] at h
  exact hr.probe_eq_some_iff.2 (List.mk_mem_zipIdx_iff_getElem?.1 h)

theorem isSome_get (hr : r.WellFormed) (f : Fingerprint) : (r.get f).isSome = r.contains f := by
  unfold get contains
  cases h : r.probe f with
  | none => rfl
  | some id =>
    have hlt : id < r.handles.length := hr.lt_created h
    simp [handle?, hlt]

/-- Entering puts a new handle under its fingerprint where there was none, and leaves all others where they are. -/
theorem get_enter (hr : r.WellFormed) (create : Descriptor → H) (d : Descriptor) (f : Fingerprint) :
    (r.enter create d).registry.get f = (r.get f).or (if d.fingerprint = f then some (create d) else none) := by
  cases hd : r.probe d.fingerprint with
  | some i =>
    rw [enter_of_eq_some create hd]
    by_cases hf : d.fingerprint = f
    · -- there is a handle under it already
      have hsome : (r.get f).isSome = true := by rw [hr.isSome_get, ← hf, contains, hd, Option.isSome_some]
      rw [Option.or_of_isSome hsome]
    · rw [if_neg hf, Option.or_none]
  | none =>
    rw [enter_of_eq_none create hd, get, probe_insert, get]
    cases hf : r.probe f with
    | none =>
      by_cases hdf : d.fingerprint = f
      · -- the new handle is the last that was created
        simp [hdf, handle?, Registry.insert, created]
      · simp [hdf, Ne.symm hdf]
    | some id =>
      have hlt : id < r.handles.length := hr.lt_created hf
      have hdf : d.fingerprint ≠ f := by
        rintro rfl
        rw [hd] at hf
        cases hf
      simp [hdf, handle?, Registry.insert, List.getElem?_append_left hlt]

end WellFormed

end Registry

namespace SharedRegistry

variable {ι H : Type}

/-- The descriptor for which a handle was asked. -/
def Question.resolved? : Question → Option Descriptor
  | .resolve d => some d
  | _ => none

/-- The first descriptor of a fingerprint for which a handle was asked. -/
def first? (questions : List Question) (f : Fingerprint) : Option Descriptor :=
  (questions.filterMap Question.resolved?).find? fun d => d.fingerprint = f

theorem first?_concat_resolve (questions : List Question) (d : Descriptor) (f : Fingerprint) :
    first? (questions ++ [.resolve d]) f = (first? questions f).or (if d.fingerprint = f then some d else none) := by
  have hlast : [d].find? (fun d => d.fingerprint = f) = if d.fingerprint = f then some d else none := by
    by_cases hd : d.fingerprint = f <;> simp [hd]
  rw [first?, List.filterMap_append, List.find?_append, ← hlast]
  rfl

theorem first?_concat_of_eq_none (questions : List Question) {q : Question} (hq : q.resolved? = none)
    (f : Fingerprint) : first? (questions ++ [q]) f = first? questions f := by
  simp [first?, List.filterMap_append, hq]

/-- The questions that were answered, in the order in which they were. -/
def St.questions (s : St ι H) : List Question := s.log.map (·.question)

theorem St.questions_told (s : St ι H) (i : ι) (q : Question) (x : Finding) :
    (s.told i q x).questions = s.questions ++ [q] := by
  simp [questions, told]

variable [DecidableEq ι]

/-- A section answers nothing yet, or it answers for a descriptor that it enters or finds there, or it only looks. -/
theorem step_questions {create : Descriptor → H} {s s' : St ι H} (h : Step create s s') :
    (s'.questions = s.questions ∧ s'.registry = s.registry) ∨
    (∃ d, s'.questions = s.questions ++ [.resolve d] ∧ s'.registry = (s.registry.enter create d).registry) ∨
    ∃ q : Question, q.resolved? = none ∧ s'.questions = s.questions ++ [q] ∧ s'.registry = s.registry := by
  cases h with
  | miss i d hi hp => exact Or.inl ⟨rfl, rfl⟩
  | hit i d id hi hp =>
    refine Or.inr (Or.inl ⟨d, s.questions_told i _ _, ?_⟩)
    rw [Registry.enter_of_eq_some create hp]
    rfl
  | enter i d hi => exact Or.inr (Or.inl ⟨d, s.questions_told i _ _, rfl⟩)
  | get i f hi => exact Or.inr (Or.inr ⟨.get f, rfl, s.questions_told i _ _, rfl⟩)
  | contains i f hi => exact Or.inr (Or.inr ⟨.contains f, rfl, s.questions_told i _ _, rfl⟩)
  | size i hi => exact Or.inr (Or.inr ⟨.size, rfl, s.questions_told i _ _, rfl⟩)
  | fingerprints i hi => exact Or.inr (Or.inr ⟨.fingerprints, rfl, s.questions_told i _ _, rfl⟩)

/-- Under each fingerprint is the handle made from the first descriptor for which one was asked. -/
def KeepsFirst (create : Descriptor → H) (s : St ι H) : Prop :=
  s.registry.WellFormed ∧ ∀ f, s.registry.get f = (first? s.questions f).map create

theorem keepsFirst_step {create : Descriptor → H} (s s' : St ι H) (h : Step create s s') (hs : KeepsFirst create s) :
    KeepsFirst create s' := by
  obtain ⟨hr, hfirst⟩ := hs
  rcases step_questions h with ⟨hq, hregistry⟩ | ⟨d, hq, hregistry⟩ | ⟨q, hlook, hq, hregistry⟩
  · rw [KeepsFirst, hq, hregistry]
    exact ⟨hr, hfirst⟩
  · -- a later descriptor of a fingerprint makes no difference, in the registry as among the questions
    rw [KeepsFirst, hq, hregistry]
    refine ⟨hr.enter create d, ?_⟩
    intro f
    have hlast : (if d.fingerprint = f then some d else none).map create =
        if d.fingerprint = f then some (create d) else none := by
      split <;> rfl
    rw [hr.get_enter create d f, first?_concat_resolve, hfirst f, Option.map_or, hlast]
  · rw [KeepsFirst, hq, hregistry]
    refine ⟨hr, ?_⟩
    intro f
    rw [first?_concat_of_eq_none _ hlook, hfirst f]

theorem keepsFirst_of_reachable {create : Descriptor → H} {s : St ι H} (h : Reachable create s) :
    KeepsFirst create s :=
  h.invariant keepsFirst_step ⟨Registry.wellFormed_empty, fun _ => rfl⟩

/-- Whatever was asked of a registry, by one caller after another or by many at once: every entry has a handle, whose
descriptor is the first of the entry's fingerprint for which a handle was asked, as it was given; the fingerprints are
listed in ascending order, each once, and come out the same in whatever order they are kept; and a fingerprint is
known exactly if a handle is found under it and if it is listed. -/
theorem first_descriptor_wins (create : Descriptor → H) (descriptor : H → Descriptor)
    (hcreate : ∀ d, descriptor (create d) = d) {s : St ι H} (hs : Reachable create s) :
    (∀ f id, (f, id) ∈ s.registry.entries → ∃ h, s.registry.handle? id = some h ∧
      (descriptor h).fingerprint = f ∧ first? s.questions f = some (descriptor h)) ∧
    (∀ f, (s.registry.get f).map descriptor = first? s.questions f) ∧
    (∀ keys : List Fingerprint, keys.Perm (s.registry.entries.map (·.1)) →
      keys.mergeSort Fingerprint.le = s.registry.fingerprints) ∧
    (s.registry.fingerprints.Pairwise fun f g => f.text < g.text) ∧
    s.registry.fingerprints.length = s.registry.size ∧
    ∀ f, (s.registry.contains f = true ↔ (s.registry.get f).isSome = true) ∧
      (s.registry.contains f = true ↔ f ∈ s.registry.fingerprints) := by
  obtain ⟨hr, hfirst⟩ := keepsFirst_of_reachable hs
  have hdescriptor : ∀ f, (s.registry.get f).map descriptor = first? s.questions f := by
    intro f
    have hid : descriptor ∘ create = id := funext hcreate
    rw [hfirst f, Option.map_map, hid, Option.map_id, id]
  refine ⟨?_, hdescriptor, ?_, hr.pairwise_fingerprints, s.registry.length_fingerprints, ?_⟩
  · intro f id he
    have hprobe := hr.probe_of_mem_entries he
    have hlt : id < s.registry.handles.length := hr.lt_created hprobe
    have hhandle : s.registry.handle? id = some s.registry.handles[id] := List.getElem?_eq_getElem hlt
    have hget : s.registry.get f = s.registry.handle? id := by rw [Registry.get, hprobe, Option.bind_some]
    have hwins := hdescriptor f
    rw [hget, hhandle, Option.map_some] at hwins
    -- the first descriptor of a fingerprint is one of it
    have hof := List.find?_some hwins.symm
    exact ⟨_, hhandle, of_decide_eq_true hof, hwins.symm⟩
  · intro keys hkeys
    exact Fingerprint.mergeSort_eq_of_perm hkeys
  · intro f
    rw [hr.isSome_get]
    exact ⟨Iff.rfl, Registry.contains_iff_mem_fingerprints⟩

/-- A single node that is asked for first stays a single node, when the same addresses are asked for as those of a
cluster and in another order. -/
theorem first_descriptor_wins_over_cluster :
    ∃ s : St Unit RecordingHandle, Reachable RecordingHandle.new s ∧
      s.questions = [.resolve .descending, .resolve Descriptor.ascending.asCluster] ∧
      Descriptor.ascending.asCluster.fingerprint = Descriptor.descending.fingerprint ∧
      (s.registry.get Descriptor.ascending.asCluster.fingerprint).map (·.descriptor) = some .descending := by
  have hf : Descriptor.ascending.asCluster.fingerprint = Descriptor.descending.fingerprint :=
    Fingerprint.fingerprint_eq_of_perm (.swap "b:2" "a:1" [])
  obtain ⟨s, hrun, _, hlog, _, hmissed⟩ :=
    run_getOrCreate RecordingHandle.new ({} : St Unit RecordingHandle) () .descending rfl
  obtain ⟨s', hrun', _, hlog', _, _⟩ :=
    run_getOrCreate RecordingHandle.new s () Descriptor.ascending.asCluster (hmissed ▸ rfl)
  have hquestions : s'.questions = [.resolve .descending, .resolve Descriptor.ascending.asCluster] := by
    simp [St.questions, hlog', hlog]
  have hs' : Reachable RecordingHandle.new s' := hrun.trans hrun'
  refine ⟨s', hs', hquestions, hf, ?_⟩
  rw [(first_descriptor_wins RecordingHandle.new (·.descriptor) (fun _ => rfl) hs').2.1, hquestions, hf]
  simp [first?, Question.resolved?]

end SharedRegistry

end Tether
