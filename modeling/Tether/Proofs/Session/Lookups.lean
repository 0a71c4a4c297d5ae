import Tether.Proofs.Registry.Entries
import Tether.Session

namespace Tether

/-! # Finding clients and handles in a session

What is found under a name or a number after a client was put in place or a handle was created or used: the one that was
put there (`Session.client?_putClient`, `Registry.handle?_update_self`), and for all others what was found before.
-/

namespace Registry

variable {r : Registry RecordingHandle}

/-- The handle that is found or created is there. -/
theorem WellFormed.handle?_getOrCreate (hr : r.WellFormed) (d : Descriptor) :
    ∃ h, (r.getOrCreate RecordingHandle.new d).registry.handle? (r.getOrCreate RecordingHandle.new d).handle =
      some h := by
  have hr' := hr.getOrCreate RecordingHandle.new d
  have hprobe := probe_getOrCreate_self RecordingHandle.new r d
  have hkey := (List.getElem?_eq_some_iff.1 (hr'.probe_eq_some_iff.1 hprobe)).1
  exact ⟨_, List.getElem?_eq_getElem (hr'.length_handles ▸ hkey)⟩

/-- All other handles stay as they are, and there are no others that come. -/
theorem handle?_getOrCreate_of_ne {d : Descriptor} {other : HandleId}
    (h : other ≠ (r.getOrCreate RecordingHandle.new d).handle) :
    (r.getOrCreate RecordingHandle.new d).registry.handle? other = r.handle? other := by
  have heq := getOrCreate_eq_enter r RecordingHandle.new d
  rw [heq.1]
  rw [heq.2] at h
  cases hp : r.probe d.fingerprint with
  | some id => rw [enter_of_eq_some _ hp]
  | none =>
    -- a handle was created at the end, and `other` is before it or is none
    rw [enter_of_eq_none _ hp] at h ⊢
    change (r.handles ++ [RecordingHandle.new d])[other]? = r.handles[other]?
    rcases Nat.lt_or_ge other r.handles.length with hlt | hge
    · exact List.getElem?_append_left hlt
    · have hgt : r.handles.length + 1 ≤ other := Nat.lt_of_le_of_ne hge (Ne.symm h)
      rw [List.getElem?_eq_none (by simpa using hgt), List.getElem?_eq_none hge]

theorem handle?_update_self {id : HandleId} {h : RecordingHandle} (hid : r.handle? id = some h) (h' : RecordingHandle) :
    (r.update id h').handle? id = some h' := by
  have hlt : id < r.handles.length := (List.getElem?_eq_some_iff.1 hid).1
  simp [update, handle?, hlt]

theorem handle?_update_of_ne {id other : HandleId} (h : other ≠ id) (h' : RecordingHandle) :
    (r.update id h').handle? other = r.handle? other :=
  List.getElem?_set_ne (Ne.symm h)

theorem update_update (r : Registry RecordingHandle) (id : HandleId) (h h' : RecordingHandle) :
    (r.update id h).update id h' = r.update id h' := by
  simp [update, List.set_set]

end Registry

namespace Session

/-- A name that is taken away has no client, and all others keep theirs. -/
theorem lookup_filter (clients : List (String × Client)) (name other : String) :
    (clients.filter (·.1 ≠ name)).lookup other = if other = name then none else clients.lookup other := by
  induction clients with
  | nil => simp
  | cons e rest ih =>
    obtain ⟨first, c⟩ := e
    by_cases hfirst : first = name
    · rw [List.filter_cons_of_neg (by simpa using hfirst), ih]
      split
      · rfl
      · next hother =>
        have hne : (other == first) = false := by simpa [hfirst] using hother
        simp [List.lookup_cons, hne]
    · rw [List.filter_cons_of_pos (by simpa using hfirst), List.lookup_cons, List.lookup_cons, ih]
      cases hother : other == first with
      | true =>
        obtain rfl : other = first := by simpa using hother
        simp [hfirst]
      | false => rfl

theorem client?_putClient (s : Session) (name : String) (c : Client) (other : String) :
    (s.putClient name c).client? other = if other = name then some c else s.client? other := by
  unfold client? putClient
  rw [List.lookup_append, lookup_filter]
  by_cases h : other = name
  · simp [h]
  · have hne : (other == name) = false := by simpa using h
    simp [h, List.lookup_cons, hne]

/-- The handle of a target is the registry's entry for the target's fingerprint. -/
theorem toOption_targetHandle (s : Session) (target : Target) :
    (s.targetHandle target).toOption = (s.targetFingerprint target).toOption.bind fun f =>
      (s.registry.probe f).bind fun id => (s.registry.handle? id).map (id, ·) := by
  unfold targetHandle
  cases s.targetFingerprint target with
  | error answer => rfl
  | ok f =>
    simp only [bind, Except.bind, Except.toOption, Option.bind_some]
    cases s.registry.probe f with
    | none => rfl
    | some id =>
      simp only [Option.bind_some]
      cases s.registry.handle? id <;> rfl

theorem handle?_of_targetHandle {s : Session} {t : Target} {p : HandleId × RecordingHandle}
    (h : s.targetHandle t = .ok p) : s.registry.handle? p.1 = some p.2 := by
  have hp := toOption_targetHandle s t
  rw [h] at hp
  obtain ⟨f, -, hf⟩ := Option.bind_eq_some_iff.1 hp.symm
  obtain ⟨id, -, hid⟩ := Option.bind_eq_some_iff.1 hf
  obtain ⟨h', hh', rfl⟩ := Option.map_eq_some_iff.1 hid
  exact hh'

end Session

end Tether
