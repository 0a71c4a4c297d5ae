import Mathlib.Data.List.Forall2
import Tether.Descriptor.OfJson
import Tether.Descriptor.Show
import Tether.Fingerprint

namespace Tether

/-! # Descriptors but for their passwords

Two descriptors that are the same but for the texts of their passwords are the same once these are masked
(`Descriptor.masked_eq_iff`), and what is shown or told of a descriptor shows no more than the masked one.
-/

namespace ConnectionOptions

theorem withPasswords_withPasswords (o : ConnectionOptions) (p q p' q' : String) :
    (o.withPasswords p q).withPasswords p' q' = o.withPasswords p' q' := by
  simp [withPasswords, Function.comp_def]

theorem withPasswords_self (o : ConnectionOptions) :
    o.withPasswords (o.password.getD "") (o.sentinelPassword.getD "") = o := by
  cases o with | mk _ password _ _ _ _ sentinelPassword =>
  cases password <;> cases sentinelPassword <;> rfl

end ConnectionOptions

namespace Descriptor

/-- The descriptor with other texts for the passwords that are there. -/
def withPasswords (d : Descriptor) (password sentinelPassword : String) : Descriptor :=
  { d with options := d.options.withPasswords password sentinelPassword }

/-- The descriptor with its passwords made unrecognizable. -/
def masked (d : Descriptor) : Descriptor := d.withPasswords "" ""

theorem withPasswords_withPasswords (d : Descriptor) (p q p' q' : String) :
    (d.withPasswords p q).withPasswords p' q' = d.withPasswords p' q' := by
  simp [withPasswords, ConnectionOptions.withPasswords_withPasswords]

@[simp] theorem masked_withPasswords (d : Descriptor) (p q : String) : (d.withPasswords p q).masked = d.masked :=
  d.withPasswords_withPasswords p q "" ""

/-- Descriptors are the same with their passwords masked if they differ in the texts of passwords at most. -/
theorem masked_eq_iff {d e : Descriptor} : d.masked = e.masked ↔ ∃ p q, e = d.withPasswords p q := by
  constructor
  · intro h
    refine ⟨e.options.password.getD "", e.options.sentinelPassword.getD "", ?_⟩
    have hself : e.withPasswords (e.options.password.getD "") (e.options.sentinelPassword.getD "") = e := by
      rw [withPasswords, e.options.withPasswords_self]
    rw [← d.withPasswords_withPasswords "" "", ← masked, h, masked, withPasswords_withPasswords, hself]
  · rintro ⟨p, q, rfl⟩
    exact (d.masked_withPasswords p q).symm

@[simp] theorem addresses_masked (d : Descriptor) : d.masked.addresses = d.addresses := rfl

@[simp] theorem mode_masked (d : Descriptor) : d.masked.mode = d.mode := rfl

@[simp] theorem fingerprint_masked (d : Descriptor) : d.masked.fingerprint = d.fingerprint := rfl

@[simp] theorem debugText_masked (d : Descriptor) : d.masked.debugText = d.debugText := by
  rw [debugText, debugText, masked, withPasswords, ConnectionOptions.debugText_withPasswords]

@[simp] theorem debugText_options_masked (d : Descriptor) : d.masked.options.debugText = d.options.debugText :=
  d.options.debugText_withPasswords "" ""

/-- Two requests for a descriptor are answered alike: with descriptors that are the same but for the texts of passwords,
or with refusals of one kind and in the same words. -/
def AnsweredAlike : Except DescriptorError Descriptor → Except DescriptorError Descriptor → Prop
  | .ok d, .ok e => d.masked = e.masked
  | .error e, .error f => e.ctorIdx = f.ctorIdx ∧ e.message = f.message
  | _, _ => False

theorem AnsweredAlike.refl (r : Except DescriptorError Descriptor) : AnsweredAlike r r := by
  cases r with
  | error e => exact ⟨rfl, rfl⟩
  | ok d => exact rfl

theorem AnsweredAlike.of_map_masked {r r' : Except DescriptorError Descriptor} (h : r.map masked = r'.map masked) :
    AnsweredAlike r r' := by
  cases r <;> cases r' <;> simp only [Except.map] at h
  · cases h
    exact .refl _
  · cases h
  · cases h
  · exact Except.ok.inj h

/-- Passwords do not decide what is accepted as a descriptor. -/
theorem new_withPasswords (addresses : List String) (mode : Mode) (o : ConnectionOptions) (p q : String) :
    new addresses mode (o.withPasswords p q) = (new addresses mode o).map (·.withPasswords p q) := by
  unfold new
  split
  · rfl
  · split
    · rfl
    · split <;> rfl

/-- Parts that are the same but for the texts of passwords are answered alike. -/
theorem answeredAlike_new (addresses : List String) (mode : Mode) (o : ConnectionOptions) (p q : String) :
    AnsweredAlike (new addresses mode o) (new addresses mode (o.withPasswords p q)) := by
  rw [new_withPasswords]
  cases new addresses mode o with
  | error e => exact .refl _
  | ok d => exact (d.masked_withPasswords p q).symm

end Descriptor

/-! ## Objects of options -/

namespace ConnectionSpec

/-- The options with their passwords made unrecognizable. -/
def masked (s : ConnectionSpec) : ConnectionSpec :=
  { s with password := s.password.map fun _ => "", sentinelPassword := s.sentinelPassword.map fun _ => "" }

theorem toDescriptor_masked (s : ConnectionSpec) : s.masked.toDescriptor = s.toDescriptor.map Descriptor.masked := by
  have hmode : s.masked.mode = s.mode := rfl
  have hoptions : s.masked.options = s.options.withPasswords "" "" := rfl
  unfold toDescriptor
  rw [hmode, hoptions]
  cases s.mode with
  | error e => rfl
  | ok mode => exact Descriptor.new_withPasswords s.masked.addresses mode s.options "" ""

theorem map_masked_set {α : Type} {make make' : α → ConnectionSpec} (h : ∀ v, (make v).masked = (make' v).masked)
    (read : Except Json.Misfit α) : (make <$> read).map masked = (make' <$> read).map masked := by
  cases read with
  | error e => rfl
  | ok v => exact congrArg Except.ok (h v)

/-- What is set does not depend on the passwords that were set before. -/
theorem set_masked (r : FieldReaders (Except Json.Misfit)) {s t : ConnectionSpec} (h : s.masked = t.masked)
    (field : SpecField) : (s.set r field).map masked = (t.set r field).map masked := by
  cases s with | mk a m c u p d n l su sp dt rt =>
  cases t with | mk a' m' c' u' p' d' n' l' su' sp' dt' rt' =>
  obtain ⟨rfl, rfl, rfl, rfl, hp, rfl, rfl, rfl, rfl, hsp, rfl, rfl⟩ := ConnectionSpec.mk.inj h
  cases field <;> exact map_masked_set (fun v => by simp [masked, hp, hsp]) _

/-- Two members of an object that are the same but for the text of a password. -/
inductive MemberTwins : String × Json → String × Json → Prop where
  | same (m : String × Json) : MemberTwins m m
  | password {field : SpecField} (h : field = .password ∨ field = .sentinelPassword) (p q : String) :
      MemberTwins (field.name, .string p) (field.name, .string q)

theorem setMember_masked {m m' : String × Json} (hm : MemberTwins m m') {s t : ConnectionSpec}
    (h : s.masked = t.masked) : (s.setMember m).map masked = (t.setMember m').map masked := by
  cases hm with
  | same =>
    unfold setMember
    cases SpecField.ofName? m.1 with
    | none => rfl
    | some field => exact set_masked _ h field
  | password hfield p q =>
    cases s with | mk a b c u o d n l su so dt rt =>
    cases t with | mk a' b' c' u' o' d' n' l' su' so' dt' rt' =>
    obtain ⟨rfl, rfl, rfl, rfl, ho, rfl, rfl, rfl, rfl, hso, rfl, rfl⟩ := ConnectionSpec.mk.inj h
    -- whatever stood there before, a text stands there now
    rcases hfield with rfl | rfl
    · refine congrArg Except.ok ?_
      simp [masked, hso]
    · refine congrArg Except.ok ?_
      simp [masked, ho]

theorem ofMembers_masked {members members' : List (String × Json)} (h : List.Forall₂ MemberTwins members members') :
    (ofMembers members).map masked = (ofMembers members').map masked := by
  -- members come one by one, on options that are alike and not only on none
  have hrun : ∀ s t : ConnectionSpec, s.masked = t.masked →
      (members.foldlM setMember s).map masked = (members'.foldlM setMember t).map masked := by
    induction h with
    | nil => exact fun s t hst => congrArg Except.ok hst
    | @cons m m' rest rest' hm _ ih =>
      intro s t hst
      have hset := setMember_masked hm hst
      rw [List.foldlM_cons, List.foldlM_cons]
      revert hset
      cases s.setMember m <;> cases t.setMember m' <;> intro hset
      · cases hset
        rfl
      · cases hset
      · cases hset
      · exact ih _ _ (Except.ok.inj hset)
  exact hrun {} {} rfl

end ConnectionSpec

/-- Objects of options that are the same but for the texts of passwords are answered alike. -/
theorem Descriptor.answeredAlike_object {members members' : List (String × Json)}
    (h : List.Forall₂ ConnectionSpec.MemberTwins members members') :
    AnsweredAlike (ofJson (.object members)) (ofJson (.object members')) := by
  have hspec := ConnectionSpec.ofMembers_masked h
  simp only [ofJson]
  revert hspec
  cases ConnectionSpec.ofMembers members <;> cases ConnectionSpec.ofMembers members' <;> intro hspec
  · cases hspec
    exact .refl _
  · cases hspec
  · cases hspec
  · next s t =>
    have hst : s.masked = t.masked := Except.ok.inj hspec
    exact AnsweredAlike.of_map_masked (by rw [← s.toDescriptor_masked, hst, t.toDescriptor_masked])

end Tether
