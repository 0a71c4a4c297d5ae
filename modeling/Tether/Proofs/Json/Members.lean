import Mathlib.Data.List.Nodup
import Mathlib.Data.List.Perm.Basic
import Tether.Json.Basic

namespace Tether

/-! # The members of JSON objects

Members in ascending order of keys are the members that were put in, if no key was put in twice
(`Json.perm_ofMembers`). And where reading members does not depend on which of two keys comes first, it does not depend
on their order at all (`foldlM_perm`). Whether something is read does not depend on the words for a refusal
(`toOption_foldlM`).
-/

/-! ## Readers that do not say why they refuse -/

section Causes

variable {ε α β σ : Type}

theorem toOption_map (f : α → β) (e : Except ε α) : (f <$> e).toOption = f <$> e.toOption := by
  cases e <;> rfl

theorem toOption_mapM (f : α → Except ε β) (l : List α) : (l.mapM f).toOption = l.mapM fun a => (f a).toOption := by
  induction l with
  | nil => rfl
  | cons a rest ih =>
    rw [List.mapM_cons, List.mapM_cons, ← ih]
    cases f a with
    | error e => rfl
    | ok b => cases rest.mapM f <;> rfl

theorem toOption_foldlM (f : σ → α → Except ε σ) (l : List α) (s : σ) :
    (l.foldlM f s).toOption = l.foldlM (fun s a => (f s a).toOption) s := by
  induction l generalizing s with
  | nil => rfl
  | cons a rest ih =>
    rw [List.foldlM_cons, List.foldlM_cons]
    cases f s a with
    | error e => rfl
    | ok t => exact ih t

/-- One result is made of another if both are given. -/
theorem exists_ok_iff {δ : Type} {e : Except ε α} {f : α → Except δ β} {b : β} :
    (∃ a, e = .ok a ∧ f a = .ok b) ↔ (e.toOption.bind fun a => (f a).toOption) = some b := by
  cases e with
  | error _ => simp [Except.toOption]
  | ok a => cases h : f a <;> simp [Except.toOption, h]

end Causes

/-! ## The order of members -/

section Order

variable {α σ : Type}

/-- Two members in either order. -/
def Commutes (f : σ → α → Option σ) (x y : α) : Prop := ∀ s, (f s x).bind (f · y) = (f s y).bind (f · x)

theorem foldlM_perm {f : σ → α → Option σ} {l l' : List α} (h : l.Perm l')
    (hcomm : ∀ x ∈ l, ∀ y ∈ l, Commutes f x y) (s : σ) : l.foldlM f s = l'.foldlM f s := by
  induction h generalizing s with
  | nil => rfl
  | cons a _ ih =>
    have hrest := ih fun x hx y hy => hcomm x (List.mem_cons_of_mem a hx) y (List.mem_cons_of_mem a hy)
    rw [List.foldlM_cons, List.foldlM_cons]
    exact congrArg _ (funext hrest)
  | swap a b rest =>
    have hswap := hcomm b (by simp) a (by simp) s
    simp only [List.foldlM_cons, Option.bind_eq_bind]
    rw [← Option.bind_assoc, ← Option.bind_assoc, hswap]
  | trans h _ ih ih' =>
    rw [ih hcomm s]
    exact ih' (fun x hx y hy => hcomm x (h.mem_iff.2 hx) y (h.mem_iff.2 hy)) s

/-- Members of different keys are read in any order, if any two of them are. -/
theorem foldlM_perm_of_keys {f : σ → String × α → Option σ} {l l' : List (String × α)} (h : l.Perm l')
    (hkeys : (l.map (·.1)).Nodup) (hcomm : ∀ x y : String × α, x.1 ≠ y.1 → Commutes f x y) (s : σ) :
    l.foldlM f s = l'.foldlM f s := by
  refine foldlM_perm h ?_ s
  intro x hx y hy
  by_cases hxy : x.1 = y.1
  · -- two of one key are one
    rw [List.inj_on_of_nodup_map hkeys hx hy hxy]
    exact fun _ => rfl
  · exact hcomm x y hxy

/-- One member that is refused everywhere is refused wherever it stands. -/
theorem foldlM_eq_none_of_mem {f : σ → α → Option σ} {l : List α} {a : α} (ha : a ∈ l) (h : ∀ s, f s a = none) (s : σ) :
    l.foldlM f s = none := by
  induction l generalizing s with
  | nil => cases ha
  | cons b rest ih =>
    rw [List.foldlM_cons]
    rcases List.mem_cons.1 ha with rfl | hrest
    · rw [h s]
      rfl
    · cases f s b with
      | none => rfl
      | some t => exact ih hrest t

/-- Members that are read alike are read alike together. -/
theorem foldlM_congr {f g : σ → α → Option σ} {l : List α} (h : ∀ a ∈ l, ∀ s, f s a = g s a) (s : σ) :
    l.foldlM f s = l.foldlM g s := by
  induction l generalizing s with
  | nil => rfl
  | cons a rest ih =>
    rw [List.foldlM_cons, List.foldlM_cons, h a List.mem_cons_self s]
    exact congrArg _ (funext (ih fun b hb => h b (List.mem_cons_of_mem a hb)))

end Order

/-! ## Objects -/

namespace Json

theorem insert_perm {α : Type} {key : String} {members : List (String × α)} (h : key ∉ members.map (·.1)) (value : α) :
    (insert key value members).Perm ((key, value) :: members) := by
  induction members with
  | nil => exact List.Perm.refl _
  | cons m rest ih =>
    obtain ⟨k, v⟩ := m
    have hk : key ≠ k := fun heq => h (by simp [heq])
    have hrest : key ∉ rest.map (·.1) := fun hin => h (List.mem_cons_of_mem _ hin)
    unfold insert
    split
    · exact List.Perm.refl _
    · exact ((ih hrest).cons (k, v)).trans (.swap _ _ _)

theorem foldl_insert_perm {α : Type} (members : List (String × α)) :
    ∀ before : List (String × α), ((before ++ members).map (·.1)).Nodup →
      (members.foldl (fun ms m => insert m.1 m.2 ms) before).Perm (before ++ members) := by
  induction members with
  | nil =>
    intro before _
    simp
  | cons m rest ih =>
    intro before hkeys
    -- the first member comes in, and no key is there twice after it
    have hnew : m.1 ∉ before.map (·.1) := by
      intro hin
      rw [List.map_append, List.nodup_append] at hkeys
      exact hkeys.2.2 m.1 hin m.1 (by simp) rfl
    have hfirst : (insert m.1 m.2 before).Perm (before ++ [m]) :=
      (insert_perm hnew m.2).trans (List.perm_append_singleton m before).symm
    have hall : (insert m.1 m.2 before ++ rest).Perm (before ++ m :: rest) := by
      have h := hfirst.append_right rest
      rwa [List.append_assoc] at h
    exact (ih _ ((hall.map (·.1)).nodup_iff.2 hkeys)).trans hall

/-- An object has the members that it is made of. -/
theorem perm_ofMembers {members : List (String × Json)} (hkeys : (members.map (·.1)).Nodup) :
    ∃ sorted, ofMembers members = .object sorted ∧ sorted.Perm members :=
  ⟨_, rfl, foldl_insert_perm members [] hkeys⟩

end Json

end Tether
