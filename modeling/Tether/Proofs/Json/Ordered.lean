import Mathlib.Data.String.Basic
import Tether.Proofs.Json.Written

namespace Tether

/-! # JSON values in order

The members of an object stand in ascending order of their keys (`Json.Ordered`). To put a member in its place keeps
them so (`Json.ascending_insert`), and so every value that a text is parsed to is in order (`Json.ordered_of_parse`).
-/

namespace Json

/-- The members stand in ascending order of their keys, and no key is there twice. -/
def Ascending {α : Type} (members : List (String × α)) : Prop := members.Pairwise fun m m' => m.1 < m'.1

/-- The members of every object in the value are in order. -/
inductive Ordered : Json → Prop where
  | null : Ordered .null
  | bool (b : Bool) : Ordered (.bool b)
  | number (n : JsonNumber) : Ordered (.number n)
  | string (s : String) : Ordered (.string s)
  | array {items : List Json} (h : ∀ j ∈ items, Ordered j) : Ordered (.array items)
  | object {members : List (String × Json)} (hkeys : Ascending members) (h : ∀ m ∈ members, Ordered m.2) :
    Ordered (.object members)

theorem Ordered.ascending {members : List (String × Json)} (h : Ordered (.object members)) : Ascending members := by
  cases h with
  | object hkeys _ => exact hkeys

/-! ## Members in their places -/

section Insert

variable {α : Type} {key : String} {value : α} {members : List (String × α)}

theorem mem_insert {m : String × α} (h : m ∈ insert key value members) : m = (key, value) ∨ m ∈ members := by
  induction members with
  | nil => exact .inl (List.mem_singleton.1 h)
  | cons first rest ih =>
    obtain ⟨k, v⟩ := first
    unfold insert at h
    split at h
    · exact List.mem_cons.1 h
    · split at h
      · exact (List.mem_cons.1 h).imp_right (List.mem_cons_of_mem _)
      · rcases List.mem_cons.1 h with rfl | hrest
        · exact .inr List.mem_cons_self
        · exact (ih hrest).imp_right (List.mem_cons_of_mem _)

theorem ascending_insert (h : Ascending members) (key : String) (value : α) : Ascending (insert key value members) := by
  induction members with
  | nil => exact List.pairwise_singleton _ _
  | cons first rest ih =>
    obtain ⟨k, v⟩ := first
    obtain ⟨hfirst, hrest⟩ := List.pairwise_cons.1 h
    unfold insert
    split
    · next hlt =>
      refine List.pairwise_cons.2 ⟨?_, h⟩
      intro m hm
      rcases List.mem_cons.1 hm with rfl | hm
      · exact hlt
      · exact hlt.trans (hfirst m hm)
    · next hge =>
      split
      · next heq =>
        subst heq
        exact List.pairwise_cons.2 ⟨hfirst, hrest⟩
      · next hne =>
        refine List.pairwise_cons.2 ⟨?_, ih hrest⟩
        intro m hm
        rcases mem_insert hm with rfl | hm
        · exact lt_of_le_of_ne (not_lt.1 hge) (Ne.symm hne)
        · exact hfirst m hm

end Insert

theorem ordered_ofMembers {members : List (String × Json)} (h : ∀ m ∈ members, m.2.Ordered) :
    (ofMembers members).Ordered := by
  have hall : ∀ before : List (String × Json), Ascending before → (∀ m ∈ before, m.2.Ordered) →
      Ordered (.object (members.foldl (fun ms m => insert m.1 m.2 ms) before)) := by
    induction members with
    | nil => exact fun before hkeys hbefore => .object hkeys hbefore
    | cons m rest ih =>
      intro before hkeys hbefore
      refine ih (fun m' hm' => h m' (List.mem_cons_of_mem m hm')) _ (ascending_insert hkeys m.1 m.2) ?_
      intro m' hm'
      rcases mem_insert hm' with rfl | hm'
      · exact h m List.mem_cons_self
      · exact hbefore m' hm'
  exact hall [] List.Pairwise.nil fun _ hm => absurd hm List.not_mem_nil

mutual

theorem ordered_sorted : (j : Json) → j.sorted.Ordered
  | .null => .null
  | .bool b => .bool b
  | .number n => .number n
  | .string s => .string s
  | .array items => .array (ordered_sortedItems items)
  | .object members => ordered_ofMembers (ordered_sortedMembers members)

theorem ordered_sortedItems : (items : List Json) → ∀ j ∈ sortedItems items, j.Ordered
  | [] => nofun
  | j :: rest => List.forall_mem_cons.2 ⟨ordered_sorted j, ordered_sortedItems rest⟩

theorem ordered_sortedMembers : (members : List (String × Json)) → ∀ m ∈ sortedMembers members, m.2.Ordered
  | [] => nofun
  | (_, j) :: rest => List.forall_mem_cons.2 ⟨ordered_sorted j, ordered_sortedMembers rest⟩

end

/-- What a text is parsed to is in order. -/
theorem ordered_of_parse {text : String} {j : Json} (h : parse text = .ok j) : j.Ordered := by
  have hsorted := parse_eq_sorted text
  rw [h] at hsorted
  obtain ⟨j', _, hj⟩ := Option.map_eq_some_iff.1 hsorted.symm
  rw [← hj]
  exact ordered_sorted j'

end Json

end Tether
