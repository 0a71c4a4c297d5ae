import Mathlib.Data.List.DropRight
import Tether.Proofs.Json.Follows

namespace Tether

/-! # JSON values as they are written

`Json.written` is the value that a text spells with the members of its objects in the order of the text, repeated keys
and all. The value that `Json.parse` gives is the same with every object in ascending order of its keys
(`Json.parse_eq_sorted`). What a value begins with tells its type (`Json.begins_of_readValueBy`).
-/

namespace Json

/-- The value that a text spells, with the members of its objects as they are written. -/
def written (text : String) : Except Fault Json := parseBy .object text

/-- No object in the value has a key twice. -/
inductive Distinct : Json → Prop where
  | null : Distinct .null
  | bool (b : Bool) : Distinct (.bool b)
  | number (n : JsonNumber) : Distinct (.number n)
  | string (s : String) : Distinct (.string s)
  | array {items : List Json} (h : ∀ j ∈ items, Distinct j) : Distinct (.array items)
  | object {members : List (String × Json)} (hkeys : (members.map (·.1)).Nodup) (h : ∀ m ∈ members, Distinct m.2) :
    Distinct (.object members)

mutual

/-- Tells whether no object in the value has a key twice. -/
def isDistinct : Json → Bool
  | .array items => itemsDistinct items
  | .object members => decide (members.map (·.1)).Nodup && valuesDistinct members
  | _ => true

/-- Tells it of every item of an array. -/
def itemsDistinct : List Json → Bool
  | [] => true
  | j :: rest => j.isDistinct && itemsDistinct rest

/-- Tells it of every value of an object. -/
def valuesDistinct : List (String × Json) → Bool
  | [] => true
  | (_, j) :: rest => j.isDistinct && valuesDistinct rest

end

mutual

theorem distinct_of_isDistinct : (j : Json) → j.isDistinct = true → j.Distinct
  | .null, _ => .null
  | .bool b, _ => .bool b
  | .number n, _ => .number n
  | .string s, _ => .string s
  | .array items, h => .array (distinct_of_itemsDistinct items h)
  | .object members, h =>
    have h := Bool.and_eq_true_iff.1 h
    .object (of_decide_eq_true h.1) (distinct_of_valuesDistinct members h.2)

theorem distinct_of_itemsDistinct : (items : List Json) → itemsDistinct items = true → ∀ j ∈ items, j.Distinct
  | [], _ => nofun
  | j :: rest, h =>
    have h := Bool.and_eq_true_iff.1 h
    List.forall_mem_cons.2 ⟨distinct_of_isDistinct j h.1, distinct_of_itemsDistinct rest h.2⟩

theorem distinct_of_valuesDistinct :
    (members : List (String × Json)) → valuesDistinct members = true → ∀ m ∈ members, m.2.Distinct
  | [], _ => nofun
  | (_, j) :: rest, h =>
    have h := Bool.and_eq_true_iff.1 h
    List.forall_mem_cons.2 ⟨distinct_of_isDistinct j h.1, distinct_of_valuesDistinct rest h.2⟩

end

mutual

/-- The value with the members of its objects in ascending order of their keys, where the last of several with one key
counts. -/
def sorted : Json → Json
  | .array items => .array (sortedItems items)
  | .object members => ofMembers (sortedMembers members)
  | .null => .null
  | .bool b => .bool b
  | .number n => .number n
  | .string s => .string s

/-- Every item of an array with its members in order. -/
def sortedItems : List Json → List Json
  | [] => []
  | j :: rest => j.sorted :: sortedItems rest

/-- Every value of an object with its members in order. -/
def sortedMembers : List (String × Json) → List (String × Json)
  | [] => []
  | (key, j) :: rest => (key, j.sorted) :: sortedMembers rest

end

theorem sortedItems_eq_map (items : List Json) : sortedItems items = items.map sorted := by
  induction items with
  | nil => rfl
  | cons j rest ih => rw [sortedItems, ih, List.map_cons]

theorem sortedMembers_eq_map (members : List (String × Json)) :
    sortedMembers members = members.map fun m => (m.1, m.2.sorted) := by
  induction members with
  | nil => rfl
  | cons m rest ih => rw [sortedMembers, ih, List.map_cons]

theorem keys_sortedMembers (members : List (String × Json)) :
    (sortedMembers members).map (·.1) = members.map (·.1) := by
  rw [sortedMembers_eq_map, List.map_map]
  rfl

/-! ## The first character -/

variable {depth : Nat} {cs rest : List Char} {c : Char} {j : Json}

theorem run?_nextChar (cs : List Char) :
    run? nextChar cs = match skipBlanks cs with
      | [] => none
      | c :: rest => some (c, rest) := by
  unfold run? nextChar
  cases skipBlanks cs <;> rfl

theorem skipBlanks_skipBlanks (cs : List Char) : skipBlanks (skipBlanks cs) = skipBlanks cs :=
  List.dropWhile_idempotent isBlank cs

theorem run?_readValueBy (object : List (String × Json) → Json) (cs : List Char) :
    run? (readValueBy object depth) cs = match skipBlanks cs with
      | [] => none
      | c :: rest => run? (readFrom object depth c) rest := by
  unfold readValueBy
  rw [run?_bind, run?_nextChar]
  split <;> rfl

/-- A value of this type begins with `c`. -/
def Begins (c : Char) : Json → Prop
  | .null => c = 'n'
  | .bool true => c = 't'
  | .bool false => c = 'f'
  | .number _ => c = '-' ∨ c.isDigit = true
  | .string _ => c = '"'
  | .array _ => c = '['
  | .object _ => c = '\x7b'

theorem of_run?_map {α β : Type} {f : α → β} {read : Reader α} {b : β} (h : run? (f <$> read) cs = some (b, rest)) :
    ∃ a, b = f a := by
  rw [run?_map] at h
  obtain ⟨p, _, hp⟩ := Option.map_eq_some_iff.1 h
  exact ⟨p.1, (Prod.mk.inj hp).1.symm⟩

theorem begins_of_readScalar (h : run? (readScalar c) cs = some (j, rest)) : j.Begins c := by
  unfold readScalar at h
  split at h
  · unfold run? at h
    cases hr : readWord "ull".toList cs <;> simp only [hr] at h <;> cases h
    rfl
  · unfold run? at h
    cases hr : readWord "rue".toList cs <;> simp only [hr] at h <;> cases h
    rfl
  · unfold run? at h
    cases hr : readWord "alse".toList cs <;> simp only [hr] at h <;> cases h
    rfl
  · obtain ⟨s, rfl⟩ := of_run?_map h
    rfl
  · obtain ⟨n, rfl⟩ := of_run?_map h
    exact .inl rfl
  split at h
  · next hdigit =>
    obtain ⟨n, rfl⟩ := of_run?_map h
    exact .inr hdigit
  · cases h

/-- What a value begins with tells its type. -/
theorem begins_of_readFrom (h : run? (readFrom .object depth c) cs = some (j, rest)) : j.Begins c := by
  unfold readFrom at h
  split at h
  · next hc =>
    cases depth with
    | zero => cases h
    | succ depth =>
      obtain ⟨parts, rfl⟩ := of_run?_map h
      exact hc
  split at h
  · next hc =>
    cases depth with
    | zero => cases h
    | succ depth =>
      obtain ⟨parts, rfl⟩ := of_run?_map h
      exact hc
  · exact begins_of_readScalar h

theorem exists_object_of_begins (h : j.Begins '\x7b') : ∃ members, j = .object members := by
  cases j with
  | object members => exact ⟨members, rfl⟩
  | bool b => cases b <;> simp [Begins] at h
  | _ => simp [Begins] at h

/-! ## Members in order -/

/-- A value without parts is in order. -/
theorem sorted_of_begins (h : j.Begins c) (harray : c ≠ '[') (hobject : c ≠ '\x7b') : j.sorted = j := by
  cases j with
  | array items => exact absurd h harray
  | object members => exact absurd h hobject
  | _ => rfl

theorem follows_readScalar (harray : c ≠ '[') (hobject : c ≠ '\x7b') :
    Follows (readScalar c) (readScalar c) fun j => some j.sorted :=
  follows_self fun _ _ _ h => congrArg some (sorted_of_begins (begins_of_readScalar h) harray hobject)

/-- Members are put in order while they are read. -/
theorem follows_readFrom (depth : Nat) (c : Char) :
    Follows (readFrom ofMembers depth c) (readFrom .object depth c) fun j => some j.sorted := by
  induction depth generalizing c with
  | zero =>
    unfold readFrom
    split
    · exact fun _ => rfl
    next harray =>
    split
    · exact fun _ => rfl
    next hobject => exact follows_readScalar harray hobject
  | succ depth ih =>
    have hvalue : Follows (nextChar >>= readFrom ofMembers depth) (nextChar >>= readFrom .object depth)
        fun j => some j.sorted := Follows.behind nextChar ih
    unfold readFrom
    split
    · -- the items of an array
      refine Follows.map_other (((follows_readList hvalue).map array).congr ?_)
      intro items
      have hitems : items.mapM (fun j => some j.sorted) = some (items.map sorted) := List.mapM_pure
      rw [hitems, sorted, sortedItems_eq_map]
      rfl
    next harray =>
    split
    · -- the members of an object
      refine Follows.map_other (((follows_readList (follows_readEntry hvalue)).map ofMembers).congr ?_)
      intro members
      have hmembers : members.mapM (fun m => some (m.1, m.2.sorted)) = some (members.map fun m => (m.1, m.2.sorted)) :=
        List.mapM_pure
      simp only [Option.map_some]
      rw [hmembers, sorted, sortedMembers_eq_map]
      rfl
    next hobject => exact follows_readScalar harray hobject

/-- A whole text is read where a value is and nothing is left but blanks. -/
theorem toOption_whole {α : Type} (read : Reader α) (cs : List Char) :
    (do
      let (a, rest) ← read.run cs
      readEnd rest
      .ok a : Except Fault α).toOption =
    (run? read cs).bind fun p => (readEnd p.2).toOption.map fun _ => p.1 := by
  show ((read cs).bind _).toOption = _
  unfold run?
  cases read cs with
  | error fault => rfl
  | ok p => cases h : readEnd p.2 <;> simp [h, bind, Except.bind, Except.toOption]

theorem toOption_parseBy (object : List (String × Json) → Json) (text : String) :
    (parseBy object text).toOption = (run? (readValueBy object maxDepth) text.toList).bind fun p =>
      (readEnd p.2).toOption.map fun _ => p.1 := toOption_whole (readValueBy object maxDepth) text.toList

/-- A text spells the value as it is written, with the members of objects in ascending order. -/
theorem parse_eq_sorted (text : String) : (parse text).toOption = (written text).toOption.map sorted := by
  have hread : Follows (readValueBy ofMembers maxDepth) (readValueBy .object maxDepth) fun j => some j.sorted :=
    Follows.behind nextChar (follows_readFrom maxDepth)
  unfold parse written
  rw [toOption_parseBy, toOption_parseBy, hread text.toList]
  unfold through
  cases run? (readValueBy .object maxDepth) text.toList with
  | none => rfl
  | some p => cases h : (readEnd p.2).toOption <;> simp [h]

/-- A text that begins as an object spells one. -/
theorem exists_object_of_written {text : String} (h : (skipBlanks text.toList).head? = some '\x7b')
    (hj : written text = .ok j) : ∃ members, j = .object members := by
  obtain ⟨rest, hrest⟩ := List.head?_eq_some_iff.1 h
  have hread := toOption_parseBy .object text
  rw [← written, hj, run?_readValueBy, hrest] at hread
  obtain ⟨p, hp, hend⟩ := Option.bind_eq_some_iff.1 hread.symm
  obtain ⟨_, _, rfl⟩ := Option.map_eq_some_iff.1 hend
  exact exists_object_of_begins (begins_of_readFrom hp)

end Json

end Tether
