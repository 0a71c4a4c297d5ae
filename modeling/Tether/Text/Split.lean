namespace Tether

/-! # Cutting text at a separator

The two halves around the first or the last separator, and all the parts between separators. Putting the
halves back around the separator gives the text again (`Split.atFirst?_eq_some`, `Split.atLast?_eq_some`).
-/

namespace Split

/-- The parts before and after the first separator. -/
def atFirst? (sep : Char) : List Char → Option (List Char × List Char)
  | [] => none
  | c :: r => if c = sep then some ([], r) else (atFirst? sep r).map fun p => (c :: p.1, p.2)

/-- The parts before and after the last separator. -/
def atLast? (sep : Char) : List Char → Option (List Char × List Char)
  | [] => none
  | c :: r =>
    match atLast? sep r with
    | some (before, after) => some (c :: before, after)
    | none => if c = sep then some ([], r) else none

/-- The parts between separators: one more than there are separators. -/
def parts (sep : Char) : List Char → List (List Char)
  | [] => [[]]
  | c :: r =>
    if c = sep then [] :: parts sep r
    else
      match parts sep r with
      | [] => [[c]]
      | p :: ps => (c :: p) :: ps

/-- The text `part` stands somewhere in the other. -/
def occurs (part : List Char) : List Char → Bool
  | [] => part.isEmpty
  | c :: r => part.isPrefixOf (c :: r) || occurs part r

theorem atFirst?_eq_some {sep : Char} {cs before after : List Char}
    (h : atFirst? sep cs = some (before, after)) : cs = before ++ sep :: after := by
  induction cs generalizing before with
  | nil => simp [atFirst?] at h
  | cons c r ih =>
    by_cases hc : c = sep
    · simp_all [atFirst?]
    · simp only [atFirst?, hc, if_false, Option.map_eq_some_iff] at h
      obtain ⟨p, hp, he⟩ := h
      cases he
      simpa using ih hp

theorem atLast?_eq_some {sep : Char} {cs before after : List Char}
    (h : atLast? sep cs = some (before, after)) : cs = before ++ sep :: after := by
  induction cs generalizing before with
  | nil => simp [atLast?] at h
  | cons c r ih =>
    unfold atLast? at h
    split at h
    · next hp => cases h; simp [ih hp]
    · split at h
      · cases h; simp_all
      · simp at h

end Split

end Tether
