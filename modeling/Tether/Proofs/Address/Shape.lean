import Tether.Address
import Tether.Proofs.Text.Integer
import Tether.Proofs.Text.Split

namespace Tether

/-! # The shape of an address

What is accepted as an address, by its last colon (`Address.endpoint?_eq_some_iff`). An address that opens no
bracket ends before the first comma behind its first colon (`Address.Plain`). One that opens a bracket does not: with a
comma and any other address behind it, it is an address again (`Address.endpoint?_merge`).
-/

namespace Address

theorem stripBrackets_of_head?_ne {cs : List Char} (h : cs.head? ≠ some '[') : stripBrackets cs = cs := by
  unfold stripBrackets
  split
  · exact absurd rfl h
  · rfl

theorem endpoint?_eq_some_iff_split {a : String} {e : Endpoint} : endpoint? a = some e ↔ split a = .ok e := by
  unfold endpoint?
  cases split a <;> simp [Except.toOption]

theorem isSome_endpoint?_iff {a : String} : (endpoint? a).isSome = true ↔ ∃ e, split a = .ok e := by
  simp only [Option.isSome_iff_exists, endpoint?_eq_some_iff_split]

/-- A text is an address by what stands before and after its last colon. -/
theorem endpoint?_eq_some_iff {a : String} {e : Endpoint} :
    endpoint? a = some e ↔
      ∃ before after n, a.toList = before ++ ':' :: after ∧ stripBrackets before ≠ [] ∧
        (':' ∈ stripBrackets before → before.head? = some '[') ∧ Decimal.natural? 65535 after = some n ∧
        e = ⟨String.ofList (stripBrackets before), UInt16.ofNat n⟩ := by
  have hhead : ∀ before after : List Char, stripBrackets before ≠ [] →
      (before ++ ':' :: after).head? = before.head? := by
    intro before after hne
    cases before with
    | nil => exact absurd rfl hne
    | cons c r => rfl
  constructor
  · intro h
    unfold endpoint? split splitChars at h
    split at h
    · cases h
    · next before after hcut =>
      have hcs := (Split.atLast?_eq_some_iff.1 hcut).1
      simp only at h
      split at h
      · cases h
      · next hempty =>
        split at h
        · cases h
        · next hcolon =>
          split at h
          · cases h
          · next n hn =>
            cases h
            have hne : stripBrackets before ≠ [] := fun he => hempty (List.isEmpty_iff.2 he)
            refine ⟨before, after, n, hcs, hne, ?_, hn, rfl⟩
            intro hmem
            rw [← hhead before after hne, ← hcs]
            apply Decidable.byContradiction
            intro hno
            exact hcolon ⟨List.contains_iff_mem.2 hmem, hno⟩
  · rintro ⟨before, after, n, hcs, hne, hcolon, hn, rfl⟩
    -- a port holds no colon, so this is the last one
    have hcut : Split.atLast? ':' a.toList = some (before, after) :=
      Split.atLast?_eq_some_iff.2 ⟨hcs, Decimal.notMem_of_natural? hn (by decide)⟩
    have hbracket : ¬ ((stripBrackets before).contains ':' = true ∧ a.toList.head? ≠ some '[') := by
      rintro ⟨hmem, hno⟩
      rw [hcs, hhead before after hne] at hno
      exact hno (hcolon (List.contains_iff_mem.1 hmem))
    unfold endpoint? split splitChars
    simp only [hcut]
    rw [if_neg (by simpa using hne), if_neg hbracket, hn]
    rfl

theorem exists_of_isSome {a : String} (ha : (endpoint? a).isSome) :
    ∃ before after n, a.toList = before ++ ':' :: after ∧ stripBrackets before ≠ [] ∧
      (':' ∈ stripBrackets before → before.head? = some '[') ∧ Decimal.natural? 65535 after = some n := by
  obtain ⟨e, he⟩ := Option.isSome_iff_exists.1 ha
  obtain ⟨before, after, n, hcs, hne, hcolon, hn, _⟩ := endpoint?_eq_some_iff.1 he
  exact ⟨before, after, n, hcs, hne, hcolon, hn⟩

/-! ## Where an address ends -/

/-- The first character is an opening bracket. -/
def Opens (a : String) : Prop := a.toList.head? = some '['

instance (a : String) : Decidable (Opens a) := inferInstanceAs (Decidable (_ = _))

/-- There is a colon, and no comma stands behind the first one. -/
def Plain (a : String) : Prop := ∃ p ∈ Split.atFirst? ':' a.toList, ',' ∉ p.2

instance (a : String) : Decidable (Plain a) := inferInstanceAs (Decidable (∃ p ∈ Split.atFirst? ':' a.toList, _))

theorem plain_iff {a : String} :
    Plain a ↔ ∃ before after, a.toList = before ++ ':' :: after ∧ ':' ∉ before ∧ ',' ∉ after := by
  constructor
  · rintro ⟨⟨before, after⟩, hcut, hafter⟩
    exact ⟨before, after, Split.atFirst?_eq_some hcut, Split.notMem_of_atFirst?_eq_some hcut, hafter⟩
  · rintro ⟨before, after, hcs, hbefore, hafter⟩
    refine ⟨(before, after), ?_, hafter⟩
    rw [hcs, Split.atFirst?_append hbefore]
    rfl

/-- An address that opens no bracket is plain. -/
theorem plain_of_not_opens {a : String} (ha : (endpoint? a).isSome) (h : ¬ Opens a) : Plain a := by
  obtain ⟨before, after, n, hcs, hne, hcolon, hn⟩ := exists_of_isSome ha
  have hopen : before.head? ≠ some '[' := by
    intro hhead
    apply h
    rw [Opens, hcs, List.head?_append, hhead]
    rfl
  -- without a bracket the host holds no colon
  rw [stripBrackets_of_head?_ne hopen] at hcolon
  have hbefore : ':' ∉ before := fun hm => hopen (hcolon hm)
  exact plain_iff.2 ⟨before, after, hcs, hbefore, Decimal.notMem_of_natural? hn (by decide)⟩

/-- Plain texts with something behind their commas are told apart. -/
theorem Plain.append_inj {a b : String} (ha : Plain a) (hb : Plain b) {r s : List Char}
    (h : a.toList ++ ',' :: r = b.toList ++ ',' :: s) : a = b ∧ r = s := by
  obtain ⟨before, after, hcs, hbefore, hafter⟩ := plain_iff.1 ha
  obtain ⟨before', after', hcs', hbefore', hafter'⟩ := plain_iff.1 hb
  rw [hcs, hcs', List.append_assoc, List.append_assoc] at h
  -- the first colons come first, then the first commas behind them
  obtain ⟨rfl, hrest⟩ := Split.append_cons_inj hbefore hbefore' h
  obtain ⟨rfl, rfl⟩ := Split.append_cons_inj hafter hafter' hrest
  exact ⟨String.toList_inj.1 (hcs.trans hcs'.symm), rfl⟩

/-- A plain text does not go on behind the comma of another. -/
theorem Plain.ne_append {a b : String} (ha : Plain a) (hb : Plain b) (r : List Char) :
    a.toList ≠ b.toList ++ ',' :: r := by
  intro h
  obtain ⟨before, after, hcs, hbefore, hafter⟩ := plain_iff.1 ha
  obtain ⟨before', after', hcs', hbefore', _⟩ := plain_iff.1 hb
  rw [hcs, hcs', List.append_assoc] at h
  obtain ⟨_, rfl⟩ := Split.append_cons_inj hbefore hbefore' h
  exact hafter (by simp)

/-! ## Two addresses in one -/

theorem ne_nil_of_stripBrackets_ne_nil {cs : List Char} (h : stripBrackets cs ≠ []) : cs ≠ [] := by
  rintro rfl
  exact h rfl

/-- Brackets are two characters at the most. -/
theorem stripBrackets_ne_nil {cs : List Char} (h : 2 < cs.length) : stripBrackets cs ≠ [] := by
  unfold stripBrackets
  split
  · next r =>
    split
    · intro hnil
      have hlen := congrArg List.length hnil
      simp only [List.length_dropLast, List.length_nil, List.length_cons] at hlen h
      omega
    · exact List.cons_ne_nil '[' r
  · intro hnil
    simp [hnil] at h

/-- An address that opens a bracket swallows the address behind it. -/
theorem endpoint?_merge {a b : String} (ha : (endpoint? a).isSome) (hb : (endpoint? b).isSome)
    (hopen : Opens a) : (endpoint? (a ++ "," ++ b)).isSome := by
  obtain ⟨before, after, _, hcs, hne, _⟩ := exists_of_isSome ha
  obtain ⟨before', after', n, hcs', _, _, hn⟩ := exists_of_isSome hb
  -- the host is all of the first address, the comma and the host of the second
  have hwhole : (a ++ "," ++ b).toList = (a.toList ++ ',' :: before') ++ ':' :: after' := by
    simp [hcs']
  have hlen : 2 < (a.toList ++ ',' :: before').length := by
    have hpos := List.length_pos_iff.2 (ne_nil_of_stripBrackets_ne_nil hne)
    simp only [hcs, List.length_append, List.length_cons]
    omega
  have hhead : (a.toList ++ ',' :: before').head? = some '[' := by
    rw [List.head?_append, hopen]
    rfl
  exact Option.isSome_iff_exists.2 ⟨_, endpoint?_eq_some_iff.2
    ⟨_, after', n, hwhole, stripBrackets_ne_nil hlen, fun _ => hhead, hn, rfl⟩⟩

theorem opens_append_iff {a : String} (ha : (endpoint? a).isSome) (b : String) : Opens (a ++ b) ↔ Opens a := by
  obtain ⟨before, after, _, hcs, hne, _⟩ := exists_of_isSome ha
  obtain ⟨c, r, rfl⟩ := List.exists_cons_of_ne_nil (ne_nil_of_stripBrackets_ne_nil hne)
  simp [Opens, hcs]

/-- Where an address goes on behind the comma of another, both open a bracket. -/
theorem opens_of_append {a b : String} (ha : (endpoint? a).isSome) (hab : (endpoint? (a ++ "," ++ b)).isSome) :
    Opens a := by
  apply Decidable.byContradiction
  intro h
  have hplain : Plain (a ++ "," ++ b) := plain_of_not_opens hab (by rwa [String.append_assoc, opens_append_iff ha])
  exact hplain.ne_append (plain_of_not_opens ha h) b.toList (by simp)

end Address

end Tether
