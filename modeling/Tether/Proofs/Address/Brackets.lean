import Tether.Proofs.Address.Shape
import Tether.Proofs.Descriptor.New

namespace Tether

/-! # Hosts and brackets

A host that holds colons belongs in brackets, which are not part of it. We say exactly what an address is, form by
form (`Address.split_eq_ok_iff`): a host without colons, a host in brackets, and, with what is left of a pair of
brackets, a host with colons that opens a bracket and does not close it. What has none of these forms is refused, with
the address in the error. So a host without brackets of its own survives in an address (`Address.split_join`).
-/

namespace Address

/-! ## Taking brackets off -/

@[simp] theorem stripBrackets_bracketed (x : List Char) : stripBrackets ('[' :: (x ++ [']'])) = x := by
  simp [stripBrackets]

theorem stripBrackets_of_ne {cs : List Char} (h : ∀ x, cs ≠ '[' :: (x ++ [']'])) : stripBrackets cs = cs := by
  unfold stripBrackets
  split
  · next r =>
    split
    · next hlast =>
      obtain ⟨x, hx⟩ := List.getLast?_eq_some_iff.1 hlast
      exact absurd (congrArg ('[' :: ·) hx) (h x)
    · rfl
  · rfl

/-- A host that is kept as it stands is not in brackets, and the other way round. -/
theorem stripBrackets_eq_iff {cs host : List Char} (hne : host ≠ []) :
    stripBrackets cs = host ↔ (cs = host ∧ ∀ x, host ≠ '[' :: (x ++ [']'])) ∨ cs = '[' :: (host ++ [']']) := by
  constructor
  · intro h
    by_cases hb : ∃ x, cs = '[' :: (x ++ [']'])
    · obtain ⟨x, rfl⟩ := hb
      rw [stripBrackets_bracketed] at h
      exact Or.inr (by rw [h])
    · have hno : ∀ x, cs ≠ '[' :: (x ++ [']']) := fun x hx => hb ⟨x, hx⟩
      rw [stripBrackets_of_ne hno] at h
      subst h
      exact Or.inl ⟨rfl, hno⟩
  · rintro (⟨rfl, hno⟩ | rfl)
    · exact stripBrackets_of_ne hno
    · exact stripBrackets_bracketed host

/-- Brackets at both ends are a pair around the text between them. -/
theorem exists_bracketed {cs : List Char} (hopen : cs.head? = some '[') (hclose : cs.getLast? = some ']') :
    ∃ x, cs = '[' :: (x ++ [']']) := by
  obtain ⟨r, rfl⟩ := List.head?_eq_some_iff.1 hopen
  cases r with
  | nil => simp at hclose -- one character is not both brackets
  | cons c r =>
    rw [List.getLast?_cons_cons] at hclose
    obtain ⟨x, hx⟩ := List.getLast?_eq_some_iff.1 hclose
    exact ⟨x, congrArg ('[' :: ·) hx⟩

/-- What stands before the port gives a host in one of three ways. -/
theorem host_iff {before h : String} :
    (stripBrackets before.toList = h.toList ∧ h ≠ "" ∧ (':' ∈ h.toList → Opens before)) ↔
      (before = h ∧ h ≠ "" ∧ ':' ∉ h.toList ∧ ∀ x, h ≠ "[" ++ x ++ "]") ∨
        (before = "[" ++ h ++ "]" ∧ h ≠ "") ∨
        (before = h ∧ ':' ∈ h.toList ∧ Opens h ∧ h.toList.getLast? ≠ some ']') := by
  constructor
  · rintro ⟨hstrip, hne, hcolon⟩
    have hne' : h.toList ≠ [] := by simpa using hne
    rcases (stripBrackets_eq_iff hne').1 hstrip with ⟨hsame, hno⟩ | hbracketed
    · -- no brackets were taken off
      obtain rfl := String.toList_inj.1 hsame
      by_cases hmem : ':' ∈ before.toList
      · -- the first character is a bracket, and if the last one were too they would have been taken off
        refine Or.inr (Or.inr ⟨rfl, hmem, hcolon hmem, ?_⟩)
        intro hclose
        obtain ⟨x, hx⟩ := exists_bracketed (hcolon hmem) hclose
        exact hno x hx
      · refine Or.inl ⟨rfl, hne, hmem, ?_⟩
        rintro x rfl
        exact hno x.toList (by simp)
    · exact Or.inr (Or.inl ⟨String.toList_inj.1 (by simp [hbracketed]), hne⟩)
  · rintro (⟨rfl, hne, hmem, hno⟩ | ⟨rfl, hne⟩ | ⟨rfl, hmem, hopen, hclose⟩)
    · refine ⟨stripBrackets_of_ne ?_, hne, fun hm => absurd hm hmem⟩
      intro x hx
      exact hno (String.ofList x) (String.toList_inj.1 (by simp [hx]))
    · exact ⟨by simp [stripBrackets_bracketed h.toList], hne, fun _ => by simp [Opens]⟩
    · refine ⟨stripBrackets_of_ne ?_, ?_, fun _ => hopen⟩
      · intro x hx
        exact hclose (by rw [hx, List.getLast?_cons, List.getLast?_concat]; rfl)
      · rintro rfl
        simp at hmem

/-! ## The forms of an address -/

/-- An address by what is taken off it: the port behind the last colon, then the brackets. -/
theorem split_eq_ok_iff_stripBrackets {a h : String} {p : UInt16} :
    split a = .ok ⟨h, p⟩ ↔
      ∃ before t : String, a = before ++ ":" ++ t ∧ Decimal.natural? 65535 t.toList = some p.toNat ∧
        stripBrackets before.toList = h.toList ∧ h ≠ "" ∧ (':' ∈ h.toList → Opens before) := by
  rw [← endpoint?_eq_some_iff_split, endpoint?_eq_some_iff]
  constructor
  · rintro ⟨before, after, n, hcs, hne, hcolon, hn, he⟩
    obtain ⟨rfl, rfl⟩ := Endpoint.mk.inj he
    have hlt : n < UInt16.size := Nat.lt_succ_of_le (Decimal.natural?_le hn)
    refine ⟨String.ofList before, String.ofList after, String.toList_inj.1 (by simp [hcs]), ?_, ?_, ?_, ?_⟩
    · simpa [UInt16.toNat_ofNat_of_lt' hlt] using hn
    · simp
    · simpa using hne
    · simpa [Opens] using hcolon
  · rintro ⟨before, t, rfl, hn, hstrip, hne, hcolon⟩
    refine ⟨before.toList, t.toList, p.toNat, by simp, ?_, ?_, hn, ?_⟩
    · rw [hstrip]
      simpa using hne
    · rwa [hstrip]
    · simp [hstrip]

/-- The host may stand in an address: there is something of it, and it opens no bracket. -/
structure IsBare (host : String) : Prop where
  ne_empty : host ≠ ""
  notMem_bracket : '[' ∉ host.toList

/-- What is put together from such a host is taken apart again. -/
theorem split_join {host : String} (h : IsBare host) (port : UInt16) : split (join host port) = .ok ⟨host, port⟩ := by
  have hport : Decimal.natural? 65535 (Decimal.ofNat port.toNat).toList = some port.toNat :=
    Decimal.natural?_ofNat (Nat.le_of_lt_succ port.toNat_lt_size)
  have hhead : host.toList.head? ≠ some '[' := fun hopen => h.notMem_bracket (List.mem_of_mem_head? hopen)
  unfold join
  rw [split_eq_ok_iff_stripBrackets]
  split
  · -- the brackets that are put around the host are taken off
    refine ⟨"[" ++ host ++ "]", Decimal.ofNat port.toNat, ?_, hport, host_iff.2 (.inr (.inl ⟨rfl, h.ne_empty⟩))⟩
    exact String.toList_inj.1 (by simp)
  · next hcolon =>
    refine ⟨host, Decimal.ofNat port.toNat, rfl, hport, host_iff.2 (.inl ⟨rfl, h.ne_empty, ?_, ?_⟩)⟩
    · intro hmem
      exact hcolon ⟨List.contains_iff_mem.2 hmem, hhead⟩
    · rintro x rfl
      exact h.notMem_bracket (by simp)

theorem endpoint?_join {host : String} (h : IsBare host) (port : UInt16) :
    endpoint? (join host port) = some ⟨host, port⟩ :=
  endpoint?_eq_some_iff_split.2 (split_join h port)

/-- An address that does not split makes no descriptor, and is in the error. -/
theorem single_eq_error_iff {a : String} {fault : Fault} :
    Descriptor.single a = .error (.invalidAddress a fault) ↔ split a = .error fault := by
  constructor
  · intro h
    cases hs : split a with
    | ok e =>
      have haccepted : ∀ b ∈ [a], (endpoint? b).isSome := by
        intro b hb
        rw [List.mem_singleton.1 hb, endpoint?, hs]
        rfl
      have hd : Descriptor.single a = .ok (.ofAddresses [a] (by simp) haccepted) :=
        Descriptor.new_eq_ok_iff.2 ⟨rfl, rfl, rfl⟩
      rw [hd] at h
      cases h
    | error other =>
      have hfirst : Descriptor.firstFault? [a] = some (a, other) := by simp [Descriptor.firstFault?, hs]
      rw [Descriptor.single, Descriptor.new_of_firstFault?_eq_some hfirst] at h
      cases h
      rfl
  · intro hs
    exact Descriptor.new_of_firstFault?_eq_some (by simp [Descriptor.firstFault?, hs]) .single {}

/-- A text is an address with this host and port exactly if it is a host without colons, not in brackets, or a host in
brackets, or a host with colons that opens a bracket and does not end by closing one; and behind it a colon and the port,
which holds no colon. Every other text is refused as an address, with the text in the error. -/
theorem split_eq_ok_iff (a : String) :
    (∀ (h : String) (p : UInt16), split a = .ok ⟨h, p⟩ ↔
      ∃ t : String, ':' ∉ t.toList ∧ Decimal.natural? 65535 t.toList = some p.toNat ∧
        ((a = h ++ ":" ++ t ∧ h ≠ "" ∧ ':' ∉ h.toList ∧ ∀ x, h ≠ "[" ++ x ++ "]") ∨
          (a = "[" ++ h ++ "]:" ++ t ∧ h ≠ "") ∨
          (a = h ++ ":" ++ t ∧ ':' ∈ h.toList ∧ Opens h ∧ h.toList.getLast? ≠ some ']'))) ∧
    ((∀ (h : String) (p : UInt16), split a ≠ .ok ⟨h, p⟩) ↔
      ∃ fault, Descriptor.single a = .error (.invalidAddress a fault)) := by
  have hbracketed : ∀ h t : String, "[" ++ h ++ "]" ++ ":" ++ t = "[" ++ h ++ "]:" ++ t :=
    fun h t => String.toList_inj.1 (by simp)
  constructor
  · intro h p
    rw [split_eq_ok_iff_stripBrackets]
    constructor
    · rintro ⟨before, t, rfl, hn, hhost⟩
      refine ⟨t, Decimal.notMem_of_natural? hn (by decide), hn, ?_⟩
      rcases host_iff.1 hhost with ⟨rfl, hplain⟩ | ⟨rfl, hne⟩ | ⟨rfl, hopen⟩
      · exact Or.inl ⟨rfl, hplain⟩
      · exact Or.inr (Or.inl ⟨hbracketed h t, hne⟩)
      · exact Or.inr (Or.inr ⟨rfl, hopen⟩)
    · rintro ⟨t, _, hn, ⟨rfl, hplain⟩ | ⟨rfl, hne⟩ | ⟨rfl, hopen⟩⟩
      · exact ⟨h, t, rfl, hn, host_iff.2 (Or.inl ⟨rfl, hplain⟩)⟩
      · exact ⟨"[" ++ h ++ "]", t, (hbracketed h t).symm, hn, host_iff.2 (Or.inr (Or.inl ⟨rfl, hne⟩))⟩
      · exact ⟨h, t, rfl, hn, host_iff.2 (Or.inr (Or.inr ⟨rfl, hopen⟩))⟩
  · simp only [single_eq_error_iff]
    cases split a with
    | ok e =>
      constructor
      · intro hno
        exact absurd rfl (hno e.host e.port)
      · rintro ⟨_, ⟨⟩⟩
    | error fault =>
      constructor
      · intro _
        exact ⟨fault, rfl⟩
      · rintro _ h p ⟨⟩

/-- A bracket that is not closed lets a host hold colons. -/
theorem split_of_half_bracketed :
    split "[::1:6379" = .ok ⟨"[::1", 6379⟩ ∧
      ¬ ∃ t : String, ':' ∉ t.toList ∧ Decimal.natural? 65535 t.toList = some (6379 : UInt16).toNat ∧
        (("[::1:6379" = "[::1" ++ ":" ++ t ∧ "[::1" ≠ "" ∧ ':' ∉ "[::1".toList ∧ ∀ x, "[::1" ≠ "[" ++ x ++ "]") ∨
          ("[::1:6379" = "[" ++ "[::1" ++ "]:" ++ t ∧ "[::1" ≠ "")) := by
  refine ⟨rfl, ?_⟩
  rintro ⟨t, _, _, ⟨_, _, hmem, _⟩ | ⟨heq, _⟩⟩
  · exact hmem (by decide)
  · -- the second character is a colon, and not a bracket
    have hsecond := congrArg (fun s => s.toList[1]?) heq
    simp at hsecond

end Address

end Tether
