import Tether.Node
import Tether.Proofs.Address.Brackets
import Tether.Proofs.Url.Parts

namespace Tether

/-! # The hosts of URLs

A URL that names a node has a host, and the text of the host is not empty and opens no bracket
(`Url.bare_of_node`): a name may not hold one, and an IPv6 address is written without its own. So the host may stand in
an address.
-/

/-! ## The characters of IPv6 addresses -/

theorem mem_intercalate {c : Char} {sep : String} {parts : List String} (h : c ∈ (sep.intercalate parts).toList) :
    c ∈ sep.toList ∨ ∃ s ∈ parts, c ∈ s.toList := by
  induction parts with
  | nil => simp at h
  | cons a rest ih =>
    cases rest with
    | nil => exact .inr ⟨a, by simp, by simpa using h⟩
    | cons b rest =>
      rw [String.intercalate_cons_cons, String.toList_append, String.toList_append, List.mem_append,
        List.mem_append] at h
      rcases h with (ha | hsep) | hrest
      · exact .inr ⟨a, by simp, ha⟩
      · exact .inl hsep
      · rcases ih hrest with hsep | ⟨s, hs, hc⟩
        · exact .inl hsep
        · exact .inr ⟨s, List.mem_cons_of_mem a hs, hc⟩

/-- The digits of a number are those of its base. -/
theorem exists_digit_of_mem_toDigits {base n : Nat} (hbase : 1 < base) {c : Char} (h : c ∈ Nat.toDigits base n) :
    ∃ d < base, c = Nat.digitChar d := by
  induction n using Nat.strongRecOn with
  | ind n ih =>
    rw [Nat.toDigits_eq_if hbase] at h
    split at h
    · next hlt => exact ⟨n, hlt, List.mem_singleton.1 h⟩
    · next hge =>
      rcases List.mem_append.1 h with hfirst | hlast
      · exact ih (n / base) (Nat.div_lt_self (by omega) hbase) hfirst
      · exact ⟨n % base, Nat.mod_lt n (by omega), List.mem_singleton.1 hlast⟩

theorem Hex.notMem_ofNat (n : Nat) : '[' ∉ (Hex.ofNat n).toList := by
  intro h
  rw [Hex.ofNat, String.toList_ofList] at h
  obtain ⟨d, hd, hc⟩ := exists_digit_of_mem_toDigits (by decide) h
  have hall : ∀ d < 16, '[' ≠ Nat.digitChar d := by decide
  exact hall d hd hc

theorem Decimal.notMem_ofNat (n : Nat) : '[' ∉ (Decimal.ofNat n).toList := by
  intro h
  exact absurd (Decimal.digit_of_mem_ofNat h) (by decide)

namespace Ipv6

theorem notMem_groupsText (groups : List Nat) : '[' ∉ (groupsText groups).toList := by
  intro h
  rcases mem_intercalate h with hsep | ⟨s, hs, hc⟩
  · exact absurd hsep (by decide)
  · obtain ⟨n, -, rfl⟩ := List.mem_map.1 hs
    exact Hex.notMem_ofNat n hc

theorem notMem_dotted (numbers : List Nat) : '[' ∉ (".".intercalate (numbers.map Decimal.ofNat)).toList := by
  intro h
  rcases mem_intercalate h with hsep | ⟨s, hs, hc⟩
  · exact absurd hsep (by decide)
  · obtain ⟨n, -, rfl⟩ := List.mem_map.1 hs
    exact Decimal.notMem_ofNat n hc

/-- Eight groups between colons are some text. -/
theorem groupsText_ne_empty {groups : List Nat} (h : groups.length = 8) : groupsText groups ≠ "" := by
  match groups, h with
  | a :: b :: rest, _ =>
    intro hempty
    have hlist := congrArg String.toList hempty
    simp [groupsText, String.intercalate_cons_cons] at hlist

theorem bare_text (a : Ipv6) : Address.IsBare a.text := by
  have hlength := a.length_groups
  unfold text
  split
  · refine ⟨fun hempty => ?_, fun h => ?_⟩
    · have hlist := congrArg String.toList hempty
      simp at hlist
    · rw [String.toList_append, List.mem_append] at h
      exact h.elim (by decide) (notMem_dotted _)
  · simp only
    split
    · refine ⟨fun hempty => ?_, fun h => ?_⟩
      · have hlist := congrArg String.toList hempty
        simp at hlist
      · simp only [String.toList_append, List.mem_append] at h
        rcases h with (hleft | hgap) | hright
        · exact notMem_groupsText _ hleft
        · exact absurd hgap (by decide)
        · exact notMem_groupsText _ hright
    · exact ⟨groupsText_ne_empty hlength, notMem_groupsText _⟩

end Ipv6

/-! ## The characters of names -/

namespace Percent

theorem notMem_escape (b : UInt8) : '[' ∉ escape b := by
  have hdigit : ∀ n < 16, '[' ≠ upperDigit n := by decide
  have hlt := b.toNat_lt
  intro h
  simp only [escape, List.mem_cons, List.not_mem_nil, or_false] at h
  rcases h with h | h | h
  · exact absurd h (by decide)
  · exact hdigit _ (by omega) h
  · exact hdigit _ (by omega) h

/-- Escapes bring no bracket in. -/
theorem notMem_encodeControl {c : Char} (h : c ≠ '[') : '[' ∉ encodeControl c := by
  unfold encodeControl
  split
  · intro hm
    obtain ⟨b, -, hb⟩ := List.mem_flatMap.1 hm
    exact notMem_escape b hb
  · simpa using h.symm

theorem encodeControl_ne_nil (c : Char) : encodeControl c ≠ [] := by
  unfold encodeControl
  split
  · intro h
    have hbytes : String.utf8EncodeChar c ≠ [] := String.utf8EncodeChar_ne_nil
    obtain ⟨b, rest, hb⟩ := List.exists_cons_of_ne_nil hbytes
    simp [hb, escape] at h
  · exact List.cons_ne_nil _ _

end Percent

namespace Url

theorem bare_of_host? {cs : List Char} {host : UrlHost} (h : host? cs = some (some host)) :
    Address.IsBare host.text := by
  unfold host? at h
  split at h
  · cases h
  · split at h
    · obtain ⟨a, -, ha⟩ := Option.map_eq_some_iff.1 h
      cases ha
      exact a.bare_text
    · cases h
  · next hnil _ =>
    split at h
    · cases h
    · next hallowed =>
      cases h
      obtain ⟨c, r, rfl⟩ := List.exists_cons_of_ne_nil hnil
      refine ⟨fun hempty => ?_, fun hm => ?_⟩
      · have hlist := congrArg String.toList hempty
        simp [UrlHost.text, Percent.encodeControl_ne_nil] at hlist
      · rw [UrlHost.text, String.toList_ofList, List.mem_flatMap] at hm
        obtain ⟨d, hd, hm⟩ := hm
        refine Percent.notMem_encodeControl ?_ hm
        rintro rfl
        exact hallowed (List.any_eq_true.2 ⟨'[', hd, by decide⟩)

/-- The host of a URL stands in its text. -/
theorem exists_host?_of_ofText? {text : String} {u : Url} {host : UrlHost} (h : ofText? text = some u)
    (hhost : u.host = some host) : ∃ cs, host? cs = some (some host) := by
  unfold ofText? at h
  obtain ⟨⟨scheme, rest⟩, -, h⟩ := Option.bind_eq_some_iff.1 h
  simp only at h
  split at h
  · rw [withAuthority?_eq] at h
    obtain ⟨a, ha, rfl⟩ := Option.map_eq_some_iff.1 h
    unfold authority? at ha
    dsimp only at ha
    split at ha
    · cases ha
    · unfold authorityOf? at ha
      obtain ⟨found, hfound, ha⟩ := Option.bind_eq_some_iff.1 ha
      split at ha
      · cases ha
      · obtain ⟨r, -, rfl⟩ := Option.map_eq_some_iff.1 ha
        obtain rfl : found = some host := hhost
        exact ⟨_, hfound⟩
  · -- there is no authority, and no host
    cases h
    cases hhost

theorem exists_host_of_networkNode {u : Url} {n : Node} (h : networkNode u = .ok n) :
    ∃ host, u.host = some host ∧ n.host = host.text := by
  unfold networkNode at h
  cases hhost : u.host with
  | none =>
    rw [hhost] at h
    cases h
  | some host =>
    rw [hhost] at h
    refine ⟨host, rfl, ?_⟩
    -- all that is read after the host may fail and leaves the host as it is
    obtain ⟨security, -, h⟩ := exists_of_bind_eq_ok h
    obtain ⟨database, -, h⟩ := exists_of_bind_eq_ok h
    dsimp only at h
    split at h <;> obtain ⟨username, -, h⟩ := exists_of_bind_eq_ok h
    all_goals
      split at h <;> obtain ⟨password, -, h⟩ := exists_of_bind_eq_ok h
      all_goals
        obtain ⟨_, -, h⟩ := exists_of_bind_eq_ok h
        cases h
        rfl

/-- The host of a node that a URL names may stand in an address. -/
theorem bare_of_node {text : String} {n : Node} (h : node text = .ok n) : Address.IsBare n.host := by
  unfold node at h
  split at h
  · cases h
  · next u hu =>
    split at h
    · obtain ⟨host, hhost, hn⟩ := exists_host_of_networkNode h
      obtain ⟨cs, hcs⟩ := exists_host?_of_ofText? hu hhost
      rw [hn]
      exact bare_of_host? hcs
    · split at h <;> cases h

end Url

end Tether
