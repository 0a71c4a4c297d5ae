import Tether.Proofs.Text.Bits
import Tether.Text.Base64

namespace Tether

/-! # Base64 and back

What `Base64.encode` writes, `Base64.decode?` reads, and it reads nothing else. We show:

* `decode?_encode`, `encode_injective`: reading gives back what was written, so different bytes have different texts;
* `decode?_eq_some_iff`: bytes are read from the one text that is written for them, and from no other;
* `spells_iff`: this text is also the only one that spells the bytes, where that is said of the bits (`Spells`).
-/

namespace Base64

/-- The alphabet has a character for each value of six bits. -/
theorem value?_char : ∀ {n : Nat}, n < 64 → value? (char n) = some n := by
  decide

theorem decodeChars?_encodeChars (bs : Bytes) : decodeChars? (encodeChars bs) = some bs := by
  -- three bytes at a time, and one or two that are left over
  induction bs using encodeChars.induct with
  | case1 => rfl
  | case2 a =>
    have ha := a.toNat_lt
    have h₁ := value?_char (show a.toNat / 4 < 64 by omega)
    have h₂ := value?_char (show a.toNat % 4 * 16 < 64 by omega)
    have hfill : a.toNat % 4 * 16 % 16 = 0 := by omega
    have hbyte : a.toNat / 4 * 4 + a.toNat % 4 * 16 / 16 = a.toNat := by omega
    simp only [encodeChars, decodeChars?, h₁, h₂, Option.bind_eq_bind, Option.bind_some, hfill, hbyte, if_true,
      UInt8.ofNat_toNat]
  | case3 a b =>
    have ha := a.toNat_lt
    have hb := b.toNat_lt
    have h₁ := value?_char (show a.toNat / 4 < 64 by omega)
    have h₂ := value?_char (show a.toNat % 4 * 16 + b.toNat / 16 < 64 by omega)
    have h₃ := value?_char (show b.toNat % 16 * 4 < 64 by omega)
    have hfill : b.toNat % 16 * 4 % 4 = 0 := by omega
    have hfirst : a.toNat / 4 * 4 + (a.toNat % 4 * 16 + b.toNat / 16) / 16 = a.toNat := by omega
    have hsecond : (a.toNat % 4 * 16 + b.toNat / 16) % 16 * 16 + b.toNat % 16 * 4 / 4 = b.toNat := by omega
    simp only [encodeChars, decodeChars?, h₁, h₂, h₃, Option.bind_eq_bind, Option.bind_some, hfill, hfirst, hsecond,
      if_true, UInt8.ofNat_toNat]
  | case4 a b c r ih =>
    have ha := a.toNat_lt
    have hb := b.toNat_lt
    have hc := c.toNat_lt
    have h₁ := value?_char (show a.toNat / 4 < 64 by omega)
    have h₂ := value?_char (show a.toNat % 4 * 16 + b.toNat / 16 < 64 by omega)
    have h₃ := value?_char (show b.toNat % 16 * 4 + c.toNat / 64 < 64 by omega)
    have h₄ := value?_char (show c.toNat % 64 < 64 by omega)
    have hfirst : a.toNat / 4 * 4 + (a.toNat % 4 * 16 + b.toNat / 16) / 16 = a.toNat := by omega
    have hsecond : (a.toNat % 4 * 16 + b.toNat / 16) % 16 * 16 + (b.toNat % 16 * 4 + c.toNat / 64) / 4 =
      b.toNat := by omega
    have hthird : (b.toNat % 16 * 4 + c.toNat / 64) % 4 * 64 + c.toNat % 64 = c.toNat := by omega
    simp only [encodeChars, decodeChars?, h₁, h₂, h₃, h₄, ih, Option.bind_eq_bind, Option.bind_some, hfirst, hsecond,
      hthird, UInt8.ofNat_toNat]

/-- Reading gives back what was written. -/
theorem decode?_encode (bs : Bytes) : decode? (encode bs) = some bs := by
  rw [decode?, encode, String.toList_ofList]
  exact decodeChars?_encodeChars bs

/-- Different bytes have different texts. -/
theorem encode_injective {as bs : Bytes} (h : encode as = encode bs) : as = bs := by
  have hread := decode?_encode as
  rw [h, decode?_encode] at hread
  exact (Option.some.inj hread).symm

/-! ## One text for some bytes -/

/-- A character is found again at its distance from one before it. -/
theorem ofNat_add_sub {c d : Char} (h : d ≤ c) : Char.ofNat (d.toNat + (c.toNat - d.toNat)) = c := by
  have hle : d.toNat ≤ c.toNat := h
  rw [Nat.add_sub_cancel' hle, Char.ofNat_toNat]

/-- Only the character for a value has this value. -/
theorem eq_char_of_value? {c : Char} {n : Nat} (h : value? c = some n) : n < 64 ∧ c = char n := by
  unfold value? at h
  split at h
  · next hc =>
    have hle : c.toNat ≤ 'A'.toNat + 25 := hc.2
    obtain rfl := Option.some.inj h
    rw [char, if_pos (by omega), ofNat_add_sub hc.1]
    exact ⟨by omega, rfl⟩
  split at h
  · next hc =>
    have hle : c.toNat ≤ 'a'.toNat + 25 := hc.2
    obtain rfl := Option.some.inj h
    rw [char, if_neg (by omega), if_pos (by omega), Nat.add_sub_cancel, ofNat_add_sub hc.1]
    exact ⟨by omega, rfl⟩
  split at h
  · next hc =>
    have hle : c.toNat ≤ '0'.toNat + 9 := hc.2
    obtain rfl := Option.some.inj h
    rw [char, if_neg (by omega), if_neg (by omega), if_pos (by omega), Nat.add_sub_cancel, ofNat_add_sub hc.1]
    exact ⟨by omega, rfl⟩
  split at h
  · next hc =>
    obtain rfl := Option.some.inj h
    exact ⟨by decide, hc⟩
  split at h
  · next hc =>
    obtain rfl := Option.some.inj h
    exact ⟨by decide, hc⟩
  · cases h

/-- Bytes are read from the one text that is written for them. -/
theorem eq_encodeChars_of_decodeChars? {cs : List Char} {bs : Bytes} (h : decodeChars? cs = some bs) :
    cs = encodeChars bs := by
  -- four characters at a time, and two or three that are left over
  induction cs using decodeChars?.induct generalizing bs with
  | case1 =>
    obtain rfl := Option.some.inj h
    rfl
  | case2 p => cases h
  | case3 p q =>
    simp only [decodeChars?, Option.bind_eq_bind, Option.bind_eq_some_iff] at h
    obtain ⟨x, hx, y, hy, h⟩ := h
    obtain ⟨hx, rfl⟩ := eq_char_of_value? hx
    obtain ⟨hy, rfl⟩ := eq_char_of_value? hy
    split at h
    · next hfill =>
      obtain rfl := Option.some.inj h
      have h₁ : (x * 4 + y / 16) / 4 = x := by omega
      have h₂ : (x * 4 + y / 16) % 4 * 16 = y := by omega
      rw [encodeChars, Bits.toNat_byte (by omega), h₁, h₂]
    · cases h
  | case4 p q r =>
    simp only [decodeChars?, Option.bind_eq_bind, Option.bind_eq_some_iff] at h
    obtain ⟨x, hx, y, hy, z, hz, h⟩ := h
    obtain ⟨hx, rfl⟩ := eq_char_of_value? hx
    obtain ⟨hy, rfl⟩ := eq_char_of_value? hy
    obtain ⟨hz, rfl⟩ := eq_char_of_value? hz
    split at h
    · next hfill =>
      obtain rfl := Option.some.inj h
      have h₁ : (x * 4 + y / 16) / 4 = x := by omega
      have h₂ : (x * 4 + y / 16) % 4 * 16 + (y % 16 * 16 + z / 4) / 16 = y := by omega
      have h₃ : (y % 16 * 16 + z / 4) % 16 * 4 = z := by omega
      rw [encodeChars, Bits.toNat_byte (by omega), Bits.toNat_byte (by omega), h₁, h₂, h₃]
    · cases h
  | case5 p q r s rest ih =>
    simp only [decodeChars?, Option.bind_eq_bind, Option.bind_eq_some_iff] at h
    obtain ⟨x, hx, y, hy, z, hz, w, hw, tail, htail, h⟩ := h
    obtain ⟨hx, rfl⟩ := eq_char_of_value? hx
    obtain ⟨hy, rfl⟩ := eq_char_of_value? hy
    obtain ⟨hz, rfl⟩ := eq_char_of_value? hz
    obtain ⟨hw, rfl⟩ := eq_char_of_value? hw
    obtain rfl := Option.some.inj h
    have h₁ : (x * 4 + y / 16) / 4 = x := by omega
    have h₂ : (x * 4 + y / 16) % 4 * 16 + (y % 16 * 16 + z / 4) / 16 = y := by omega
    have h₃ : (y % 16 * 16 + z / 4) % 16 * 4 + (z % 4 * 64 + w) / 64 = z := by omega
    have h₄ : (z % 4 * 64 + w) % 64 = w := by omega
    rw [encodeChars, Bits.toNat_byte (by omega), Bits.toNat_byte (by omega), Bits.toNat_byte (by omega), h₁, h₂, h₃, h₄,
      ← ih htail]

/-- A text is read as some bytes exactly if it is what is written for them. -/
theorem decode?_eq_some_iff {s : String} {bs : Bytes} : decode? s = some bs ↔ s = encode bs := by
  constructor
  · intro h
    rw [encode, ← eq_encodeChars_of_decodeChars? h, String.ofList_toList]
  · rintro rfl
    exact decode?_encode bs

theorem length_encodeChars (bs : Bytes) : (encodeChars bs).length = (4 * bs.length + 2) / 3 := by
  induction bs using encodeChars.induct with
  | case1 => rfl
  | case2 a => simp [encodeChars]
  | case3 a b => simp [encodeChars]
  | case4 a b c r ih =>
    simp only [encodeChars, List.length_cons, ih]
    omega

/-! ## Bit by bit -/

/-- The characters in the order of their values. -/
def alphabet : List Char :=
  ['A', 'B', 'C', 'D', 'E', 'F', 'G', 'H', 'I', 'J', 'K', 'L', 'M', 'N', 'O', 'P', 'Q', 'R', 'S', 'T', 'U', 'V', 'W',
    'X', 'Y', 'Z', 'a', 'b', 'c', 'd', 'e', 'f', 'g', 'h', 'i', 'j', 'k', 'l', 'm', 'n', 'o', 'p', 'q', 'r', 's', 't',
    'u', 'v', 'w', 'x', 'y', 'z', '0', '1', '2', '3', '4', '5', '6', '7', '8', '9', '+', '/']

theorem getElem?_alphabet : ∀ {n : Nat}, n < 64 → alphabet[n]? = some (char n) := by
  decide

/-- Characters spell bytes if the bits of the characters, six for each, are those of the bytes, eight for each, and
then fewer than six that are not set. -/
def Spells (cs : List Char) (bs : Bytes) : Prop :=
  ∃ (values : List Nat) (fill : Nat), values.map (alphabet[·]?) = cs.map some ∧ fill < 6 ∧
    values.flatMap (Bits.ofNat 6) = Bits.ofBytes bs ++ List.replicate fill false

theorem spells_encodeChars (bs : Bytes) : Spells (encodeChars bs) bs := by
  -- the bits on both sides are the places of one number
  induction bs using encodeChars.induct with
  | case1 => exact ⟨[], 0, rfl, by decide, rfl⟩
  | case2 a =>
    have ha := a.toNat_lt
    refine ⟨[a.toNat / 4, a.toNat % 4 * 16], 4, ?_, by decide, ?_⟩
    · simp only [encodeChars, List.map_cons, List.map_nil]
      rw [getElem?_alphabet (by omega), getElem?_alphabet (by omega)]
    · simp only [List.flatMap_cons, List.flatMap_nil, List.append_nil, Bits.ofBytes_cons, Bits.ofBytes_nil,
        ← Bits.ofNat_zero]
      rw [Bits.ofNat_append 6 _ (by omega), Bits.ofNat_append 8 _ (by decide)]
      congr 1
      omega
  | case3 a b =>
    have ha := a.toNat_lt
    have hb := b.toNat_lt
    refine ⟨[a.toNat / 4, a.toNat % 4 * 16 + b.toNat / 16, b.toNat % 16 * 4], 2, ?_, by decide, ?_⟩
    · simp only [encodeChars, List.map_cons, List.map_nil]
      rw [getElem?_alphabet (by omega), getElem?_alphabet (by omega), getElem?_alphabet (by omega)]
    · simp only [List.flatMap_cons, List.flatMap_nil, List.append_nil, Bits.ofBytes_cons, Bits.ofBytes_nil,
        ← Bits.ofNat_zero]
      rw [Bits.ofNat_append 6 _ (by omega), Bits.ofNat_append 6 _ (by omega), Bits.ofNat_append 8 _ (by omega),
        Bits.ofNat_append 16 _ (by decide)]
      congr 1
      omega
  | case4 a b c r ih =>
    have ha := a.toNat_lt
    have hb := b.toNat_lt
    have hc := c.toNat_lt
    obtain ⟨values, fill, hvalues, hfill, hbits⟩ := ih
    have hgroup : Bits.ofNat 6 (a.toNat / 4) ++ Bits.ofNat 6 (a.toNat % 4 * 16 + b.toNat / 16) ++
        Bits.ofNat 6 (b.toNat % 16 * 4 + c.toNat / 64) ++ Bits.ofNat 6 (c.toNat % 64) =
        Bits.ofNat 8 a.toNat ++ Bits.ofNat 8 b.toNat ++ Bits.ofNat 8 c.toNat := by
      rw [Bits.ofNat_append 6 _ (by omega), Bits.ofNat_append 12 _ (by omega), Bits.ofNat_append 18 _ (by omega),
        Bits.ofNat_append 8 _ (by omega), Bits.ofNat_append 16 _ (by omega)]
      congr 1
      omega
    refine ⟨a.toNat / 4 :: (a.toNat % 4 * 16 + b.toNat / 16) :: (b.toNat % 16 * 4 + c.toNat / 64) ::
      c.toNat % 64 :: values, fill, ?_, hfill, ?_⟩
    · simp only [encodeChars, List.map_cons, hvalues]
      rw [getElem?_alphabet (by omega), getElem?_alphabet (by omega), getElem?_alphabet (by omega),
        getElem?_alphabet (by omega)]
    · simp only [List.flatMap_cons]
      rw [← List.append_assoc, ← List.append_assoc, ← List.append_assoc, hgroup, hbits]
      simp only [Bits.ofBytes_cons, List.append_assoc]

theorem Spells.eq {cs cs' : List Char} {bs : Bytes} (h : Spells cs bs) (h' : Spells cs' bs) : cs = cs' := by
  obtain ⟨values, fill, hvalues, hfill, hbits⟩ := h
  obtain ⟨values', fill', hvalues', hfill', hbits'⟩ := h'
  have hlen := congrArg List.length hbits
  have hlen' := congrArg List.length hbits'
  simp only [Bits.length_flatMap_ofNat, List.length_append, Bits.length_ofBytes, List.length_replicate] at hlen hlen'
  have hlt : ∀ (vs : List Nat) (cs : List Char), vs.map (alphabet[·]?) = cs.map some → ∀ v ∈ vs, v < 2 ^ 6 := by
    intro vs cs h v hv
    have hmem : alphabet[v]? ∈ cs.map some := h ▸ List.mem_map.2 ⟨v, hv, rfl⟩
    obtain ⟨c, _, hc⟩ := List.mem_map.1 hmem
    exact (List.getElem?_eq_some_iff.1 hc.symm).1
  have hfill : fill = fill' := by omega
  subst hfill
  have heq : values = values' :=
    Bits.flatMap_ofNat_inj (by omega) (hlt _ _ hvalues) (hlt _ _ hvalues') (hbits.trans hbits'.symm)
  subst heq
  exact (List.map_inj_right fun _ _ => Option.some.inj).1 (hvalues.symm.trans hvalues')

/-- By the bits, too, only what is written for bytes spells them. -/
theorem spells_iff {cs : List Char} {bs : Bytes} : Spells cs bs ↔ cs = encodeChars bs := by
  constructor
  · intro h
    exact h.eq (spells_encodeChars bs)
  · rintro rfl
    exact spells_encodeChars bs

/-- What spells bytes is made of the alphabet alone. -/
theorem Spells.subset {cs : List Char} {bs : Bytes} (h : Spells cs bs) : cs ⊆ alphabet := by
  obtain ⟨values, _, hvalues, _, _⟩ := h
  intro c hc
  have hmem : some c ∈ values.map (alphabet[·]?) := hvalues ▸ List.mem_map.2 ⟨c, hc, rfl⟩
  obtain ⟨v, _, hv⟩ := List.mem_map.1 hmem
  exact List.mem_of_getElem? hv

end Base64

end Tether
