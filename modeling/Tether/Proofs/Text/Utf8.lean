import Mathlib.Data.String.Basic
import Tether.Text.Utf8

namespace Tether

/-! # Texts and their bytes

Different texts have different bytes (`Utf8.encode_injective`), a text is read back from its bytes
(`Utf8.decode?_encode`), and texts are ordered as their bytes are (`Utf8.encode_le_encode_iff`).
-/

namespace Utf8

/-- The bytes of a text are those that it is stored as. -/
theorem toByteArray_eq (s : String) : s.toByteArray = (encode s).toByteArray := by
  rw [encode, ← List.utf8Encode, ← String.toByteArray_ofList, String.ofList_toList]

/-- Different texts have different bytes. -/
theorem encode_injective {s t : String} (h : encode s = encode t) : s = t := by
  rw [← String.toByteArray_inj, toByteArray_eq, toByteArray_eq, h]

/-- A text is read back from its bytes. -/
theorem decode?_encode (s : String) : decode? (encode s) = some s := by
  have hbytes : (⟨(encode s).toArray⟩ : ByteArray) = s.toByteArray := by
    rw [toByteArray_eq]
    exact ByteArray.ext (List.data_toByteArray).symm
  rw [decode?, hbytes, String.fromUTF8?, dif_pos s.isValidUTF8]
  rfl

theorem encode_append (s t : String) : encode (s ++ t) = encode s ++ encode t := by
  rw [encode, String.toList_append, List.flatMap_append, encode, encode]

/-! ## The order of texts -/

/-- The number that bytes write, the most significant byte first. -/
def number : Bytes → Nat
  | [] => 0
  | b :: bs => b.toNat * 256 ^ bs.length + number bs

theorem number_lt (bs : Bytes) : number bs < 256 ^ bs.length := by
  induction bs with
  | nil => decide
  | cons b bs ih =>
    have hb : b.toNat + 1 ≤ 256 := b.toNat_lt
    calc number (b :: bs) < b.toNat * 256 ^ bs.length + 256 ^ bs.length := Nat.add_lt_add_left ih _
      _ = (b.toNat + 1) * 256 ^ bs.length := (Nat.succ_mul _ _).symm
      _ ≤ 256 * 256 ^ bs.length := Nat.mul_le_mul_right _ hb
      _ = 256 ^ (b :: bs).length := by rw [List.length_cons, Nat.pow_succ, Nat.mul_comm]

/-- Of bytes in equal number those of the smaller number come first, whatever follows. -/
theorem append_lt_append {as bs : Bytes} (hlen : as.length = bs.length) (h : number as < number bs) (r s : Bytes) :
    as ++ r < bs ++ s := by
  induction as generalizing bs with
  | nil =>
    rw [List.length_eq_zero_iff.1 hlen.symm] at h
    exact absurd h (Nat.lt_irrefl _)
  | cons a as ih =>
    cases bs with
    | nil => cases hlen
    | cons b bs =>
      have hlen' : as.length = bs.length := Nat.succ.inj hlen
      rw [List.cons_append, List.cons_append, List.cons_lt_cons_iff]
      rcases Nat.lt_trichotomy a.toNat b.toNat with hlt | heq | hgt
      · exact .inl hlt
      · refine .inr ⟨UInt8.toNat_inj.1 heq, ih hlen' ?_⟩
        rw [number, number, hlen', heq] at h
        exact Nat.lt_of_add_lt_add_left h
      · have hb := number_lt bs
        have hle : (b.toNat + 1) * 256 ^ bs.length ≤ a.toNat * 256 ^ bs.length := Nat.mul_le_mul_right _ hgt
        rw [number, number, hlen'] at h
        rw [Nat.succ_mul] at hle
        omega

theorem ofNat_cons_lt {m n : Nat} (hn : n < 256) (h : m < n) (r s : Bytes) :
    UInt8.ofNat m :: r < UInt8.ofNat n :: s := by
  refine List.cons_lt_cons_iff.2 (.inl ?_)
  rw [UInt8.lt_iff_toNat_lt, UInt8.toNat_ofNat_of_lt' hn, UInt8.toNat_ofNat_of_lt' (Nat.lt_trans h hn)]
  exact h

/-- The bytes of a smaller character come first, whatever follows. -/
theorem utf8EncodeChar_append_lt {c d : Char} (h : c < d) (r s : Bytes) :
    String.utf8EncodeChar c ++ r < String.utf8EncodeChar d ++ s := by
  have hlt : c.val.toNat < d.val.toNat := h
  have hd : d.val.toNat < 0x110000 := by
    rcases d.valid with hd | ⟨_, hd⟩
    · exact Nat.lt_trans hd (by decide)
    · exact hd
  -- characters of one width are as their numbers, and those of a smaller width have a smaller first byte
  unfold String.utf8EncodeChar
  dsimp only
  generalize c.val.toNat = m at *
  generalize d.val.toNat = n at *
  have hm₁ : m / 64 / 64 = m / 4096 := Nat.div_div_eq_div_mul m 64 64
  have hn₁ : n / 64 / 64 = n / 4096 := Nat.div_div_eq_div_mul n 64 64
  have hm₂ : m / 4096 / 64 = m / 262144 := Nat.div_div_eq_div_mul m 4096 64
  have hn₂ : n / 4096 / 64 = n / 262144 := Nat.div_div_eq_div_mul n 4096 64
  by_cases h₁ : n ≤ 0x7f
  · rw [if_pos (by omega), if_pos h₁]
    refine append_lt_append (by rfl) ?_ r s
    simp (disch := omega) only [number, UInt8.toNat_ofNat', Nat.mod_eq_of_lt, List.length_nil]
    omega
  by_cases h₂ : n ≤ 0x7ff
  · rw [if_neg h₁, if_pos h₂]
    split
    · exact ofNat_cons_lt (by omega) (by omega) _ _
    rw [if_pos (by omega)]
    refine append_lt_append (by rfl) ?_ r s
    simp (disch := omega) only [number, UInt8.toNat_ofNat', Nat.mod_eq_of_lt, List.length_cons, List.length_nil]
    omega
  by_cases h₃ : n ≤ 0xffff
  · rw [if_neg h₁, if_neg h₂, if_pos h₃]
    split
    · exact ofNat_cons_lt (by omega) (by omega) _ _
    split
    · exact ofNat_cons_lt (by omega) (by omega) _ _
    rw [if_pos (by omega)]
    refine append_lt_append (by rfl) ?_ r s
    simp (disch := omega) only [number, UInt8.toNat_ofNat', Nat.mod_eq_of_lt, List.length_cons, List.length_nil]
    omega
  · rw [if_neg h₁, if_neg h₂, if_neg h₃]
    split
    · exact ofNat_cons_lt (by omega) (by omega) _ _
    split
    · exact ofNat_cons_lt (by omega) (by omega) _ _
    split
    · exact ofNat_cons_lt (by omega) (by omega) _ _
    refine append_lt_append (by rfl) ?_ r s
    simp (disch := omega) only [number, UInt8.toNat_ofNat', Nat.mod_eq_of_lt, List.length_cons, List.length_nil]
    omega

theorem flatMap_utf8EncodeChar_lt {cs ds : List Char} (h : cs < ds) :
    cs.flatMap String.utf8EncodeChar < ds.flatMap String.utf8EncodeChar := by
  induction cs generalizing ds with
  | nil =>
    cases ds with
    | nil => exact absurd h (List.lt_irrefl _)
    | cons d ds =>
      have hne : (d :: ds).flatMap String.utf8EncodeChar ≠ [] := by simp
      obtain ⟨b, bs, hb⟩ := List.exists_cons_of_ne_nil hne
      rw [hb]
      exact List.nil_lt_cons b bs
  | cons c cs ih =>
    cases ds with
    | nil => cases h
    | cons d ds =>
      rw [List.flatMap_cons, List.flatMap_cons]
      rcases List.cons_lt_cons_iff.1 h with hlt | ⟨rfl, hrest⟩
      · exact utf8EncodeChar_append_lt hlt _ _
      · exact List.append_left_lt (ih hrest)

/-- Texts are ordered as their bytes are. -/
theorem encode_le_encode_iff {s t : String} : encode s ≤ encode t ↔ s ≤ t := by
  have hmono : ∀ {s t : String}, s < t → encode s < encode t := fun h =>
    flatMap_utf8EncodeChar_lt (String.lt_iff_toList_lt.1 h)
  constructor
  · intro h
    apply le_of_not_gt
    intro hlt
    exact List.not_le.2 (hmono hlt) h
  · intro h
    rcases lt_or_eq_of_le h with hlt | rfl
    · exact List.le_of_lt (hmono hlt)
    · exact List.le_refl _

end Utf8

end Tether
