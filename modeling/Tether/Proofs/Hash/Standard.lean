import Mathlib.Data.Nat.NthRoot.Defs
import Mathlib.Data.Nat.Nth
import Mathlib.Data.Nat.Prime.Defs
import Tether.Proofs.Text.Bits

namespace Tether

/-! # What the digest of a message is

The rule of the standard, over bits and words of thirty-two bits, with nothing in it of how a digest is computed here.
The constants are read off roots of primes, and the eight variables of a round are the last four terms of two
sequences of words. We show that the rule gives a message one digest at most (`IsDigest.eq`).
-/

namespace Sha256

/-- Thirty-two bits. -/
abbrev Word := BitVec 32

/-- The bits of a word, the most significant first. -/
def Word.bits (x : Word) : List Bool := Bits.ofNat 32 x.toNat

/-! ## Constants and functions -/

/-- The first thirty-two places behind the point of the `k`-th root of a number. -/
def rootPlaces (k n : Nat) : Word := .ofNat 32 (Nat.nthRoot k (n * 2 ^ (32 * k)))

/-- The constant of a round is read off the cube root of a prime. -/
noncomputable def roundConstant (t : Nat) : Word := rootPlaces 3 (Nat.nth Nat.Prime t)

/-- The words before the first block are read off the square roots of the first eight primes. -/
noncomputable def initialWords : List Word := (List.range 8).map fun i => rootPlaces 2 (Nat.nth Nat.Prime i)

/-- Each bit of `x` chooses between those of `y` and `z`. -/
def choice (x y z : Word) : Word := (x &&& y) ^^^ (~~~x &&& z)

/-- Each bit is the one that two at least of the three have. -/
def majority (x y z : Word) : Word := (x &&& y) ^^^ (x &&& z) ^^^ (y &&& z)

def bigSigma0 (x : Word) : Word := x.rotateRight 2 ^^^ x.rotateRight 13 ^^^ x.rotateRight 22

def bigSigma1 (x : Word) : Word := x.rotateRight 6 ^^^ x.rotateRight 11 ^^^ x.rotateRight 25

def smallSigma0 (x : Word) : Word := x.rotateRight 7 ^^^ x.rotateRight 18 ^^^ x >>> 3

def smallSigma1 (x : Word) : Word := x.rotateRight 17 ^^^ x.rotateRight 19 ^^^ x >>> 10

/-! ## The rule -/

/-- A message is padded by one bit that is set, by as few that are not as whole blocks take, and by the number of its
own bits in sixty-four places. -/
def IsPadded (message padded : List Bool) : Prop :=
  ∃ zeros, padded = message ++ true :: List.replicate zeros false ++ Bits.ofNat 64 message.length ∧
    512 ∣ message.length + 1 + zeros + 64 ∧ ∀ k < zeros, ¬ 512 ∣ message.length + 1 + k + 64

/-- The first sum of round `t`. -/
noncomputable def firstSum (w e : Nat → Word) (t : Nat) : Word :=
  e t + bigSigma1 (e (t + 3)) + choice (e (t + 3)) (e (t + 2)) (e (t + 1)) + roundConstant t + w t

/-- The second sum of round `t`. -/
def secondSum (a : Nat → Word) (t : Nat) : Word :=
  bigSigma0 (a (t + 3)) + majority (a (t + 3)) (a (t + 2)) (a (t + 1))

/-- The sequences of one block: its schedule `w`, and `a` and `e`, of which round `t` takes the terms from `t` to
`t + 3` and gives the next. -/
structure Rounds (block before : List Word) (w a e : Nat → Word) : Prop where
  schedule_block : ∀ t < 16, block[t]? = some (w t)
  schedule_next : ∀ t < 48, w (t + 16) = smallSigma1 (w (t + 14)) + w (t + 9) + smallSigma0 (w (t + 1)) + w t
  before_eq : before = [a 3, a 2, a 1, a 0, e 3, e 2, e 1, e 0]
  next_a : ∀ t < 64, a (t + 4) = firstSum w e t + secondSum a t
  next_e : ∀ t < 64, e (t + 4) = a t + firstSum w e t

/-- A block turns the eight words before it into those behind it. -/
def Compresses (block before after : List Word) : Prop :=
  ∃ w a e, Rounds block before w a e ∧
    after = List.zipWith (· + ·) before [a 67, a 66, a 65, a 64, e 67, e 66, e 65, e 64]

/-- The words of whole blocks, block by block. -/
inductive Absorbs : (before words after : List Word) → Prop
  | nil (before : List Word) : Absorbs before [] before
  | cons {before block between words after : List Word} : block.length = 16 → Compresses block before between →
      Absorbs between words after → Absorbs before (block ++ words) after

/-- The digest of a message is the eight words behind its last block, when the bits of the padded message are taken for
words. -/
def IsDigest (message hash : Bytes) : Prop :=
  ∃ words after : List Word, IsPadded (Bits.ofBytes message) (words.flatMap Word.bits) ∧
    Absorbs initialWords words after ∧ Bits.ofBytes hash = after.flatMap Word.bits

/-! ## One digest at most -/

theorem IsPadded.eq {message padded padded' : List Bool} (h : IsPadded message padded)
    (h' : IsPadded message padded') : padded = padded' := by
  obtain ⟨zeros, rfl, hwhole, hfewest⟩ := h
  obtain ⟨zeros', rfl, hwhole', hfewest'⟩ := h'
  rcases Nat.lt_trichotomy zeros zeros' with hlt | rfl | hlt
  · exact absurd hwhole (hfewest' zeros hlt)
  · rfl
  · exact absurd hwhole' (hfewest zeros' hlt)

/-- Words are read off from their bits. -/
theorem eq_of_flatMap_bits_eq {words words' : List Word} (h : words.flatMap Word.bits = words'.flatMap Word.bits) :
    words = words' := by
  have hnums : ∀ words : List Word, words.flatMap Word.bits = (words.map BitVec.toNat).flatMap (Bits.ofNat 32) := by
    intro words
    rw [List.flatMap_map]
    rfl
  have hlt : ∀ words : List Word, ∀ n ∈ words.map BitVec.toNat, n < 2 ^ 32 := by
    intro words n hn
    obtain ⟨x, _, rfl⟩ := List.mem_map.1 hn
    exact x.isLt
  rw [hnums, hnums] at h
  have hlen := congrArg List.length h
  rw [Bits.length_flatMap_ofNat, Bits.length_flatMap_ofNat] at hlen
  have hmap := Bits.flatMap_ofNat_inj (by omega) (hlt words) (hlt words') h
  exact (List.map_inj_right fun _ _ => BitVec.eq_of_toNat_eq).1 hmap

section

variable {block before : List Word} {w a e w' a' e' : Nat → Word}

/-- A block has one schedule. -/
theorem Rounds.schedule_eq (h : Rounds block before w a e) (h' : Rounds block before w' a' e') :
    ∀ t < 64, w t = w' t := by
  intro t
  induction t using Nat.strong_induction_on with
  | _ t ih =>
    intro ht
    by_cases hfirst : t < 16
    · exact Option.some.inj ((h.schedule_block t hfirst).symm.trans (h'.schedule_block t hfirst))
    · obtain ⟨s, rfl⟩ := Nat.exists_eq_add_of_le' (Nat.le_of_not_lt hfirst)
      rw [h.schedule_next s (by omega), h'.schedule_next s (by omega), ih (s + 14) (by omega) (by omega),
        ih (s + 9) (by omega) (by omega), ih (s + 1) (by omega) (by omega), ih s (by omega) (by omega)]

/-- The rounds of a block give one sequence of terms. -/
theorem Rounds.terms_eq (h : Rounds block before w a e) (h' : Rounds block before w' a' e') :
    ∀ t < 68, a t = a' t ∧ e t = e' t := by
  intro t
  induction t using Nat.strong_induction_on with
  | _ t ih =>
    intro ht
    by_cases hfirst : t < 4
    · have hbefore := h.before_eq.symm.trans h'.before_eq
      simp only [List.cons.injEq] at hbefore
      obtain ⟨h3, h2, h1, h0, g3, g2, g1, g0, _⟩ := hbefore
      match t, hfirst with
      | 0, _ => exact ⟨h0, g0⟩
      | 1, _ => exact ⟨h1, g1⟩
      | 2, _ => exact ⟨h2, g2⟩
      | 3, _ => exact ⟨h3, g3⟩
    · obtain ⟨s, rfl⟩ := Nat.exists_eq_add_of_le' (Nat.le_of_not_lt hfirst)
      obtain ⟨ha₀, he₀⟩ := ih s (by omega) (by omega)
      obtain ⟨ha₁, he₁⟩ := ih (s + 1) (by omega) (by omega)
      obtain ⟨ha₂, he₂⟩ := ih (s + 2) (by omega) (by omega)
      obtain ⟨ha₃, he₃⟩ := ih (s + 3) (by omega) (by omega)
      have hw := h.schedule_eq h' s (by omega)
      have hsum : firstSum w e s = firstSum w' e' s := by rw [firstSum, firstSum, he₀, he₁, he₂, he₃, hw]
      rw [h.next_a s (by omega), h'.next_a s (by omega), h.next_e s (by omega), h'.next_e s (by omega), hsum,
        secondSum, secondSum, ha₀, ha₁, ha₂, ha₃]
      exact ⟨rfl, rfl⟩

end

theorem Compresses.eq {block before after after' : List Word} (h : Compresses block before after)
    (h' : Compresses block before after') : after = after' := by
  obtain ⟨w, a, e, hr, rfl⟩ := h
  obtain ⟨w', a', e', hr', rfl⟩ := h'
  have hterms : ∀ t < 68, a t = a' t ∧ e t = e' t := hr.terms_eq hr'
  rw [(hterms 67 (by decide)).1, (hterms 66 (by decide)).1, (hterms 65 (by decide)).1, (hterms 64 (by decide)).1,
    (hterms 67 (by decide)).2, (hterms 66 (by decide)).2, (hterms 65 (by decide)).2, (hterms 64 (by decide)).2]

theorem Absorbs.eq {before words after after' : List Word} (h : Absorbs before words after)
    (h' : Absorbs before words after') : after = after' := by
  induction h with
  | nil before =>
    generalize hnil : ([] : List Word) = words at h'
    cases h' with
    | nil => rfl
    | cons hlen _ _ =>
      rw [(List.nil_eq_append_iff.1 hnil).1] at hlen
      cases hlen
  | @cons before block between words after hlen hc _ ih =>
    generalize hwords : block ++ words = all at h'
    cases h' with
    | nil =>
      rw [(List.append_eq_nil_iff.1 hwords).1] at hlen
      cases hlen
    | cons hlen' hc' hrest =>
      -- both begin with the same block
      obtain ⟨rfl, rfl⟩ := List.append_inj hwords (hlen.trans hlen'.symm)
      obtain rfl := hc.eq hc'
      exact ih hrest

/-- A message has one digest at most. -/
theorem IsDigest.eq {message hash hash' : Bytes} (h : IsDigest message hash) (h' : IsDigest message hash') :
    hash = hash' := by
  obtain ⟨words, after, hpadded, habsorbs, hbits⟩ := h
  obtain ⟨words', after', hpadded', habsorbs', hbits'⟩ := h'
  obtain rfl := eq_of_flatMap_bits_eq (hpadded.eq hpadded')
  obtain rfl := habsorbs.eq habsorbs'
  exact Bits.ofBytes_injective (hbits.trans hbits'.symm)

end Sha256

end Tether
