import Mathlib.Algebra.Ring.Nat
import Tether.Cli.Run
import Tether.Proofs.Cli.Arguments
import Tether.Proofs.Client.Call

namespace Tether

/-! # Times to live as they are sent

A time to live is counted in milliseconds at 128 bits, and narrowed to 64 bits. We show that nothing is lost on the way
but what a whole number of milliseconds in 64 bits cannot hold (`toNat_expiryMillis`), and that this number is
what the commands carry, those of the command line included (`expiry_is_clamped`).
-/

namespace Duration

variable (d : Duration)

/-- The seconds at 128 bits. -/
theorem toNat_setWidth_seconds : (d.seconds.toBitVec.setWidth 128).toNat = d.seconds.toNat := by
  have hlt : d.seconds.toNat < 2 ^ 128 := Nat.lt_trans d.seconds.toNat_lt (by decide)
  rw [BitVec.toNat_setWidth]
  exact Nat.mod_eq_of_lt hlt

/-- No bit of the seconds in milliseconds is lost. -/
theorem not_umulOverflow : BitVec.umulOverflow (d.seconds.toBitVec.setWidth 128) 1000 = false := by
  have hlt : d.seconds.toNat < 2 ^ 64 := d.seconds.toNat_lt
  have hthousand : (1000 : BitVec 128).toNat = 1000 := by decide
  rw [BitVec.umulOverflow, toNat_setWidth_seconds, hthousand]
  simp only [decide_eq_false_iff_not]
  omega

theorem toNat_mul_seconds : (d.seconds.toBitVec.setWidth 128 * 1000).toNat = d.seconds.toNat * 1000 := by
  have hthousand : (1000 : BitVec 128).toNat = 1000 := by decide
  rw [BitVec.toNat_mul_of_not_umulOverflow (by rw [not_umulOverflow]; decide), toNat_setWidth_seconds, hthousand]

/-- Nor is one lost when those of the nanoseconds are added. -/
theorem not_uaddOverflow :
    BitVec.uaddOverflow (d.seconds.toBitVec.setWidth 128 * 1000) (.ofNat 128 (d.nanos / 1000000)) = false := by
  have hlt : d.seconds.toNat < 2 ^ 64 := d.seconds.toNat_lt
  have hnanos : d.nanos < 1000000000 := d.nanos_lt
  rw [BitVec.uaddOverflow, toNat_mul_seconds, BitVec.toNat_ofNat]
  simp only [decide_eq_false_iff_not]
  omega

theorem toNat_toMillis : d.toMillis.toNat = d.toNanos / 1000000 := by
  have hnanos : d.nanos < 1000000000 := d.nanos_lt
  have hsmall : d.nanos / 1000000 % 2 ^ 128 = d.nanos / 1000000 := Nat.mod_eq_of_lt (by omega)
  rw [toMillis, BitVec.toNat_add_of_not_uaddOverflow (by rw [not_uaddOverflow]; decide), toNat_mul_seconds,
    BitVec.toNat_ofNat, hsmall, toNanos]
  omega

end Duration

theorem toNat_narrow? (n : BitVec 128) :
    ((narrow? n).getD 0xFFFFFFFFFFFFFFFF).toNat = min (2 ^ 64 - 1) n.toNat := by
  have hmost : (0xFFFFFFFFFFFFFFFF : UInt64).toNat = 2 ^ 64 - 1 := by decide
  unfold narrow?
  split
  · next hlt =>
    have hfits : n.toNat < 2 ^ 64 := hlt
    rw [Option.getD_some, UInt64.toNat_ofNat_of_lt' hlt]
    omega
  · next hge =>
    have hlarge : 2 ^ 64 ≤ n.toNat := Nat.le_of_not_lt hge
    rw [Option.getD_none, hmost]
    omega

/-- The number that is sent is that of the whole milliseconds, kept between one and what 64 bits hold. -/
theorem toNat_expiryMillis (d : Duration) :
    (expiryMillis d).toNat = max 1 (min (2 ^ 64 - 1) (d.toNanos / 1000000)) := by
  have hone : (1 : UInt64).toNat = 1 := by decide
  rw [← Duration.toNat_toMillis, ← toNat_narrow?]
  show (if _ ≤ (1 : UInt64) then 1 else _ : UInt64).toNat = _
  split
  · next hle =>
    rw [UInt64.le_iff_toNat_le, hone] at hle
    omega
  · next hlt =>
    rw [UInt64.le_iff_toNat_le, hone] at hlt
    omega

theorem toNat_expiryMillis_ne_zero (d : Duration) : (expiryMillis d).toNat ≠ 0 := by
  rw [toNat_expiryMillis]
  omega

theorem expiryMillis_le {d e : Duration} (h : d.toNanos ≤ e.toNanos) : expiryMillis d ≤ expiryMillis e := by
  have hmillis : d.toNanos / 1000000 ≤ e.toNanos / 1000000 := Nat.div_le_div_right h
  rw [UInt64.le_iff_toNat_le, toNat_expiryMillis, toNat_expiryMillis]
  omega

theorem toNat_expiryMillis_of_whole {d : Duration} {m : Nat} (h₁ : 1 ≤ m) (h₂ : m ≤ 2 ^ 64 - 1)
    (hd : d.toNanos = m * 1000000) : (expiryMillis d).toNat = m := by
  rw [toNat_expiryMillis, hd, Nat.mul_div_cancel m (by decide)]
  omega

/-- Only what is shorter than a millisecond is made longer. -/
theorem lt_expiryMillis_iff (d : Duration) : d.toNanos < (expiryMillis d).toNat * 1000000 ↔ d.toNanos < 1000000 := by
  rw [toNat_expiryMillis]
  omega

/-! ## From the command line -/

theorem toNanos_ofSeconds (s : UInt64) : (Duration.ofSeconds s).toNanos = s.toNat * 1000000000 :=
  Nat.add_zero _

theorem toNat_expiryMillis_ofSeconds (s : UInt64) :
    (expiryMillis (.ofSeconds s)).toNat = if s = 0 then 1 else min (1000 * s.toNat) (2 ^ 64 - 1) := by
  have hzero : s = 0 ↔ s.toNat = 0 := by rw [← UInt64.toNat_inj]; rfl
  rw [toNat_expiryMillis, toNanos_ofSeconds]
  split
  · next h =>
    rw [hzero.1 h]
    rfl
  · next h =>
    have hpos : s.toNat ≠ 0 := fun hs => h (hzero.2 hs)
    omega

/-- Setting a key from the command line sends one command to a new handle. -/
theorem Cli.world_run_set {H σ : Type} (kind : HandleKind H σ) {s : Surroundings} {arguments : List String}
    {i : Invocation} {argument : Json} {c : Client} {key value : String} {ttl : Option UInt64} (w : σ)
    (hi : Invocation.ofArguments arguments = .ok i) (hset : i.command = .set key value ttl)
    (hargument : Cli.argument s i = .ok argument) (hc : Client.ofArguments [argument] = .ok c) :
    (Cli.run kind s arguments w).2 = (kind.query (Call.set key (.text value) (ttl.map .ofSeconds)).command
      (kind.create c.descriptor) w).2.2 := by
  have hrun : CliCommand.run kind argument {} w (.set key value ttl) =
      (CliCommand.set key value ttl).runWith kind c {} w := by
    rw [CliCommand.run, hc]
    simp
  simp only [Cli.run, hi, hargument, hset, hrun]
  exact Client.world_call_empty kind w _ (Client.handle_ofArguments hc)

/-! ## What is sent -/

/-- The number that `SET` carries behind `PX` and `PEXPIRE` carries last is that of the whole milliseconds, kept between
one and what 64 bits hold, and no step on the way to it overflows. So it is never zero, does not fall when the time
rises, is exact for whole milliseconds, and is more than the time only below one millisecond; and this is so for the
seconds of the command line, which are read as any number of 64 bits and sent once. -/
theorem expiry_is_clamped {H σ : Type} (kind : HandleKind H σ) :
    (∀ (key : String) (value : Argument) (d : Duration), (Call.set key value (some d)).command =
      Part.ofText "SET" :: Part.ofText key :: value.parts ++
        [Part.ofText "PX", Part.ofText (Decimal.ofNat (max 1 (min (2 ^ 64 - 1) (d.toNanos / 1000000))))]) ∧
    (∀ (key : String) (d : Duration), (Call.expire key d).command =
      [Part.ofText "PEXPIRE", Part.ofText key,
        Part.ofText (Decimal.ofNat (max 1 (min (2 ^ 64 - 1) (d.toNanos / 1000000))))]) ∧
    (∀ d : Duration, BitVec.umulOverflow (d.seconds.toBitVec.setWidth 128) 1000 = false ∧
      BitVec.uaddOverflow (d.seconds.toBitVec.setWidth 128 * 1000) (.ofNat 128 (d.nanos / 1000000)) = false ∧
      (expiryMillis d).toNat = max 1 (min (2 ^ 64 - 1) (d.toNanos / 1000000))) ∧
    (∀ d, (expiryMillis d).toNat ≠ 0) ∧
    (∀ d e : Duration, d.toNanos ≤ e.toNanos → expiryMillis d ≤ expiryMillis e) ∧
    (∀ (d : Duration) (m : Nat), 1 ≤ m → m ≤ 2 ^ 64 - 1 → d.toNanos = m * 1000000 → (expiryMillis d).toNat = m) ∧
    (∀ d : Duration, d.toNanos < (expiryMillis d).toNat * 1000000 ↔ d.toNanos < 1000000) ∧
    (∀ key value, ArgumentToken.ofText key = .word key → ArgumentToken.ofText value = .word value → ∀ s : UInt64,
      Invocation.ofArguments ["set", key, value, "--ttl", Decimal.ofNat s.toNat] =
        .ok ⟨none, none, .set key value (some s)⟩) ∧
    ∀ (surroundings : Surroundings) (arguments : List String) (i : Invocation) (argument : Json) (c : Client)
      (key value : String) (s : UInt64) (w : σ), Invocation.ofArguments arguments = .ok i →
      i.command = .set key value (some s) → Cli.argument surroundings i = .ok argument →
      Client.ofArguments [argument] = .ok c →
      (Cli.run kind surroundings arguments w).2 = (kind.query
        [Part.ofText "SET", Part.ofText key, Part.ofText value, Part.ofText "PX",
          Part.ofText (Decimal.ofNat (if s = 0 then 1 else min (1000 * s.toNat) (2 ^ 64 - 1)))]
        (kind.create c.descriptor) w).2.2 := by
  have hmillis : ∀ d : Duration, Call.millis d =
      Part.ofText (Decimal.ofNat (max 1 (min (2 ^ 64 - 1) (d.toNanos / 1000000)))) := by
    intro d
    rw [Call.millis, toNat_expiryMillis]
  refine ⟨?_, ?_, ?_, toNat_expiryMillis_ne_zero, fun d e => expiryMillis_le, ?_, lt_expiryMillis_iff, ?_, ?_⟩
  · intro key value d
    rw [← hmillis]
    rfl
  · intro key d
    rw [← hmillis]
    rfl
  · intro d
    exact ⟨d.not_umulOverflow, d.not_uaddOverflow, toNat_expiryMillis d⟩
  · intro d m h₁ h₂ hd
    exact toNat_expiryMillis_of_whole h₁ h₂ hd
  · intro key value hkey hvalue s
    exact Invocation.ofArguments_set hkey hvalue s
  · intro surroundings arguments i argument c key value s w hi hset hargument hc
    rw [Cli.world_run_set kind w hi hset hargument hc, ← toNat_expiryMillis_ofSeconds]
    rfl

/-- Handles that note in their world what they are told, and answer OK. -/
def HandleKind.noting : HandleKind Descriptor (List Command) where
  create := id
  query c d w := (.success .ok, d, w ++ [c])

/-- The longest time that a command line can name, and times at the bounds of what is exact. -/
theorem expiry_is_clamped_at_bounds :
    expiryMillis ⟨0, 300000, by decide⟩ ≤ expiryMillis ⟨18446744073709551615, 999999999, by decide⟩ ∧
    (expiryMillis ⟨18446744073709551, 615000000, by decide⟩).toNat = 2 ^ 64 - 1 ∧
    (Cli.run .noting ⟨fun _ => none, some "redis://a:1"⟩ ["set", "k", "PX", "--ttl", "18446744073709551615"] []).2 =
      [[Part.ofText "SET", Part.ofText "k", Part.ofText "PX", Part.ofText "PX",
        Part.ofText "18446744073709551615"]] := by
  obtain ⟨_, _, _, _, hle, hwhole, _, hread, hsent⟩ := expiry_is_clamped HandleKind.noting
  have hmost : (18446744073709551615 : UInt64).toNat = 18446744073709551615 := by decide
  have htext : Decimal.ofNat 18446744073709551615 = "18446744073709551615" := by decide +kernel
  obtain ⟨c, hc⟩ := Client.exists_ofArguments_address
  have hinvocation := hread "k" "PX" (by rfl) (by rfl) 18446744073709551615
  rw [hmost, htext] at hinvocation
  refine ⟨hle _ _ (by decide), hwhole _ _ (by decide) (by decide) (by decide), ?_⟩
  rw [hsent _ _ _ (.string "redis://a:1") c "k" "PX" 18446744073709551615 [] hinvocation rfl rfl hc, hmost,
    if_neg (by decide), Nat.min_eq_right (by decide)]
  rw [← htext]
  rfl

end Tether
