import Tether.Cli.Arguments
import Tether.Proofs.Text.Integer

namespace Tether

/-! # Command lines as they are read

One lemma for each way to go on behind a command: by a word (`ArgumentSide.readBehind_word`) and by an option with its
value (`ArgumentSide.readBehind_option`). From them, what a key and a value with a time to live are read as
(`Invocation.ofArguments_set`).
-/

/-- A number is a word, since it does not begin with a dash. -/
theorem ArgumentToken.ofText_ofNat (n : Nat) : ofText (Decimal.ofNat n) = .word (Decimal.ofNat n) := by
  have hdash : ∀ r, (Decimal.ofNat n).toList ≠ '-' :: r := by
    intro r heq
    have hmem : '-' ∈ (Decimal.ofNat n).toList := by
      rw [heq]
      exact List.mem_cons_self
    exact absurd (Decimal.digit_of_mem_ofNat hmem) (by decide)
  unfold ofText
  split
  · next heq => exact absurd heq (hdash _)
  · next heq => exact absurd heq (hdash _)
  · next heq => exact absurd heq (hdash _)
  · rfl

namespace ArgumentSide

variable {command : CommandName} {side side' : ArgumentSide} {argument : String} {rest : List String}

theorem readBehind_word {word : String} (h : ArgumentToken.ofText argument = .word word)
    (hadd : side.addWord command.wordLimit word = .ok side') :
    readBehind command side (argument :: rest) = readBehind command side' rest := by
  rw [readBehind.eq_3 command side argument rest word h, hadd]

theorem readBehind_option {name value : String} (h : ArgumentToken.ofText argument = .long name none)
    (hvalue : ArgumentToken.ofText value = .word value) (hname : name ≠ "help")
    (hoption : (sharedOptions ++ command.options).contains name = true) (hset : side.set name value = .ok side') :
    readBehind command side (argument :: value :: rest) = readBehind command side' rest := by
  rw [readBehind.eq_7 command side argument name value rest hname h, hvalue]
  simp only [hoption, hset, if_true]

end ArgumentSide

/-- A key and a value with a time to live are read as such. -/
theorem Invocation.ofArguments_set {key value : String} (hkey : ArgumentToken.ofText key = .word key)
    (hvalue : ArgumentToken.ofText value = .word value) (s : UInt64) :
    ofArguments ["set", key, value, "--ttl", Decimal.ofNat s.toNat] = .ok ⟨none, none, .set key value (some s)⟩ := by
  have hset : ArgumentToken.ofText "set" = .word "set" := by rfl
  have httl : ArgumentToken.ofText "--ttl" = .long "ttl" none := by rfl
  have hnumber : Decimal.natural? ArgumentSide.numberLimit (Decimal.ofNat s.toNat).toList = some s.toNat :=
    Decimal.natural?_ofNat (Nat.le_pred_of_lt s.toNat_lt)
  have hfits : ArgumentSide.fits "ttl" (Decimal.ofNat s.toNat) = true := by simp [ArgumentSide.fits, hnumber]
  have hbefore : ArgumentSide.readBefore {} ["set", key, value, "--ttl", Decimal.ofNat s.toNat] =
      .ok ({}, .set, [key, value, "--ttl", Decimal.ofNat s.toNat]) := by
    unfold ArgumentSide.readBefore
    rw [hset]
    rfl
  have hbehind : ArgumentSide.readBehind .set {} [key, value, "--ttl", Decimal.ofNat s.toNat] =
      .ok ⟨[("ttl", Decimal.ofNat s.toNat)], [key, value]⟩ := by
    rw [ArgumentSide.readBehind_word hkey rfl, ArgumentSide.readBehind_word hvalue rfl,
      ArgumentSide.readBehind_option httl (ArgumentToken.ofText_ofNat _) (by decide) (by decide)
        (by simp [ArgumentSide.set, ArgumentSide.option?, hfits]; rfl)]
    rfl
  have hcommand : ArgumentSide.command? ⟨[("ttl", Decimal.ofNat s.toNat)], [key, value]⟩ .set =
      some (.set key value (some s)) := by
    simp [ArgumentSide.command?, ArgumentSide.number?, ArgumentSide.option?, hnumber]
  simp only [ofArguments, hbefore, hbehind, bind, Except.bind, hcommand]
  rfl

end Tether
