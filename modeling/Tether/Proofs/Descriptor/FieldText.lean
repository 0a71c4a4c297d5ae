import Tether.Descriptor.OfJson
import Tether.Descriptor.OfJsonText
import Tether.Proofs.Json.Written

namespace Tether

/-! # Values of options read off their text

Each reader for a type that fields have follows the reader of values as they are written: it gives what the value is
read as (`Json.follows_readText` to `Json.follows_readCluster`). In the settings of a cluster the one field may stand
once, which is what `Json.asClusterOnce` asks of a value as it is written.
-/

namespace Json

variable {α : Type} {depth : Nat} {c : Char}

/-! ## Readers that look at the first character -/

@[simp] theorem run?_refuse (cs : List Char) : run? (refuse c : Reader α) cs = none := by
  unfold run? refuse
  simp only
  split <;> rfl

/-- A value of another type is refused. -/
theorem follows_refuse {make : Json → Option α} (h : ∀ j : Json, j.Begins c → make j = none) :
    Follows (refuse c) (readFrom .object depth c) make :=
  follows_of_none run?_refuse fun _ j _ hj => h j (begins_of_readFrom hj)

theorem readFrom_of_scalar (object : List (String × Json) → Json) (harray : c ≠ '[') (hobject : c ≠ '\x7b') :
    readFrom object depth c = readScalar c := by
  unfold readFrom
  rw [if_neg harray, if_neg hobject]

/-! ## Texts, truth values and numbers -/

theorem follows_readText : Follows readText (readValueBy .object depth) fun j => (asText j).toOption := by
  refine Follows.behind nextChar ?_
  intro c
  split
  · next hc =>
    subst hc
    rw [readFrom_of_scalar _ (by decide) (by decide)]
    exact Follows.map_other (follows_self fun _ _ _ _ => rfl)
  · next hc =>
    refine follows_refuse ?_
    intro j hj
    cases j with
    | string s => exact absurd hj hc
    | _ => rfl

theorem follows_readFlag : Follows readFlag (readValueBy .object depth) fun j => (asFlag j).toOption := by
  refine Follows.behind nextChar ?_
  intro c
  split
  · next hc =>
    subst hc
    rw [readFrom_of_scalar _ (by decide) (by decide)]
    intro cs
    unfold run? readScalar
    simp only
    cases readWord "rue".toList cs <;> rfl
  next htrue =>
  split
  · next hc =>
    subst hc
    rw [readFrom_of_scalar _ (by decide) (by decide)]
    intro cs
    unfold run? readScalar
    simp only
    cases readWord "alse".toList cs <;> rfl
  next hfalse =>
    refine follows_refuse ?_
    intro j hj
    cases j with
    | bool b =>
      cases b
      · exact absurd hj hfalse
      · exact absurd hj htrue
    | _ => rfl

/-- A number. -/
def asNumber? : Json → Option JsonNumber
  | .number n => some n
  | _ => none

theorem follows_readJsonNumber : Follows readJsonNumber (readValueBy .object depth) asNumber? := by
  refine Follows.behind nextChar ?_
  intro c
  split
  · next hc =>
    subst hc
    rw [readFrom_of_scalar _ (by decide) (by decide)]
    exact Follows.map_other (follows_self fun _ _ _ _ => rfl)
  next hminus =>
  split
  · next hdigit =>
    -- a digit is none of the other characters
    have hother : ∀ d : Char, d.isDigit = false → c ≠ d := by
      rintro d hd rfl
      rw [hd] at hdigit
      cases hdigit
    rw [readFrom_of_scalar _ (hother _ (by decide)) (hother _ (by decide))]
    unfold readScalar
    split
    · exact absurd rfl (hother _ (by decide))
    · exact absurd rfl (hother _ (by decide))
    · exact absurd rfl (hother _ (by decide))
    · exact absurd rfl (hother _ (by decide))
    · exact absurd rfl (hother _ (by decide))
    · rw [if_pos hdigit]
      exact Follows.map_other (follows_self fun _ _ _ _ => rfl)
  next hdigit =>
    refine follows_refuse ?_
    intro j hj
    cases j with
    | number n => exact (hj.elim hminus hdigit).elim
    | _ => rfl

/-- A number in its range is read as it is. -/
theorem follows_readInt64 : Follows readInt64 (readValueBy .object depth) fun j => (asInt64 j).toOption := by
  unfold readInt64
  refine Follows.congr (follows_readJsonNumber.check (f := fun n => (asInt64 (.number n)).toOption) ?_) ?_
  · intro n cs
    cases n with
    | real x => rfl
    | int i =>
      simp only [asInt64]
      split <;> rfl
  · intro j
    cases j <;> rfl

theorem follows_readUInt64 : Follows readUInt64 (readValueBy .object depth) fun j => (asUInt64 j).toOption := by
  unfold readUInt64
  refine Follows.congr (follows_readJsonNumber.check (f := fun n => (asUInt64 (.number n)).toOption) ?_) ?_
  · intro n cs
    cases n with
    | real x => rfl
    | int i =>
      simp only [asUInt64]
      split <;> rfl
  · intro j
    cases j <;> rfl

theorem follows_readTexts : Follows readTexts (readValueBy .object (depth + 1)) fun j => (asTexts j).toOption := by
  refine Follows.behind nextChar ?_
  intro c
  split
  · next hc =>
    subst hc
    refine Follows.map_other ((follows_readList follows_readText).congr ?_)
    intro items
    exact (toOption_mapM asText items).symm
  · next hc =>
    refine follows_refuse ?_
    intro j hj
    cases j with
    | array items => exact absurd hj hc
    | _ => rfl

/-! ## What may be left out -/

/-- `null` is none. -/
def optional? (make : Json → Option α) : Json → Option (Option α)
  | .null => some none
  | j => (make j).map some

theorem optional?_of_ne_null {make : Json → Option α} {j : Json} (h : j ≠ .null) :
    optional? make j = (make j).map some := by
  cases j with
  | null => exact absurd rfl h
  | _ => rfl

theorem toOption_asOptional (read : Json → Except Misfit α) (j : Json) :
    (asOptional read j).toOption = optional? (fun j => (read j).toOption) j := by
  cases j with
  | null => rfl
  | _ => exact toOption_map some _

theorem follows_readOptional {read : Reader α} {make : Json → Option α}
    (h : Follows read (readValueBy .object depth) make) :
    Follows (readOptional read) (readValueBy .object depth) (optional? make) := by
  intro cs
  have hread := h.map some (skipBlanks cs)
  rw [run?_readValueBy, skipBlanks_skipBlanks] at hread
  rw [run?_readValueBy]
  unfold run? readOptional
  split
  · next rest hs =>
    -- nothing but `null` begins with this character
    simp only [hs]
    rw [readFrom_of_scalar _ (by decide) (by decide)]
    unfold readScalar
    simp only
    cases readWord "ull".toList rest <;> rfl
  · next hs =>
    refine hread.trans ?_
    cases hcs : skipBlanks cs with
    | nil => rfl
    | cons c rest =>
      simp only
      refine through_congr ?_
      intro j rest' hj
      refine (optional?_of_ne_null ?_).symm
      rintro rfl
      have hc : c = 'n' := begins_of_readFrom hj
      exact hs rest (hc ▸ hcs)

/-! ## Members -/

theorem run?_readField (use : String → Option α) (cs : List Char) :
    run? (readField use) cs = (readKey cs).toOption.bind fun p => (use p.1).bind fun a =>
      (readColon p.2).toOption.map fun cs => (a, cs) := by
  unfold readField
  rw [run?_bind]
  show ((readKey cs).toOption).bind _ = _
  refine congrArg _ (funext fun p => ?_)
  cases use p.1 with
  | none => rfl
  | some a =>
    unfold run?
    cases h : readColon p.2 <;> simp [h, bind, Except.bind, Except.toOption]

/-- A member is read as its field asks for. -/
theorem follows_readField {β : Type} {use : String → Option α} {read : α → Reader β} {other : Reader Json}
    {make : α → Json → Option β} (h : ∀ a, Follows (read a) other (make a)) :
    Follows (readField use >>= read) (readEntry other) fun m => (use m.1).bind fun a => make a m.2 := by
  intro cs
  rw [run?_readEntry, run?_bind, run?_readField]
  cases (readKey cs).toOption with
  | none => rfl
  | some p =>
    cases hcolon : (readColon p.2).toOption with
    | none => cases use p.1 <;> simp [hcolon, through]
    | some cs =>
      cases huse : use p.1 with
      | none => cases h : run? other cs <;> simp [hcolon, huse, through, h]
      | some a =>
        simp only [Option.bind_some, Option.map_some, h a cs, hcolon, huse, through]
        cases h : run? other cs <;> simp [huse]

/-! ## Settings of a cluster -/

/-- Takes the flag of a setting, where there is none yet. -/
def addFlag (flags : List Bool) (j : Json) : Option (List Bool) :=
  if flags.isEmpty then (asFlag j).toOption.map ([·]) else none

/-- Takes the one setting that there is, where there is none yet. -/
def addSetting (flags : List Bool) (m : String × Json) : Option (List Bool) :=
  if m.1 = clusterField ∧ flags.isEmpty then (asFlag m.2).toOption.map ([·]) else none

/-- Settings of a cluster as they are written: at most one. -/
def asClusterOnce : Json → Option ClusterOptions
  | .array items => (items.foldlM addFlag []).map fun flags => ⟨flags.headD false⟩
  | .object members => (members.foldlM addSetting []).map fun flags => ⟨flags.headD false⟩
  | _ => none

/-- Reads the flag of a setting, where there is none yet. -/
def readOneFlag (flags : List Bool) : Reader (List Bool) := if flags.isEmpty then ([·]) <$> readFlag else throw .misfit

theorem follows_readOneFlag (flags : List Bool) :
    Follows (readOneFlag flags) (readValueBy .object depth) (addFlag flags) := by
  unfold readOneFlag addFlag
  split
  · exact follows_readFlag.map _
  · exact follows_of_none (fun _ => rfl) fun _ _ _ _ => rfl

/-- An array for one setting is one with at most one item. -/
theorem run?_readTuple_flag (cs : List Char) :
    (run? (readTuple true {} [fun _ => ClusterOptions.mk <$> readFlag]) cs).map (fun p => (p.1.1, p.2)) =
      (run? (readSequence ']' readOneFlag []) cs).map fun p => (⟨p.1.headD false⟩, p.2) := by
  have hmodify : ∀ (c : Char) (cs : List Char), run? (modify (c :: ·) : Reader Unit) cs = some ((), c :: cs) :=
    fun _ _ => rfl
  have hflag : readOneFlag [] = ([·]) <$> readFlag := rfl
  simp only [readTuple, run?_bind, run?_nextChar, run?_readSequence]
  cases skipBlanks cs with
  | nil => rfl
  | cons c rest =>
    simp only [Option.bind_some]
    split
    · rfl
    simp only [if_true, run?_bind, hmodify, Option.bind_some, hflag, run?_map]
    cases run? readFlag (c :: rest) with
    | none => rfl
    | some p =>
      simp only [Option.map_some, Option.bind_some, run?_readItems_succ, run?_nextChar]
      cases skipBlanks p.2 with
      | nil => rfl
      | cons d more =>
        simp only [Option.bind_some]
        split
        · rfl
        · -- a second flag is not read
          have hsecond : ∀ cs, run? (readOneFlag [p.1]) cs = none := fun _ => rfl
          unfold runItem?
          cases skipBlanks more <;> simp [hsecond]

theorem follows_readClusterField (flags : List Bool) :
    Follows (readClusterField flags) (readEntry (readValueBy .object depth)) (addSetting flags) := by
  refine (follows_readField fun _ => follows_readFlag.map ([·])).congr ?_
  intro m
  unfold addSetting clusterField
  split <;> rfl

theorem follows_readCluster : Follows readCluster (readValueBy .object (depth + 1)) asClusterOnce := by
  refine Follows.behind nextChar ?_
  intro c
  split
  · next hc =>
    subst hc
    have harray : Follows (readSequence ']' readOneFlag []) (readList ']' (readValueBy .object depth))
        fun items => items.foldlM addFlag [] := follows_readSequence follows_readOneFlag []
    refine Follows.map_other ?_
    intro cs
    have hmap := harray.map (fun flags => (⟨flags.headD false⟩ : ClusterOptions)) cs
    rw [run?_map, ← run?_readTuple_flag] at hmap
    refine Eq.trans ?_ hmap
    rw [run?_bind, Option.map_eq_bind]
    rfl
  next harray =>
  split
  · next hc =>
    subst hc
    have hobject : Follows (readSequence '\x7d' readClusterField [])
        (readList '\x7d' (readEntry (readValueBy .object depth)))
        fun members => members.foldlM addSetting [] := follows_readSequence follows_readClusterField []
    have hmap := hobject.map fun flags => (⟨flags.headD false⟩ : ClusterOptions)
    exact Follows.map_other hmap
  next hobject =>
    refine follows_refuse ?_
    intro j hj
    cases j with
    | array items => exact absurd hj harray
    | object members => exact absurd hj hobject
    | _ => rfl

end Json

end Tether
