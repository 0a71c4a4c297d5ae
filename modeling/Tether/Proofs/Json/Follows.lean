import Tether.Json.Tree
import Tether.Proofs.Json.Members

namespace Tether

/-! # Readers that follow other readers

A reader follows another one if it gives what can be made of what the other one gives, and nothing where nothing can
be made of it; the faults may differ (`Json.Follows`). So does a fold over the items of a container follow the list of
its items, if its step follows the reader of an item (`Json.follows_readSequence`).
-/

namespace Json

/-- What a reader gives, and what it leaves of the text. -/
def run? {α : Type} (read : Reader α) (cs : List Char) : Option (α × List Char) := (read cs).toOption

section Follows

variable {α β σ τ υ : Type}

@[simp] theorem run?_pure (a : α) (cs : List Char) : run? (pure a) cs = some (a, cs) := rfl

@[simp] theorem run?_throw (fault : Fault) (cs : List Char) : run? (throw fault : Reader α) cs = none := rfl

@[simp] theorem run?_bind (read : Reader α) (next : α → Reader β) (cs : List Char) :
    run? (read >>= next) cs = (run? read cs).bind fun p => run? (next p.1) p.2 := by
  show ((read cs).bind fun p => next p.1 p.2).toOption = _
  unfold run?
  cases read cs <;> rfl

@[simp] theorem run?_map (f : α → β) (read : Reader α) (cs : List Char) :
    run? (f <$> read) cs = (run? read cs).map fun p => (f p.1, p.2) := by
  show ((read cs).map fun p => (f p.1, p.2)).toOption = _
  unfold run?
  cases read cs <;> rfl

/-- Makes something of what a reader gave. -/
def through (make : τ → Option α) (r : Option (τ × List Char)) : Option (α × List Char) :=
  r.bind fun p => (make p.1).map (·, p.2)

/-- The reader gives what is made of what the other reader gives. -/
def Follows (read : Reader α) (other : Reader τ) (make : τ → Option α) : Prop :=
  ∀ cs, run? read cs = through make (run? other cs)

variable {read : Reader α} {other : Reader τ} {make : τ → Option α}

theorem through_map_left (f : α → β) (make : τ → Option α) (r : Option (τ × List Char)) :
    (through make r).map (fun p => (f p.1, p.2)) = through (fun t => (make t).map f) r := by
  cases r with
  | none => rfl
  | some p => cases h : make p.1 <;> simp [through, h]

theorem through_map_right (g : υ → τ) (make : τ → Option α) (r : Option (υ × List Char)) :
    through make (r.map fun p => (g p.1, p.2)) = through (fun u => make (g u)) r := by
  cases r <;> rfl

/-- Only what was read counts. -/
theorem through_congr {make make' : τ → Option α} {r : Option (τ × List Char)}
    (h : ∀ t rest, r = some (t, rest) → make t = make' t) : through make r = through make' r := by
  cases r with
  | none => rfl
  | some p => exact congrArg (Option.map (·, p.2)) (h p.1 p.2 rfl)

/-- More may be made of what is read. -/
theorem Follows.map (h : Follows read other make) (f : α → β) : Follows (f <$> read) other fun t => (make t).map f := by
  intro cs
  rw [run?_map, h cs, through_map_left]

/-- The other reader may itself make something of what it reads. -/
theorem Follows.map_other {g : υ → τ} {other : Reader υ} (h : Follows read other fun u => make (g u)) :
    Follows read (g <$> other) make := by
  intro cs
  rw [h cs, run?_map, through_map_right]

theorem Follows.congr {make' : τ → Option α} (h : Follows read other make) (heq : ∀ t, make t = make' t) :
    Follows read other make' := funext heq ▸ h

theorem through_bind (make : τ → Option α) (r : Option (υ × List Char))
    (next : υ → List Char → Option (τ × List Char)) :
    through make (r.bind fun p => next p.1 p.2) = r.bind fun p => through make (next p.1 p.2) := by
  cases r <;> rfl

/-- What both read first does not count. -/
theorem Follows.behind (first : Reader υ) {read : υ → Reader α} {other : υ → Reader τ}
    (h : ∀ u, Follows (read u) (other u) make) : Follows (first >>= read) (first >>= other) make := by
  intro cs
  rw [run?_bind, run?_bind, through_bind _ _ fun u => run? (other u)]
  exact congrArg _ (funext fun p => h p.1 p.2)

/-- What is read may be checked. -/
theorem Follows.check (h : Follows read other make) {check : α → Reader β} {f : α → Option β}
    (hcheck : ∀ a cs, run? (check a) cs = (f a).map (·, cs)) :
    Follows (read >>= check) other fun t => (make t).bind f := by
  intro cs
  rw [run?_bind, h cs]
  unfold through
  cases run? other cs with
  | none => rfl
  | some p => cases hmake : make p.1 <;> simp [hmake, hcheck]

/-- A reader that gives nothing follows one that gives nothing to be made something of. -/
theorem follows_of_none (hread : ∀ cs, run? read cs = none)
    (hmake : ∀ cs t rest, run? other cs = some (t, rest) → make t = none) : Follows read other make := by
  intro cs
  rw [hread cs]
  unfold through
  cases hother : run? other cs with
  | none => rfl
  | some p => simp [hmake cs p.1 p.2 hother]

/-- A reader follows itself, if what it gives is kept. -/
theorem follows_self {make : τ → Option τ} (h : ∀ cs t rest, run? other cs = some (t, rest) → make t = some t) :
    Follows other other make := by
  intro cs
  unfold through
  cases hother : run? other cs with
  | none => rfl
  | some p => simp [h cs p.1 p.2 hother]

/-! ## Containers -/

section Steps

variable (close : Char) (step : σ → Reader σ) (s : σ) (cs : List Char)

/-- What is read behind a comma, or at the beginning. -/
def runItem? (close : Char) (item : List Char → Option α) (cs : List Char) : Option α :=
  match skipBlanks cs with
  | [] => none
  | c :: rest => if c = close then none else item (c :: rest)

theorem run?_readItems_succ (fuel : Nat) :
    run? (readItems close step (fuel + 1) s) cs =
      match skipBlanks cs with
      | [] => none
      | c :: rest =>
        if c = close then some (s, rest)
        else if c = ',' then
          runItem? close (fun cs => (run? (step s) cs).bind fun p => run? (readItems close step fuel p.1) p.2) rest
        else none := by
  unfold run? runItem?
  rw [readItems]
  cases skipBlanks cs with
  | nil => rfl
  | cons c rest =>
    simp only
    split
    · rfl
    split
    · cases skipBlanks rest with
      | nil => rfl
      | cons d more =>
        simp only
        split
        · rfl
        · cases step s (d :: more) <;> rfl
    · rfl

theorem run?_readSequence :
    run? (readSequence close step s) cs =
      match skipBlanks cs with
      | [] => none
      | c :: rest =>
        if c = close then some (s, rest)
        else (run? (step s) (c :: rest)).bind fun p => run? (readItems close step (p.2.length + 1) p.1) p.2 := by
  unfold run?
  rw [readSequence]
  cases skipBlanks cs with
  | nil => rfl
  | cons c rest =>
    simp only
    split
    · rfl
    · cases step s (c :: rest) <;> rfl

end Steps

variable {close : Char} {step : σ → Reader σ} {use : σ → τ → Option σ}

/-- One more item is used after those before it. -/
theorem readItem_bind (h : ∀ s, Follows (step s) other (use s)) (rest : σ → List Char → Option α) (items : List τ)
    (s : σ) (cs : List Char) :
    ((run? (readItem other items) cs).bind fun p => (p.1.reverse.foldlM use s).bind fun s => rest s p.2) =
      (items.reverse.foldlM use s).bind fun s => (run? (step s) cs).bind fun p => rest p.1 p.2 := by
  unfold readItem
  rw [run?_map]
  cases hitem : run? other cs with
  | none =>
    -- no step is taken where there is no item
    have hstep : ∀ s, run? (step s) cs = none := by
      intro s
      rw [h s cs, hitem]
      rfl
    simp [hstep]
  | some p =>
    have hstep : ∀ s, run? (step s) cs = (use s p.1).map (·, p.2) := by
      intro s
      rw [h s cs, hitem]
      rfl
    simp only [Option.map_some, List.foldlM_reverse, Option.bind_some, List.foldrM_cons, Option.bind_eq_bind,
      Option.bind_assoc, hstep, Option.bind_map, Function.comp_def]

theorem readItems_bind (h : ∀ s, Follows (step s) other (use s)) (s : σ) (fuel : Nat) (items : List τ)
    (cs : List Char) :
    through (fun items : List τ => items.reverse.foldlM use s) (run? (readItems close (readItem other) fuel items) cs) =
      (items.reverse.foldlM use s).bind fun s => run? (readItems close step fuel s) cs := by
  induction fuel generalizing items cs with
  | zero => cases items.reverse.foldlM use s <;> rfl
  | succ fuel ih =>
    simp only [run?_readItems_succ]
    cases skipBlanks cs with
    | nil => cases items.reverse.foldlM use s <;> rfl
    | cons c rest =>
      simp only
      split
      · exact Option.map_eq_bind
      split
      · unfold runItem?
        cases skipBlanks rest with
        | nil => cases items.reverse.foldlM use s <;> rfl
        | cons d more =>
          simp only
          split
          · cases items.reverse.foldlM use s <;> rfl
          · -- an item, and then the items behind it
            rw [through_bind _ _ fun items cs => run? (readItems close (readItem other) fuel items) cs]
            simp only [ih]
            exact readItem_bind h (fun s cs => run? (readItems close step fuel s) cs) items s (d :: more)
      · cases items.reverse.foldlM use s <;> rfl

/-- A fold over the items of a container uses the items one after another. -/
theorem follows_readSequence (h : ∀ s, Follows (step s) other (use s)) (s : σ) :
    Follows (readSequence close step s) (readList close other) fun items => items.foldlM use s := by
  refine Follows.map_other ?_
  intro cs
  simp only [run?_readSequence]
  cases skipBlanks cs with
  | nil => rfl
  | cons c rest =>
    simp only
    split
    · rfl
    · rw [through_bind _ _ fun items cs' => run? (readItems close (readItem other) (cs'.length + 1) items) cs']
      simp only [readItems_bind h]
      exact (readItem_bind h (fun s cs => run? (readItems close step (cs.length + 1) s) cs) [] s (c :: rest)).symm

/-- A list of items is made of what is made of each item. -/
theorem follows_readList (h : Follows read other make) :
    Follows (readList close read) (readList close other) fun items => items.mapM make := by
  have hitem : ∀ items, Follows (readItem read items) other fun t => (make t).map (· :: items) := fun _ => h.map _
  refine ((follows_readSequence hitem []).map List.reverse).congr ?_
  intro items
  rw [List.mapM_eq_reverse_foldlM_cons]
  rfl

/-! ## Members -/

theorem run?_readEntry (read : Reader Json) (cs : List Char) :
    run? (readEntry read) cs = (readKey cs).toOption.bind fun p => (readColon p.2).toOption.bind fun cs =>
      (run? read cs).map fun q => ((p.1, q.1), q.2) := by
  unfold run? readEntry
  cases readKey cs with
  | error fault => rfl
  | ok p =>
    simp only [Except.toOption, Option.bind_some, bind, Except.bind]
    cases readColon p.2 with
    | error fault => rfl
    | ok cs => cases h : read cs <;> simp [h]

theorem follows_readEntry {read other : Reader Json} {make : Json → Option Json} (h : Follows read other make) :
    Follows (readEntry read) (readEntry other) fun m => (make m.2).map (m.1, ·) := by
  intro cs
  rw [run?_readEntry, run?_readEntry]
  cases readKey cs with
  | error fault => rfl
  | ok p =>
    simp only [Except.toOption, Option.bind_some]
    cases readColon p.2 with
    | error fault => rfl
    | ok cs =>
      simp only [Option.bind_some]
      rw [h cs]
      unfold through
      cases run? other cs with
      | none => rfl
      | some q => cases hmake : make q.1 <;> simp [hmake]

end Follows

end Json

end Tether
