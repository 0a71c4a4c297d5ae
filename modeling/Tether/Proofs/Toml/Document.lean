import Tether.Proofs.Toml.Table
import Tether.Toml.Document

namespace Tether

/-! # The keys of TOML documents

What a reader gives is told by what the readers in it give (`Toml.Yields`): a value is read from the values within it,
and a line adds to a table through `TomlTable.modifyAt` only. So no table of a document has a key twice
(`Toml.distinct_of_parse`).
-/

namespace Toml

/-- Whatever the reader gives has the property. -/
def Yields {α : Type} (read : Reader α) (p : α → Prop) : Prop := ∀ cs a rest, read cs = some (a, rest) → p a

section Yields

variable {α β : Type} {p : α → Prop} {q : β → Prop}

theorem yields_pure {a : α} (h : p a) : Yields (pure a) p := by
  intro cs b rest hb
  cases hb
  exact h

theorem yields_failure : Yields (failure : Reader α) p := by
  intro cs a rest h
  cases h

theorem yields_liftM {o : Option α} (h : ∀ a, o = some a → p a) : Yields (liftM o : Reader α) p := by
  intro cs a rest ha
  cases o with
  | none => cases ha
  | some b =>
    cases ha
    exact h a rfl

theorem yields_bind {read : Reader α} {next : α → Reader β} (h : Yields read p) (hnext : ∀ a, p a → Yields (next a) q) :
    Yields (read >>= next) q := by
  intro cs b rest hb
  obtain ⟨⟨a, cs'⟩, ha, hb⟩ := Option.bind_eq_some_iff.1 hb
  exact hnext a (h cs a cs' ha) cs' b rest hb

/-- What comes last decides, where nothing is known of what comes before. -/
theorem yields_last {read : Reader α} {next : α → Reader β} (hnext : ∀ a, Yields (next a) q) :
    Yields (read >>= next) q :=
  yields_bind (p := fun _ => True) (fun _ _ _ _ => trivial) fun a _ => hnext a

theorem yields_map {read : Reader α} {f : α → β} (h : Yields read fun a => q (f a)) : Yields (f <$> read) q := by
  have hpure : ∀ a, q (f a) → Yields (pure (f a)) q := fun a ha => yields_pure ha
  exact yields_bind h hpure

/-- Only what is made of it counts, where nothing is known of what was read. -/
theorem yields_made {read : Reader α} {f : α → β} (h : ∀ a, q (f a)) : Yields (f <$> read) q :=
  yields_map fun _ a _ _ => h a

theorem yields_orElse {read : Reader α} {other : Unit → Reader α} (h : Yields read p) (hother : Yields (other ()) p) :
    Yields (HOrElse.hOrElse read other) p := by
  intro cs a rest ha
  have hor : (read cs).orElse (fun _ => other () cs) = some (a, rest) := ha
  cases hr : read cs with
  | none =>
    rw [hr] at hor
    exact hother cs a rest hor
  | some r =>
    rw [hr] at hor
    cases hor
    exact h cs a rest hr

end Yields

/-! ## Values -/

theorem yields_readNumeric : Yields readNumeric Toml.Distinct := by
  refine yields_orElse (yields_made .datetime) ?_
  refine yields_orElse (yields_made .real) ?_
  refine yields_orElse (yields_made .real) ?_
  exact yields_made .integer

theorem yields_readArrayItems {readItem : Reader Toml} (h : Yields readItem Toml.Distinct) (fuel : Nat) :
    Yields (readArrayItems readItem fuel) fun items => ∀ v ∈ items, v.Distinct := by
  induction fuel with
  | zero => exact yields_failure
  | succ fuel ih =>
    unfold readArrayItems
    refine yields_last ?_
    intro _
    refine yields_last ?_
    intro closed
    cases closed with
    | some _ => exact yields_pure (by simp)
    | none =>
      refine yields_bind h ?_
      intro item hitem
      refine yields_last ?_
      intro _
      refine yields_last ?_
      intro comma
      cases comma with
      | some _ =>
        -- the items behind the comma are read with less fuel
        refine yields_bind ih ?_
        intro items hitems
        exact yields_pure (List.forall_mem_cons.2 ⟨hitem, hitems⟩)
      | none =>
        refine yields_last ?_
        intro _
        exact yields_pure (by simpa using hitem)

/-- A value may be added under any path. -/
theorem keeps_addAt (path : List String) {v : Toml} (hv : v.Distinct) : TomlTable.Keeps (addAt path v) := by
  intro origin entries new h hd
  unfold addAt at h
  split at h
  · cases h
  · next key above _ =>
    have hadd := TomlTable.keeps_addValue (!above.isEmpty) key hv
    exact TomlTable.keeps_modifyAt hadd true above.reverse origin entries new h hd

theorem yields_readInlineEntries {readItem : Reader Toml} (h : Yields readItem Toml.Distinct) (fuel : Nat) :
    ∀ entries, TomlTable.Distinct entries → Yields (readInlineEntries readItem fuel entries) TomlTable.Distinct := by
  induction fuel with
  | zero => exact fun _ _ => yields_failure
  | succ fuel ih =>
    intro entries hd
    unfold readInlineEntries
    refine yields_last ?_
    intro path
    refine yields_last ?_
    intro _
    refine yields_last ?_
    intro _
    refine yields_bind h ?_
    intro v hv
    refine yields_last ?_
    intro _
    have hadded : Yields (liftM (addAt path v .header entries) : Reader TomlTable) TomlTable.Distinct :=
      yields_liftM fun new hnew => keeps_addAt path hv _ _ _ hnew hd
    refine yields_bind hadded ?_
    intro new hnew
    refine yields_last ?_
    intro comma
    cases comma with
    | some _ => exact ih new hnew
    | none => exact yields_last fun _ => yields_pure hnew

theorem yields_readInlineTable {readItem : Reader Toml} (h : Yields readItem Toml.Distinct) :
    Yields (readInlineTable readItem) TomlTable.Distinct := by
  unfold readInlineTable
  refine yields_last ?_
  intro _
  refine yields_last ?_
  intro closed
  cases closed with
  | some _ => exact yields_pure TomlTable.distinct_nil
  | none => exact yields_last fun _ => yields_readInlineEntries h _ [] TomlTable.distinct_nil

/-- A value is distinct if those within it are. -/
theorem yields_readValue_of {depth : Nat} (h : ∀ d, depth = d + 1 → Yields (readValue d) Toml.Distinct) :
    Yields (readValue depth) Toml.Distinct := by
  intro cs v rest hv
  unfold readValue at hv
  split at hv
  · exact yields_made .string _ _ _ hv
  · exact yields_made .string _ _ _ hv
  · -- an array
    split at hv
    · cases hv
    · next d =>
      refine yields_map ?_ _ _ _ hv
      intro cs items rest hi
      exact .array (yields_readArrayItems (h d rfl) _ cs items rest hi)
  · -- a table on one line
    split at hv
    · cases hv
    · next d =>
      refine yields_map ?_ _ _ _ hv
      intro cs entries rest he
      exact (yields_readInlineTable (h d rfl) cs entries rest he).toToml
  · exact yields_made (fun _ => .boolean true) _ _ _ hv
  · exact yields_made (fun _ => .boolean false) _ _ _ hv
  · exact yields_made .real _ _ _ hv
  · exact yields_made .real _ _ _ hv
  · split at hv
    · exact yields_readNumeric _ _ _ hv
    · cases hv
  · cases hv

theorem yields_readValue (depth : Nat) : Yields (readValue depth) Toml.Distinct := by
  induction depth with
  | zero => exact yields_readValue_of nofun
  | succ depth ih => exact yields_readValue_of fun d hd => Nat.succ.inj hd ▸ ih

/-! ## Lines -/

namespace Draft

/-- No table of the document so far has a key twice. -/
def Distinct (d : Draft) : Prop := TomlTable.Distinct d.entries

variable {d new : Draft} {path : List String}

theorem distinct_add {v : Toml} (h : d.add path v = some new) (hv : v.Distinct) (hd : d.Distinct) : new.Distinct := by
  obtain ⟨entries, he, hnew⟩ := Option.bind_eq_some_iff.1 h
  cases hnew
  exact TomlTable.keeps_modifyAt (keeps_addAt path hv) false d.path .header d.entries entries he hd

theorem distinct_enter {enter : String → TableOrigin → TomlTable → Option TomlTable}
    (h : d.enter path enter = some new) (henter : ∀ key, TomlTable.Keeps (enter key)) (hd : d.Distinct) :
    new.Distinct := by
  unfold Draft.enter at h
  split at h
  · cases h
  · next key above _ =>
    obtain ⟨entries, he, hnew⟩ := Option.bind_eq_some_iff.1 h
    cases hnew
    exact TomlTable.keeps_modifyAt (henter key) false above.reverse .header d.entries entries he hd

end Draft

theorem yields_readKeyValue : Yields readKeyValue fun e => e.2.Distinct := by
  unfold readKeyValue
  refine yields_last ?_
  intro path
  refine yields_last ?_
  intro _
  refine yields_last ?_
  intro _
  refine yields_bind (yields_readValue _) ?_
  intro v hv
  exact yields_last fun _ => yields_pure hv

theorem yields_readLine {d : Draft} (hd : d.Distinct) : Yields (readLine d) Draft.Distinct := by
  intro cs new rest h
  unfold readLine at h
  split at h
  · exact yields_last (fun _ => yields_last fun _ => yields_pure hd) _ _ _ h
  · exact yields_last (fun _ => yields_pure hd) _ _ _ h
  · exact yields_last (fun _ => yields_pure hd) _ _ _ h
  · -- the header of one more table
    refine yields_last (fun path => yields_liftM ?_) _ _ _ h
    intro new hnew
    exact Draft.distinct_enter hnew TomlTable.keeps_openNext hd
  · -- the header of a table
    refine yields_last (fun path => yields_liftM ?_) _ _ _ h
    intro new hnew
    exact Draft.distinct_enter hnew TomlTable.keeps_openTable hd
  · -- a key with its value
    refine yields_bind yields_readKeyValue (fun e he => yields_liftM ?_) _ _ _ h
    intro new hnew
    exact Draft.distinct_add hnew he hd

theorem yields_readLines (fuel : Nat) : ∀ d : Draft, d.Distinct → Yields (readLines fuel d) Draft.Distinct := by
  induction fuel with
  | zero => exact fun _ _ => yields_failure
  | succ fuel ih =>
    intro d hd
    unfold readLines
    refine yields_last ?_
    intro _
    refine yields_last ?_
    intro cs
    split
    · exact yields_pure hd
    · exact yields_bind (yields_readLine hd) fun new hnew => ih new hnew

/-- The table that a text spells has no key twice, and neither has any table in it. -/
theorem distinct_of_parse {text : String} {entries : List (String × Toml)} (h : parse text = some entries) :
    (Toml.table entries).Distinct := by
  obtain ⟨⟨d, rest⟩, hd, he⟩ := Option.bind_eq_some_iff.1 h
  cases he
  exact (yields_readLines _ {} TomlTable.distinct_nil _ d rest hd).toToml

end Toml

end Tether
