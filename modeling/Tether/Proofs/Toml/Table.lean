import Tether.Toml.Table

namespace Tether

/-! # The keys of TOML tables

No table has a key twice, at whatever depth it stands: `TomlTable.put` finds the key that is there, and every way into
a table goes through it. We show:

* `Distinct.put`: an item may be put under any key;
* `keeps_modifyAt`: what is done at the end of a path may be done there;
* `distinct_toToml`: the values of a table have no key twice either.
-/

/-- No table in the value has a key twice. -/
inductive Toml.Distinct : Toml → Prop where
  | string (s : String) : Toml.Distinct (.string s)
  | integer (i : Int64) : Toml.Distinct (.integer i)
  | real (x : Binary64) : Toml.Distinct (.real x)
  | boolean (b : Bool) : Toml.Distinct (.boolean b)
  | datetime (d : Datetime) : Toml.Distinct (.datetime d)
  | array {items : List Toml} (h : ∀ v ∈ items, v.Distinct) : Toml.Distinct (.array items)
  | table {entries : List (String × Toml)} (hkeys : (entries.map (·.1)).Nodup) (h : ∀ e ∈ entries, e.2.Distinct) :
    Toml.Distinct (.table entries)

/-- No table in the item has a key twice. -/
inductive TomlItem.Distinct : TomlItem → Prop where
  | value {v : Toml} (h : v.Distinct) : TomlItem.Distinct (.value v)
  | table {origin : TableOrigin} {entries : TomlTable} (hkeys : (entries.map (·.1)).Nodup)
    (h : ∀ e ∈ entries, e.2.Distinct) : TomlItem.Distinct (.table origin entries)
  | tables {all : List TomlTable} (hkeys : ∀ entries ∈ all, (entries.map (·.1)).Nodup)
    (h : ∀ entries ∈ all, ∀ e ∈ entries, e.2.Distinct) : TomlItem.Distinct (.tables all)

namespace TomlTable

/-- No table in the table, itself included, has a key twice. -/
def Distinct (entries : TomlTable) : Prop := (entries.map (·.1)).Nodup ∧ ∀ e ∈ entries, e.2.Distinct

theorem distinct_nil : Distinct [] := ⟨List.nodup_nil, by simp⟩

/-! ## Building a table -/

theorem keys_put (key : String) (item : TomlItem) (entries : TomlTable) :
    (put key item entries).map (·.1) =
      if key ∈ entries.map (·.1) then entries.map (·.1) else entries.map (·.1) ++ [key] := by
  induction entries with
  | nil => rfl
  | cons e rest ih =>
    by_cases he : e.1 = key
    · simp [put, he]
    · simp only [put, if_neg he, List.map_cons, ih, List.mem_cons, Ne.symm he, false_or]
      split <;> rfl

theorem mem_of_mem_put {key : String} {item : TomlItem} {entries : TomlTable} {e : String × TomlItem}
    (h : e ∈ put key item entries) : e.2 = item ∨ e ∈ entries := by
  induction entries with
  | nil =>
    rw [put, List.mem_singleton] at h
    exact Or.inl (h ▸ rfl)
  | cons head rest ih =>
    unfold put at h
    split at h
    · rcases List.mem_cons.1 h with rfl | h
      · exact Or.inl rfl
      · exact Or.inr (List.mem_cons_of_mem _ h)
    · rcases List.mem_cons.1 h with rfl | h
      · exact Or.inr List.mem_cons_self
      · exact (ih h).imp_right (List.mem_cons_of_mem _)

theorem Distinct.put {entries : TomlTable} (h : Distinct entries) (key : String) {item : TomlItem}
    (hitem : item.Distinct) : Distinct (put key item entries) := by
  constructor
  · rw [keys_put]
    split
    · exact h.1
    · next hkey =>
      rw [List.nodup_append]
      refine ⟨h.1, by simp, ?_⟩
      intro k hk k' hk' heq
      rw [List.mem_singleton.1 hk'] at heq
      exact hkey (heq ▸ hk)
  · intro e he
    rcases mem_of_mem_put he with heq | he
    · exact heq ▸ hitem
    · exact h.2 e he

theorem Distinct.of_lookup {entries : TomlTable} (h : Distinct entries) {key : String} {item : TomlItem}
    (hl : entries.lookup key = some item) : item.Distinct := by
  obtain ⟨before, after, heq, _⟩ := List.lookup_eq_some_iff.1 hl
  exact h.2 (key, item) (by simp [heq])

theorem Distinct.of_table {origin : TableOrigin} {entries : TomlTable}
    (h : TomlItem.Distinct (.table origin entries)) : Distinct entries := by
  cases h with
  | table hkeys h => exact ⟨hkeys, h⟩

theorem Distinct.of_tables {all : List TomlTable} (h : TomlItem.Distinct (.tables all)) :
    ∀ entries ∈ all, Distinct entries := by
  cases h with
  | tables hkeys h => exact fun entries he => ⟨hkeys entries he, h entries he⟩

theorem distinct_table {entries : TomlTable} (h : Distinct entries) (origin : TableOrigin) :
    TomlItem.Distinct (.table origin entries) := .table h.1 h.2

theorem distinct_tables {all : List TomlTable} (h : ∀ entries ∈ all, Distinct entries) :
    TomlItem.Distinct (.tables all) := .tables (fun entries he => (h entries he).1) (fun entries he => (h entries he).2)

/-- A change to a table that gives no key twice where there was none. -/
def Keeps (modify : TableOrigin → TomlTable → Option TomlTable) : Prop :=
  ∀ origin entries new, modify origin entries = some new → Distinct entries → Distinct new

/-- What is done at the end of a path is put back all along it. -/
theorem keeps_modifyAt {modify : TableOrigin → TomlTable → Option TomlTable} (hm : Keeps modify) (byDots : Bool)
    (path : List String) : Keeps (modifyAt byDots modify path) := by
  induction path with
  | nil => exact hm
  | cons key path ih =>
    intro origin entries new h hd
    unfold modifyAt at h
    split at h
    · -- a new table
      obtain ⟨inner, hinner, rfl⟩ := Option.map_eq_some_iff.1 h
      exact hd.put key (distinct_table (ih _ _ _ hinner distinct_nil) _)
    · cases h
    · next origin' inner hl =>
      -- a table that is there
      split at h
      · cases h
      · obtain ⟨inner', hinner, rfl⟩ := Option.map_eq_some_iff.1 h
        exact hd.put key (distinct_table (ih _ _ _ hinner (.of_table (hd.of_lookup hl))) _)
    · next all hl =>
      -- the last of several tables
      obtain ⟨inner, hinner, rfl⟩ := Option.map_eq_some_iff.1 h
      have hall : ∀ entries ∈ all, Distinct entries := .of_tables (hd.of_lookup hl)
      have hlast : Distinct (all.getLastD []) := by
        rw [List.getLastD_eq_getLast?]
        cases hg : all.getLast? with
        | none => exact distinct_nil
        | some last => exact hall last (List.mem_of_getLast? hg)
      refine hd.put key (distinct_tables ?_)
      intro entries he
      rcases List.mem_append.1 he with he | he
      · exact hall entries (List.dropLast_subset _ he)
      · rw [List.mem_singleton.1 he]
        exact ih _ _ _ hinner hlast

theorem keeps_addValue (dots : Bool) (key : String) {v : Toml} (hv : v.Distinct) : Keeps (addValue dots key v) := by
  intro origin entries new h hd
  unfold addValue at h
  split at h
  · cases h
  · split at h
    · cases h
    · cases h
      exact hd.put key (.value hv)

theorem keeps_openTable (key : String) : Keeps (openTable key) := by
  intro origin entries new h hd
  unfold openTable at h
  split at h
  · cases h
    exact hd.put key (distinct_table distinct_nil _)
  · next inner hl =>
    cases h
    exact hd.put key (distinct_table (.of_table (hd.of_lookup hl)) _)
  · cases h

theorem keeps_openNext (key : String) : Keeps (openNext key) := by
  intro origin entries new h hd
  unfold openNext at h
  split at h
  · cases h
    exact hd.put key (distinct_tables (by simp [distinct_nil]))
  · next all hl =>
    cases h
    refine hd.put key (distinct_tables ?_)
    intro inner hi
    rcases List.mem_append.1 hi with hi | hi
    · exact Distinct.of_tables (hd.of_lookup hl) inner hi
    · rw [List.mem_singleton.1 hi]
      exact distinct_nil
  · cases h

/-! ## The values of a table -/

theorem toEntries_eq_map (entries : TomlTable) : toEntries entries = entries.map fun e => (e.1, e.2.toToml) := by
  induction entries with
  | nil => rfl
  | cons e rest ih => rw [toEntries, ih, List.map_cons]

theorem toTables_eq_map (all : List TomlTable) : toTables all = all.map fun entries => .table (toEntries entries) := by
  induction all with
  | nil => rfl
  | cons entries rest ih => rw [toTables, ih, List.map_cons]

theorem distinct_toToml {item : TomlItem} (h : item.Distinct) : item.toToml.Distinct := by
  have htable : ∀ entries : TomlTable, (entries.map (·.1)).Nodup → (∀ e ∈ entries, e.2.toToml.Distinct) →
      (Toml.table (toEntries entries)).Distinct := by
    intro entries hkeys hvalues
    rw [toEntries_eq_map]
    refine .table ?_ ?_
    · rw [List.map_map]
      exact hkeys
    · intro e he
      obtain ⟨item, hitem, rfl⟩ := List.mem_map.1 he
      exact hvalues item hitem
  induction h with
  | value h => exact h
  | table hkeys _ ih => exact htable _ hkeys ih
  | tables hkeys _ ih =>
    rw [TomlItem.toToml, toTables_eq_map]
    refine .array ?_
    intro v hv
    obtain ⟨entries, he, rfl⟩ := List.mem_map.1 hv
    exact htable entries (hkeys entries he) (ih entries he)

theorem Distinct.toToml {entries : TomlTable} (h : Distinct entries) : (Toml.table (toEntries entries)).Distinct :=
  distinct_toToml (distinct_table h .header)

end TomlTable

end Tether
