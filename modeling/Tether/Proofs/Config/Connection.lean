import Tether.Proofs.Descriptor.Entries
import Tether.Proofs.Toml.Document

namespace Tether

/-! # The connection of a configuration file

The table under `connection` is turned into JSON before it is read. It should be read as a table of options is that is
read from TOML at once, and so it is but for two kinds of entries. We show:

* `Config.descriptor?_eq`: the descriptor of a file is that of its table without the numbers that have no JSON form,
  and there is none where the settings of a cluster have excess;
* `ConnectionSpec.descriptor?_eq`: read at once, a table with such numbers has no descriptor;
* `Config.reads_connection_iff`: so the two are the same exactly if neither is in the table, or the rest of it is
  refused anyway.
-/

/-- The descriptor of a table of options. -/
def ConnectionSpec.descriptor? (entries : List (String × Toml)) : Option Descriptor :=
  (ofToml? entries).bind fun spec => spec.toDescriptor.toOption

/-- The descriptor of a configuration file. -/
def Config.descriptor? (text : String) : Option Descriptor :=
  (parse? text).bind fun c => c.argument.toOption.bind fun argument => (Descriptor.ofJson argument).toOption

theorem ConnectionSpec.descriptor?_eq (entries : List (String × Toml)) :
    descriptor? entries = if entries.any isLost then none else descriptor? (kept entries) := by
  unfold descriptor?
  rw [ofToml?_eq]
  split <;> rfl

namespace Config

variable {text : String} {entries : List (String × Toml)}

/-- A file with nothing but the connection has the JSON form of its table for an argument. -/
theorem descriptor?_of_parse (h : Toml.parse text = some [("connection", .table entries)]) :
    descriptor? text = (Descriptor.ofJson (Toml.table entries).toJson).toOption := by
  have hparse : parse? text = some { connection := some (Toml.table entries).toJson } := by
    rw [parse?, h]
    rfl
  rw [descriptor?, hparse]
  rfl

theorem descriptor?_eq (h : Toml.parse text = some [("connection", .table entries)]) :
    descriptor? text = if entries.any ConnectionSpec.isExcessive then none
      else ConnectionSpec.descriptor? (ConnectionSpec.kept entries) := by
  -- the table is one of the document
  have hd : (Toml.table entries).Distinct := by
    cases Toml.distinct_of_parse h with
    | table _ hvalues => exact hvalues _ List.mem_cons_self
  obtain ⟨sorted, hsorted, hread⟩ := ConnectionSpec.ofMembers_toJson hd
  rw [descriptor?_of_parse h, hsorted, Descriptor.toOption_ofJson_object, hread]
  split <;> rfl

/-- The connection of a file is that of its table without what is lost on the way, unless it has excess; read at once,
the table has a descriptor only if nothing in it would be lost. So the two give the same descriptors exactly if nothing
is lost and there is no excess, or both, or else the table has no descriptor without what is lost. -/
theorem reads_connection_iff (h : Toml.parse text = some [("connection", .table entries)]) :
    (∀ d, descriptor? text = some d ↔ entries.any ConnectionSpec.isExcessive = false ∧
      ConnectionSpec.descriptor? (ConnectionSpec.kept entries) = some d) ∧
    (∀ d, ConnectionSpec.descriptor? entries = some d ↔ entries.any ConnectionSpec.isLost = false ∧
      ConnectionSpec.descriptor? (ConnectionSpec.kept entries) = some d) ∧
    ((∀ d, descriptor? text = some d ↔ ConnectionSpec.descriptor? entries = some d) ↔
      entries.any ConnectionSpec.isLost = entries.any ConnectionSpec.isExcessive ∨
        ConnectionSpec.descriptor? (ConnectionSpec.kept entries) = none) := by
  have hfile := descriptor?_eq h
  have htable := ConnectionSpec.descriptor?_eq entries
  -- where only one of the two is refused, they agree if the rest of the table gives nothing
  have hnone : (∀ d, ¬ConnectionSpec.descriptor? (ConnectionSpec.kept entries) = some d) ↔
      ConnectionSpec.descriptor? (ConnectionSpec.kept entries) = none := Option.eq_none_iff_forall_ne_some.symm
  cases hlost : entries.any ConnectionSpec.isLost <;> cases hexcess : entries.any ConnectionSpec.isExcessive <;>
    simp [hfile, htable, hlost, hexcess, hnone]

/-- The settings of a cluster are read from a file as from their table. -/
theorem reads_cluster_table : ∃ d entries,
    Toml.parse "[connection]\naddresses = ['b:2', 'a:1']\n[connection.cluster]\nreadFromReplicas = true\n" =
      some [("connection", .table entries)] ∧
    ConnectionSpec.descriptor? entries = some d ∧
    descriptor? "[connection]\naddresses = ['b:2', 'a:1']\n[connection.cluster]\nreadFromReplicas = true\n" = some d ∧
    d.addresses = ["b:2", "a:1"] ∧ d.mode = .cluster { readFromReplicas := true } := by
  have hparse : Toml.parse "[connection]\naddresses = ['b:2', 'a:1']\n[connection.cluster]\nreadFromReplicas = true\n" =
      some [("connection", .table [("addresses", .array [.string "b:2", .string "a:1"]),
        ("cluster", .table [("readFromReplicas", .boolean true)])])] := by decide +kernel
  have hread : ((ConnectionSpec.descriptor? [("addresses", .array [.string "b:2", .string "a:1"]),
      ("cluster", .table [("readFromReplicas", .boolean true)])]).map fun d => (d.addresses, d.mode)) =
        some (["b:2", "a:1"], .cluster { readFromReplicas := true }) := by decide +kernel
  obtain ⟨d, hd, hparts⟩ := Option.map_eq_some_iff.1 hread
  obtain ⟨haddresses, hmode⟩ := Prod.mk.inj hparts
  have hsame := (reads_connection_iff hparse).2.2.2 (.inl (by decide +kernel)) d
  exact ⟨d, _, hparse, hd, hsame.2 hd, haddresses, hmode⟩

/-- A number that JSON has no form for is left out of the connection of a file, where the table is refused; and a
cluster's settings with excess are refused in a file, where the table is read. -/
theorem nan_left_out_of_file_and_excess_refused :
    (∃ entries, Toml.parse "[connection]\naddresses = ['a:1']\ndatabase = nan\n" =
        some [("connection", .table entries)] ∧
      ConnectionSpec.descriptor? entries = none ∧
      (descriptor? "[connection]\naddresses = ['a:1']\ndatabase = nan\n").map (fun d => (d.addresses, d.mode)) =
        some (["a:1"], .single)) ∧
    (∃ entries, Toml.parse "[connection]\naddresses = ['a:1']\ncluster = [true, 1]\n" =
        some [("connection", .table entries)] ∧
      (ConnectionSpec.descriptor? entries).map (fun d => (d.addresses, d.mode)) =
        some (["a:1"], .cluster { readFromReplicas := true }) ∧
      descriptor? "[connection]\naddresses = ['a:1']\ncluster = [true, 1]\n" = none) := by
  constructor
  · refine ⟨[("addresses", .array [.string "a:1"]), ("database", .real Binary64.nan)], ?_, ?_, ?_⟩ <;> decide +kernel
  · refine ⟨[("addresses", .array [.string "a:1"]), ("cluster", .array [.boolean true, .integer 1])], ?_, ?_, ?_⟩ <;>
      decide +kernel

end Config

end Tether
