import Mathlib
import ProgramFacts.Proofs.Syntax.RoundTrip
import ProgramFacts.Symbol

/-!
# What is written is read back

Modules and symbol tables are read back from the values that they are written as
(`read_back`). A table consists of dictionaries, so it is read back only if their
keys ascend, and in whatever form a table was given, those of the table that is read
do (`SymbolTable.ascending_of_ofDraft`).
-/

namespace ProgramFacts

open ProgramFacts.Json.Draft
open ProgramFacts.Syntax

instance : LawfulFamily SymbolTypeKind := ⟨fun kind => by cases kind <;> decide⟩

@[simp] theorem SymbolTypeKind.ofDraft_name (kind : SymbolTypeKind) :
    ofDraft (ofJson (.str (Family.name kind))) = .ok kind := by
  simp [ofJson, ofDraft, ofName]

theorem SymbolType.ofDraft_toJson (type : SymbolType) :
    ofDraft (ofJson type.toJson) = .ok type :=
  record_ofJson (by simp) (by simp) fun look hlook => by simp [hlook]

theorem Symbol.ofDraft_toJson (symbol : Symbol) : ofDraft (ofJson symbol.toJson) = .ok symbol := by
  have htype : nullable SymbolType.ofDraft
      (ofJson ((symbol.type.map SymbolType.toJson).getD .null)) = .ok symbol.type := by
    cases symbol.type with
    | none => exact nullable_ofJson_null _
    | some type => exact nullable_ofJson (by simp [SymbolType.toJson]) type.ofDraft_toJson
  have hdefinition : nullable text (ofJson ((symbol.definition.map Json.str).getD .null)) =
      .ok symbol.definition := by
    cases symbol.definition with
    | none => exact nullable_ofJson_null _
    | some definition => exact nullable_ofJson (by simp) (text_ofJson definition)
  exact record_ofJson (by simp) (by simp) fun look hlook => by simp [hlook, htype, hdefinition]

/-- The keys of all dictionaries of a table ascend. -/
structure SymbolTable.Ascending (table : SymbolTable) : Prop where
  ofNode : table.ofNode.Ascending
  symbols : table.symbols.Ascending
  ofName : table.ofName.Ascending
  nodes : table.nodes.Ascending

theorem SymbolTable.ascending_of_ofDraft {draft : Json.Draft} {table : SymbolTable}
    (h : ofDraft draft = .ok table) : table.Ascending := by
  obtain ⟨look, hgives⟩ := exists_gives_of_record h
  simp only [Json.FieldReader.gives_seq, Json.FieldReader.gives_map] at hgives
  obtain ⟨ofNode, hofNode, hgives⟩ := exists_ascending_of_gives hgives
  obtain ⟨symbols, hsymbols, hgives⟩ := exists_ascending_of_gives hgives
  obtain ⟨ofName, hofName, hgives⟩ := exists_ascending_of_gives hgives
  obtain ⟨nodes, hnodes, rfl⟩ := exists_ascending_of_gives hgives
  exact ⟨hofNode, hsymbols, hofName, hnodes⟩

theorem map_text_ofJson {dict : Dict String} (h : dict.Ascending) :
    map text (ofJson (.obj (dict.map fun entry => (entry.1, .str entry.2)))) = .ok dict :=
  map_ofJson h fun entry _ => text_ofJson entry.2

theorem SymbolTable.ofJson_toJson {table : SymbolTable} (h : table.Ascending) :
    SymbolTable.ofJson table.toJson = .ok table := by
  have hsymbols := map_ofJson h.symbols fun entry _ => entry.2.ofDraft_toJson
  exact record_ofJson (by simp) (by simp) fun look hlook => by
    simp [hlook, hsymbols, map_text_ofJson h.ofNode, map_text_ofJson h.ofName,
      map_text_ofJson h.nodes]

/-- Modules and symbol tables are read back from the values that they are written as. Every
module is; a table is if and only if the keys of its dictionaries ascend, and so is every table
that was read, in whatever form it was given. -/
theorem read_back :
    (∀ m : Module, Module.ofJson m.toJson = .ok m) ∧
      (∀ table : SymbolTable,
        SymbolTable.ofJson table.toJson = .ok table ↔ table.Ascending) ∧
      ∀ (draft : Json.Draft) (table : SymbolTable),
        SymbolTable.ofDraft draft = .ok table → SymbolTable.ofJson table.toJson = .ok table :=
  ⟨Module.ofJson_toJson,
    fun _ => ⟨SymbolTable.ascending_of_ofDraft, SymbolTable.ofJson_toJson⟩,
    fun _ _ h => SymbolTable.ofJson_toJson (SymbolTable.ascending_of_ofDraft h)⟩

/-! ## Other forms -/

/-- A module in an array: the last field is absent, the statement has an unknown field, the
expression is given by its position and its operator by an object. -/
def looseModule : Json :=
  .arr
    [.str "main.k", .str "p", .str "", .null,
      .arr [.arr (site ++ [.obj
        [("exprs", .arr [.arr (site ++ [.arr
            [Json.nat 1, .obj [("Not", .obj [])],
              .arr (site ++ [.obj [("type", .str "Missing")]])]])]),
          ("extra", .bool true), ("type", .str "Expr")]])]]
where
  /-- The fields of a site. -/
  site : List Json :=
    [.str "i", .str "main.k", Json.nat 1, Json.nat 0, Json.nat 1, Json.nat 9]

/-- The module that is meant by `looseModule`. -/
def strictModule : Module :=
  ⟨"main.k", "p", "", none, [⟨site, .expr [⟨site, .unary .not ⟨site, .missing⟩⟩]⟩], []⟩
where
  /-- The one site. -/
  site : Site := ⟨"i", "main.k", ⟨1, 0, 1, 9⟩⟩

/-- A table in an array: keys descend and repeat, fields are absent or unknown, and the type is
of an unknown kind. -/
def looseTable : Json.Draft :=
  .array
    [.object
        [(some "n2", .string (some "s2")), (some "n1", .string (some "s1")),
          (some "n1", .string (some "s3"))],
      .object
        [(some "s2", .object
          [(some "extra", .null), (some "ty", .array [.object [(some "Function", .null)]])])]]

/-- The table that is meant by `looseTable`. -/
def strictTable : SymbolTable :=
  ⟨[("n1", "s3"), ("n2", "s2")], [("s2", ⟨"", some ⟨.other, "", ""⟩, none⟩)], [], []⟩

theorem read_back_sample :
    Module.ofJson looseModule = .ok strictModule ∧
      Module.ofJson strictModule.toJson = .ok strictModule ∧
      SymbolTable.ofDraft looseTable = .ok strictTable ∧
      SymbolTable.ofJson strictTable.toJson = .ok strictTable := by
  have htable : SymbolTable.ofDraft looseTable = .ok strictTable := by decide +kernel
  have hmodule : Module.ofJson looseModule = .ok strictModule := by cbv
  exact ⟨hmodule, read_back.1 strictModule, htable, read_back.2.2 looseTable strictTable htable⟩

end ProgramFacts
