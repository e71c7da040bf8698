import WarehouseImport.Command.File
import WarehouseImport.Proofs.Payload.Aliases

/-!
# Commands read back from their payloads

The payload of a command is a document that can be written, and every field of the command is read
back from it as it was. A command whose whole numbers fit signed 64 bits so survives being written
and read, whatever texts it holds and however many mappings, filters and values.
-/

namespace WarehouseImport

open WarehouseImport.Json

namespace Checked

variable {α β : Type}

/-- A valid value under any place is the value. -/
@[simp]
theorem under_valid (place : String) (value : α) : (valid value).under place = valid value := rfl

/-- A function of a valid value gives a valid one. -/
@[simp]
theorem map_valid (f : α → β) (value : α) : f <$> valid value = valid (f value) := rfl

/-- So does a valid function. -/
@[simp]
theorem seq_valid (f : α → β) (value : α) : valid f <*> valid value = valid (f value) := rfl

/-- A joined outcome is valid only if both parts are. -/
theorem seq_eq_valid {f : Checked (α → β)} {x : Checked α} {result : β}
    (h : f <*> x = valid result) :
    ∃ g value, f = valid g ∧ x = valid value ∧ result = g value := by
  change f.seq (fun _ => x) = valid result at h
  cases f <;> cases x <;> cases h
  exact ⟨_, _, rfl, rfl, rfl⟩

/-- A function of an outcome is valid only if the outcome is. -/
theorem map_eq_valid {f : α → β} {x : Checked α} {result : β} (h : f <$> x = valid result) :
    ∃ value, x = valid value ∧ result = f value := by
  change x.map f = valid result at h
  cases x <;> cases h
  exact ⟨_, rfl, rfl⟩

/-- An outcome under a place is valid only if the outcome is. -/
theorem eq_valid_of_under {place : String} {x : Checked α} {value : α}
    (h : x.under place = valid value) : x = valid value := by
  cases x <;> cases h
  rfl

end Checked

namespace Payload

variable {α : Type}

/-- A text is read back. -/
@[simp]
theorem text_str (content : String) : text (.str content) = .valid content := rfl

/-- The name of a value is read as the value. -/
@[simp]
theorem named_name [Named α] (value : α) : named (.str (Named.name value)) = .valid value := by
  simp only [named, Named.ofName?_name]

/-- A text that may be absent is read back. -/
@[simp]
theorem nullable_ofText? (content : Option String) :
    nullable text (Json.ofText? content) = .valid content := by
  cases content <;> rfl

/-- A value of a set of names that may be absent is read back. -/
@[simp]
theorem nullable_named [Named α] (value : Option α) :
    nullable named (Json.ofText? (value.map Named.name)) = .valid value := by
  cases value with
  | none => rfl
  | some value =>
    show (named (.str (Named.name value))).map some = .valid (some value)
    rw [named_name]
    rfl

/-- A whole number is read back. -/
@[simp]
theorem whole_int (number : Int) : whole (.int number) = .valid number := rfl

/-- A whole number that is not negative is read back as a count. -/
theorem count_int {number : Int} (h : 0 ≤ number) : count (.int number) = .valid number :=
  if_neg (Int.not_lt.mpr h)

/-- A field that had to be there was read from some value. -/
theorem exists_of_required {document : Json} {name : String} {read : Json → Checked α} {value : α}
    (h : required document name read = .valid value) :
    ∃ found, read found = .valid value := by
  unfold required at h
  split at h
  · exact ⟨_, Checked.eq_valid_of_under h⟩
  · cases h

/-- A field that may be left out has its fallback or was read from some value. -/
theorem exists_of_optional {document : Json} {name : String} {fallback : α}
    {read : Json → Checked α} {value : α}
    (h : Payload.optional document name fallback read = .valid value) :
    value = fallback ∨ ∃ found, read found = .valid value := by
  unfold Payload.optional at h
  split at h
  · exact .inr ⟨_, Checked.eq_valid_of_under h⟩
  · cases h
    exact .inl rfl

/-- A value was read from an object. -/
theorem exists_of_model {read : Json → Checked α} {document : Json} {value : α}
    (h : model read document = .valid value) : read document = .valid value := by
  unfold model at h
  split at h
  · exact h
  · cases h

/-- A count is not negative. -/
theorem nonneg_of_count {document : Json} {value : Int} (h : count document = .valid value) :
    0 ≤ value := by
  unfold count at h
  cases hwhole : whole document with
  | valid number =>
    rw [hwhole] at h
    change (if number < 0 then Checked.issue .refused else Checked.valid number) = _ at h
    split at h
    · cases h
    · next hnumber =>
      cases h
      exact Int.not_lt.mp hnumber
  | invalid issues =>
    rw [hwhole] at h
    cases h

/-- Nor is one that is zero where it is left out. -/
theorem nonneg_of_optional_count {document : Json} {name : String} {value : Int}
    (h : Payload.optional document name 0 count = .valid value) : 0 ≤ value := by
  rcases exists_of_optional h with rfl | ⟨found, hfound⟩
  · exact Int.le_refl 0
  · exact nonneg_of_count hfound

/-- An object of fields is read as one. -/
@[simp]
theorem model_object (read : Json → Checked α) (fields : Fields) :
    model read (object fields) = read (object fields) := rfl

/-- A list of items that are each read back is read back. -/
theorem list_map {read : Json → Checked α} {write : α → Json}
    (h : ∀ value, read (write value) = .valid value) (values : List α) :
    list read (.arr (values.map write)) = .valid values := by
  have hitems : ∀ place, items read place (values.map write) = .valid values := by
    induction values with
    | nil => exact fun _ => rfl
    | cons value values ih => simp [items, h, ih]
  exact hitems 0

/-- A list of texts is read back. -/
@[simp]
theorem list_ofTexts (texts : List String) : list text (Json.ofTexts texts) = .valid texts :=
  list_map text_str texts

end Payload

open Payload

/-- A mapping is read back from its payload. -/
theorem ColumnMapping.ofDocument_document (mapping : ColumnMapping) :
    ofDocument mapping.document = .valid mapping := by
  simp [ofDocument, document, required, List.lookup_cons]

/-- A path is read back from its payload. -/
theorem FilePath.ofDocument_document (path : FilePath) :
    ofDocument path.document = .valid path := by
  simp [ofDocument, document, required, Payload.optional, List.lookup_cons]

/-- A destination is read back from its payload. -/
theorem DestinationTable.ofDocument_document (destination : DestinationTable) :
    ofDocument destination.document = .valid destination := by
  simp [ofDocument, document, required, List.lookup_cons]

/-- A filter is read back from its payload. -/
theorem CommandFilter.ofDocument_document (filter : CommandFilter) :
    ofDocument filter.document = .valid filter := by
  simp [ofDocument, document, required, Payload.optional, List.lookup_cons]

/-- The options of files are read back from their payload. -/
theorem CsvOptions.ofDocument_document (options : CsvOptions) :
    ofDocument options.document = .valid options := by
  simp [ofDocument, document, required, Payload.optional, List.lookup_cons]

/-- The options of an import are read back from their payload. -/
theorem ImportOptions.ofDocument_document (options : ImportOptions) :
    ofDocument options.document = .valid options := by
  simp [ofDocument, document, Payload.optional, List.lookup_cons]

/-- A source that payloads may describe: its limit and its seconds are not negative. -/
structure SourceTable.Admitted (source : SourceTable) : Prop where
  limit : 0 ≤ source.limit
  seconds : 0 ≤ source.seconds

/-- No payload describes any other source. -/
theorem SourceTable.admitted_of_ofDocument {document : Json} {source : SourceTable}
    (h : ofDocument document = .valid source) : source.Admitted := by
  obtain ⟨limited, seconds, hlimited, hseconds, rfl⟩ := Checked.seq_eq_valid (exists_of_model h)
  obtain ⟨filtered, limit, hfiltered, hlimit, rfl⟩ := Checked.seq_eq_valid hlimited
  obtain ⟨mapped, filters, hmapped, -, rfl⟩ := Checked.seq_eq_valid hfiltered
  obtain ⟨named, mappings, hnamed, -, rfl⟩ := Checked.seq_eq_valid hmapped
  obtain ⟨placed, table, hplaced, -, rfl⟩ := Checked.seq_eq_valid hnamed
  obtain ⟨dataset, -, rfl⟩ := Checked.map_eq_valid hplaced
  exact ⟨nonneg_of_optional_count hlimit, nonneg_of_optional_count hseconds⟩

/-- A source that payloads may describe is read back from its own. -/
theorem SourceTable.ofDocument_document {source : SourceTable} (h : source.Admitted) :
    ofDocument source.document = .valid source := by
  simp [ofDocument, document, required, Payload.optional, List.lookup_cons,
    list_map ColumnMapping.ofDocument_document, list_map CommandFilter.ofDocument_document,
    count_int h.limit, count_int h.seconds]

/-- No payload describes a command with any other source. -/
theorem TableCommand.admitted_of_ofDocument {document : Json} {command : TableCommand}
    (h : ofDocument document = .valid command) : command.source.Admitted := by
  obtain ⟨destined, options, hdestined, -, rfl⟩ := Checked.seq_eq_valid (exists_of_model h)
  obtain ⟨sourced, destination, hsourced, -, rfl⟩ := Checked.seq_eq_valid hdestined
  obtain ⟨source, hsource, rfl⟩ := Checked.map_eq_valid hsourced
  obtain ⟨found, hfound⟩ := exists_of_required hsource
  exact SourceTable.admitted_of_ofDocument hfound

/-- A command that imports a table is read back from its payload. -/
theorem TableCommand.ofDocument_document {command : TableCommand} (h : command.source.Admitted) :
    ofDocument command.document = .valid command := by
  simp [ofDocument, document, required, Payload.optional, List.lookup_cons,
    SourceTable.ofDocument_document h, DestinationTable.ofDocument_document,
    ImportOptions.ofDocument_document]

/-- A command that imports files is read back from its payload. -/
theorem FileCommand.ofDocument_document (command : FileCommand) :
    ofDocument command.document = .valid command := by
  simp [ofDocument, document, required, Payload.optional, List.lookup_cons,
    CsvOptions.ofDocument_document, FilePath.ofDocument_document,
    DestinationTable.ofDocument_document, ImportOptions.ofDocument_document]

/-- Whether a whole number fits signed 64 bits. -/
def Json.FitsSigned (number : Int) : Prop :=
  -9223372036854775808 ≤ number ∧ number ≤ 9223372036854775807
deriving Decidable

namespace Json.Writable

variable {depth : Nat}

/-- A text that may be absent can be written. -/
theorem ofText? (content : Option String) : Writable depth (Json.ofText? content) := by
  cases content with
  | none => exact .null
  | some content => exact .str content

/-- A list of items that can be written can be. -/
theorem map {α : Type} {write : α → Json} (h : ∀ value, Writable depth (write value))
    (values : List α) : Writable (depth + 1) (.arr (values.map write)) :=
  .arr fun item hmem => by
    obtain ⟨value, -, rfl⟩ := List.mem_map.mp hmem
    exact h value

/-- A list of texts can be written. -/
theorem ofTexts (texts : List String) : Writable (depth + 1) (Json.ofTexts texts) :=
  .map .str texts

/-- A whole number that fits signed 64 bits can be written. -/
theorem int_of_fitsSigned {number : Int} (h : FitsSigned number) : Writable depth (.int number) := by
  obtain ⟨hlow, hhigh⟩ := h
  refine .int ?_
  simp only [fitsWord, Bool.and_eq_true, decide_eq_true_eq]
  omega

end Json.Writable

/-- The payload of a mapping can be written. -/
theorem ColumnMapping.writable_document {depth : Nat} (mapping : ColumnMapping) :
    Writable (depth + 1) mapping.document :=
  writable_object (by simp [Writable.str])

/-- The payload of a filter can be written. -/
theorem CommandFilter.writable_document {depth : Nat} (filter : CommandFilter) :
    Writable (depth + 2) filter.document :=
  writable_object (by simp [Writable.str, Writable.ofTexts])

/-- The payload of a path can be written. -/
theorem FilePath.writable_document {depth : Nat} (path : FilePath) :
    Writable (depth + 1) path.document :=
  writable_object (by simp [Writable.str])

/-- The payload of a destination can be written. -/
theorem DestinationTable.writable_document {depth : Nat} (destination : DestinationTable) :
    Writable (depth + 1) destination.document :=
  writable_object (by simp [Writable.str])

/-- The payload of the options of files can be written. -/
theorem CsvOptions.writable_document {depth : Nat} (options : CsvOptions) :
    Writable (depth + 2) options.document :=
  writable_object (by simp [Writable.str, Writable.ofTexts])

/-- The payload of options whose whole number fits signed 64 bits can be written. -/
theorem ImportOptions.writable_document {depth : Nat} {options : ImportOptions}
    (h : FitsSigned options.ignoredLines) :
    Writable (depth + 2) options.document :=
  writable_object
    (by simp [Writable.str, Writable.ofTexts, Writable.ofText?, Writable.int_of_fitsSigned h])

/-- The payload of a source whose whole numbers fit signed 64 bits can be written. -/
theorem SourceTable.writable_document {depth : Nat} {source : SourceTable}
    (hlimit : FitsSigned source.limit) (hseconds : FitsSigned source.seconds) :
    Writable (depth + 4) source.document :=
  writable_object
    (by simp [Writable.str, Writable.map ColumnMapping.writable_document,
      Writable.map CommandFilter.writable_document, Writable.int_of_fitsSigned hlimit,
      Writable.int_of_fitsSigned hseconds])

/-- The whole numbers of a command that imports a table. -/
def TableCommand.numbers (command : TableCommand) : List Int :=
  [command.source.limit, command.source.seconds, command.options.ignoredLines]

/-- The whole numbers of a command that imports files. -/
def FileCommand.numbers (command : FileCommand) : List Int := [command.options.ignoredLines]

/-- The payload of a command that imports a table can be written if its whole numbers fit. -/
theorem TableCommand.writable_document {command : TableCommand}
    (h : ∀ number ∈ command.numbers, FitsSigned number) :
    Writable depthLimit command.document := by
  simp only [numbers, List.forall_mem_cons, List.not_mem_nil] at h
  obtain ⟨hlimit, hseconds, hignored, -⟩ := h
  show Writable (253 + 1) command.document
  apply writable_object
  simp [SourceTable.writable_document hlimit hseconds, DestinationTable.writable_document,
    ImportOptions.writable_document hignored]

/-- The payload of a command that imports files can be written if its whole number fits. -/
theorem FileCommand.writable_document {command : FileCommand}
    (h : ∀ number ∈ command.numbers, FitsSigned number) :
    Writable depthLimit command.document := by
  have hignored := h command.options.ignoredLines List.mem_cons_self
  show Writable (253 + 1) command.document
  apply writable_object
  simp [Writable.str, CsvOptions.writable_document, FilePath.writable_document,
    DestinationTable.writable_document, ImportOptions.writable_document hignored]

/-- Commands survive their payloads. Every command whose whole numbers fit signed 64 bits has a
payload text, and from that text the same command is read. The limit and the seconds of a table
command are not negative in any command that there is. -/
theorem Payload.commands_survive :
    (∀ command : TableCommand,
      (∀ number ∈ command.numbers, FitsSigned number) →
      command.source.Admitted →
      ∃ text, command.document.print? = some text ∧
        (Json.read? text).map TableCommand.ofDocument = some (.valid command)) ∧
    (∀ command : FileCommand,
      (∀ number ∈ command.numbers, FitsSigned number) →
      ∃ text, command.document.print? = some text ∧
        (Json.read? text).map FileCommand.ofDocument = some (.valid command)) := by
  constructor
  · intro command hnumbers hadmitted
    obtain ⟨text, hprint, hread⟩ := (TableCommand.writable_document hnumbers).read?_print?
    refine ⟨text, hprint, ?_⟩
    rw [hread, Option.map_some, TableCommand.ofDocument_document hadmitted]
  · intro command hnumbers
    obtain ⟨text, hprint, hread⟩ := (FileCommand.writable_document hnumbers).read?_print?
    refine ⟨text, hprint, ?_⟩
    rw [hread, Option.map_some, FileCommand.ofDocument_document]

/-- A command with a quote, a control, a limit and characters of every length. -/
def quotedCommand : TableCommand where
  source := {
    dataset := "data"
    table := "sa\"les\u0001"
    mappings := [⟨"größe", "日本"⟩]
    filters := [⟨"a\\b", .eq, ["\n", "😀", ""], .string⟩]
    limit := 10 }
  destination := ⟨"data", "report"⟩
  options := { timestampColumn := some "_timestamp", createMode := some .replace }

/-- It survives, and so does a command that imports a file. -/
theorem Payload.commands_survive_quoted :
    (∃ text, quotedCommand.document.print? = some text ∧
      (Json.read? text).map TableCommand.ofDocument = some (.valid quotedCommand)) ∧
    ∃ text, (FileCommand.document
        { csv := { columns := ["a"] }, path := ⟨"bucket", "", "a.csv"⟩,
          destination := ⟨"data", "report"⟩ }).print? = some text ∧
      (Json.read? text).map FileCommand.ofDocument = some (.valid
        { csv := { columns := ["a"] }, path := ⟨"bucket", "", "a.csv"⟩,
          destination := ⟨"data", "report"⟩ }) :=
  ⟨Payload.commands_survive.1 quotedCommand (by decide) ⟨by decide, by decide⟩,
    Payload.commands_survive.2 _ (by decide)⟩

end WarehouseImport
