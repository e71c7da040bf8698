import WarehouseImport.Import.FromFile
import WarehouseImport.Import.FromTable
import WarehouseImport.Proofs.Run.Warehouse

/-!
# Failures about the command

Some failures say that a command does not fit what it is about: a table or a column is missing, a
destination exists or does not fit, a filter cannot be asked for, an import is not supported. The
others come from the service, from its answers, from the files and the log, and from arguments that
are not given.

One failure more says something about the command: a value that it binds has no text. All others are
foreign to it.

A result passes for a kind of failures that are not foreign if it is none of them. Here are the
results that pass for every such kind, whatever the service has answered: those of the session, of
messages of the service and of statements. The decoding of a message may end with a failure of its
own, so it has to pass as well.
-/

namespace WarehouseImport

open WarehouseImport.Text

/-- The families of failures of validation. -/
def Family.isValidation : Family → Bool
  | .columnsMismatch | .alreadyExists | .notFound | .notImplemented | .queryBuilder => true
  | _ => false

/-- Whether a failure is one of validation. That the service found a conflict is none. -/
def Failure.isValidation : Failure → Bool
  | .invalidFlag _ | .duplicateColumns _ | .unknownKeys .. => true
  | .objectExists => false
  | failure => (failure.family?.map Family.isValidation).getD false

/-- Whether a failure says nothing about the command: it is none of validation, and not that a value
has no text. -/
def Failure.isForeign : Failure → Bool
  | .unprintableDocument => false
  | failure => !failure.isValidation

/-- A kind of failures, none of which is foreign to the command. -/
structure FailureKind where
  among : Failure → Bool
  foreign : ∀ failure, failure.isForeign = true → among failure = false

namespace FailureKind

/-- The failures of validation. -/
def validation : FailureKind where
  among := Failure.isValidation
  foreign failure h := by
    unfold Failure.isForeign at h
    split at h
    · cases h
    · simpa using h

/-- The failure of a value without text. -/
def unprintable : FailureKind where
  among
    | .unprintableDocument => true
    | _ => false
  foreign failure h := by
    split
    · cases h
    · rfl

end FailureKind

variable {kind : FailureKind} {α β : Type}

/-- The result is no failure of the kind. -/
def Passes (kind : FailureKind) {α : Type} (result : Except Failure α) : Prop :=
  ∀ failure, result = .error failure → kind.among failure = false

/-- A good result passes. -/
theorem passes_ok (value : α) : Passes kind (.ok value) := by
  intro failure h
  cases h

/-- A failure that is none of the kind passes. -/
theorem passes_of_among {failure : Failure} (h : kind.among failure = false) :
    Passes kind (.error failure : Except Failure α) := by
  intro other hother
  cases hother
  exact h

/-- A foreign failure passes. -/
theorem passes_error {failure : Failure} (h : failure.isForeign = true) :
    Passes kind (.error failure : Except Failure α) :=
  passes_of_among (kind.foreign failure h)

/-- A sequence passes if its parts do. -/
theorem Passes.bind {result : Except Failure α} {next : α → Except Failure β}
    (hfirst : Passes kind result) (hlast : ∀ value, result = .ok value → Passes kind (next value)) :
    Passes kind (result >>= next) := by
  cases result with
  | ok value => exact hlast value rfl
  | error failure => exact passes_of_among (hfirst failure rfl)

/-- A changed result passes as the result does. -/
theorem Passes.map {result : Except Failure α} (h : Passes kind result) (change : α → β) :
    Passes kind (result.map change) := by
  cases result with
  | ok value => exact passes_ok _
  | error failure => exact passes_of_among (h failure rfl)

/-- What is made of a list item by item passes if each part does. -/
theorem passes_mapM {make : α → Except Failure β} (hmake : ∀ item, Passes kind (make item))
    (items : List α) : Passes kind (items.mapM make) := by
  induction items with
  | nil => exact passes_ok _
  | cons item rest ih =>
    rw [List.mapM_cons]
    exact (hmake item).bind fun _ _ => ih.bind fun _ _ => passes_ok _

/-! ## Names and columns -/

/-- Names of tables pass. -/
theorem TableName.passes_make (dataset table : String) : Passes kind (make dataset table) := by
  unfold make
  split
  · exact passes_error rfl
  · exact passes_ok _

/-- A name of a table passes its check. -/
theorem TableLabel.passes_check (label : TableLabel) : Passes kind label.check :=
  TableName.passes_make _ _

namespace ColumnSpec

/-- A text that must be given passes. -/
theorem passes_requiredText (value : Json) : Passes kind (requiredText value) := by
  unfold requiredText
  split
  · split
    · exact passes_error rfl
    · exact passes_ok _
  · split
    · exact passes_error rfl
    · exact passes_error rfl

/-- A column whose flag is a flag passes. -/
theorem passes_check {spec : ColumnSpec} {flag : Bool} (hflag : spec.nullable = .bool flag) :
    Passes kind spec.check := by
  refine (passes_requiredText _).bind fun _ _ => (passes_requiredText _).bind fun _ _ => ?_
  refine Passes.bind ?_ fun _ _ => ?_
  · unfold optionalLength
    split
    · exact passes_ok _
    · exact passes_ok _
    · exact passes_ok _
    · exact passes_error rfl
  · rw [hflag]
    exact (passes_ok flag).bind fun _ _ => passes_ok _

end ColumnSpec

/-- A text column passes. -/
theorem Column.passes_generic (name : String) : Passes kind (Column.generic name) :=
  ColumnSpec.passes_check rfl

mutual

/-- The column of a field passes, however deep its fields are nested. -/
theorem SchemaField.passes_column : (field : SchemaField) → Passes kind field.column
  | ⟨name, type, mode, maxLength, precision, scale, default, fields, document⟩ => by
    unfold SchemaField.column
    cases type with
    | none => exact passes_error rfl
    | some type =>
      have hrest {element : ColumnSpec} {change : Column → ColumnSpec}
          (hflag : element.nullable = .bool true) :
          Passes kind (if mode = "REPEATED" then
            element.check.map change >>= fun whole =>
              ColumnSpec.check { whole with
                nullable := .bool (mode != "REQUIRED"), default := default }
          else pure element >>= fun whole =>
            ColumnSpec.check { whole with
              nullable := .bool (mode != "REQUIRED"), default := default }) := by
        split
        · exact ((ColumnSpec.passes_check hflag).map _).bind fun _ _ => ColumnSpec.passes_check rfl
        · exact (passes_ok _).bind fun _ _ => ColumnSpec.passes_check rfl
      dsimp only
      split
      · exact ((SchemaField.passes_nestedDefinitions fields).map some).bind fun _ _ => hrest rfl
      · exact (passes_ok _).bind fun _ _ => hrest rfl

/-- So do the definitions of nested fields. -/
theorem SchemaField.passes_nestedDefinitions :
    (fields : List SchemaField) → Passes kind (SchemaField.nestedDefinitions fields)
  | [] => passes_ok _
  | field :: rest => by
    unfold SchemaField.nestedDefinitions
    exact (SchemaField.passes_column field).bind fun _ _ =>
      (SchemaField.passes_nestedDefinitions rest).bind fun _ _ => passes_ok _

end

/-! ## The session -/

namespace Session

/-- A line in the log file passes. -/
theorem passes_record (session : Session) (line : String) : Passes kind (session.record line) := by
  unfold record
  split
  · exact passes_ok _
  · refine Passes.bind ?_ fun _ _ => passes_ok _
    unfold LogFile.write
    split
    · exact passes_error rfl
    · exact passes_ok _

/-- A log file that is opened passes. -/
theorem passes_openLog (session : Session) (directory beginning : String) :
    Passes kind (session.openLog directory beginning) := by
  unfold openLog
  split
  · exact passes_error rfl
  · refine Passes.bind ?_ fun _ _ => passes_ok _
    unfold LogFile.standardName
    split
    · exact passes_error rfl
    · exact passes_ok _

/-- A line on the terminal passes. -/
theorem passes_display (session : Session) (line : String) :
    Passes kind (session.display line) := by
  unfold display
  split
  · exact passes_ok _
  · split
    · exact passes_ok _
    · exact (passes_record _ _).bind fun _ _ => passes_ok _

/-- A line of a level of detail passes. -/
theorem passes_log (session : Session) (line : Option String) (detail : Option Detail)
    (colours : List String) : Passes kind (session.log line detail colours) := by
  refine (passes_record _ _).bind fun _ _ => ?_
  split
  · exact passes_display _ _
  · split
    · exact passes_display _ _
    · exact passes_ok _

end Session

namespace Progress

/-- The start of a timer passes. -/
theorem passes_start (progress : Progress) (name : String) (now : Float) :
    Passes kind (progress.start name now) := by
  unfold start
  split
  · exact passes_error rfl
  · exact passes_ok _

/-- The end of a timer passes. -/
theorem passes_stop (progress : Progress) (name : String) (now : Float) :
    Passes kind (progress.stop name now) := by
  unfold stop
  split
  · exact passes_error rfl
  · exact passes_ok _

/-- Counted rows pass. -/
theorem passes_addRows (progress : Progress) (count : Json) :
    Passes kind (progress.addRows count) := by
  refine Passes.map ?_ _
  unfold addCounts
  split
  · exact passes_ok _
  · split
    all_goals first
      | exact passes_ok _
      | exact passes_error rfl

end Progress

/-- The response of an import passes. -/
theorem ImportResult.passes_response (result : ImportResult) (rows bytes : Int) :
    Passes kind (result.response rows bytes) := by
  refine Passes.map ?_ _
  unfold responseRows Checked.result
  split
  · exact passes_ok _
  · exact passes_error rfl

/-! ## Messages of the service -/

/-- A fault is foreign to the command. -/
theorem Fault.isForeign_failure (fault : Fault) : fault.failure.isForeign = true := by
  cases fault <;> rfl

namespace Failure

/-- The message member of a document passes. -/
theorem passes_messageMember (fallback document : Json) :
    Passes kind (messageMember fallback document) := by
  unfold messageMember
  split
  · exact passes_ok _
  · exact passes_error rfl

/-- The texts of messages pass. -/
theorem passes_allTexts (messages : List Json) : Passes kind (allTexts messages) := by
  refine passes_mapM (fun message => ?_) messages
  split
  · exact passes_ok _
  · exact passes_error rfl

/-- The message of details passes. -/
theorem passes_detailsMessage (fallback : Json) (details : List Json) :
    Passes kind (detailsMessage fallback details) := by
  unfold detailsMessage
  split
  · exact passes_messageMember _ _
  · exact (passes_mapM (fun _ => passes_messageMember _ _) _).bind fun _ _ =>
      (passes_allTexts _).bind fun _ _ => passes_ok _

/-- The message of a document passes. -/
theorem passes_objectMessage (document : Json) (fallback : String) :
    Passes kind (objectMessage document fallback) := by
  unfold objectMessage
  split
  · exact passes_ok _
  · split
    · exact passes_ok _
    · exact passes_ok _
    · split
      · exact passes_detailsMessage _ _
      · exact passes_ok _
    · exact passes_ok _

/-- The message in a text passes. -/
theorem passes_textMessage (text : String) : Passes kind (textMessage text) := by
  unfold textMessage
  split
  · exact passes_ok _
  · split
    · exact passes_objectMessage _ _
    · exact passes_ok _

/-- The message of a failure passes. -/
theorem passes_decodedMessage (failure : Failure) : Passes kind failure.decodedMessage := by
  unfold decodedMessage
  split
  · split
    · exact passes_textMessage _
    · exact passes_detailsMessage _ _
  · exact passes_textMessage _

/-- So does its message without a preamble. -/
theorem passes_directMessage (failure : Failure) : Passes kind failure.directMessage := by
  refine (passes_decodedMessage failure).bind fun message _ => ?_
  unfold direct
  split
  · exact passes_ok _
  · exact passes_error rfl

/-- What a conflict stands for is not of the kind, unless the failure was. -/
theorem among_asConflict {failure : Failure} (h : kind.among failure = false) :
    kind.among failure.asConflict = false := by
  unfold asConflict
  split
  · split
    · exact kind.foreign _ rfl
    · exact kind.foreign _ rfl
  · exact h

/-- An error about filters becomes one of bad filters or of decoding. -/
theorem among_of_asBadFilter? {failure bad : Failure}
    (h : failure.asBadFilter? = some bad) : kind.among bad = false := by
  unfold asBadFilter? at h
  dsimp only at h
  split at h
  · rw [← Option.some.inj h]
    unfold ofTypes
    split
    · exact kind.foreign _ rfl
    · split <;> exact kind.foreign _ rfl
  · split at h
    · split at h
      · rw [← Option.some.inj h]
        exact kind.foreign _ rfl
      · next other hdecoded =>
        rw [← Option.some.inj h]
        exact passes_decodedMessage failure other hdecoded
    · cases h

/-- What a message about a long value is taken for passes. -/
theorem passes_asOverflow (failure : Failure) : Passes kind failure.asOverflow := by
  refine (passes_decodedMessage failure).bind fun message _ => ?_
  refine Passes.bind ?_ fun marked _ => ?_
  · unfold marksLength
    split
    · exact passes_ok _
    · exact passes_ok _
    · exact passes_ok _
    · exact passes_error rfl
  · split
    · split
      · unfold ofOverflow
        split
        · exact passes_ok _
        · exact passes_error rfl
      · exact passes_error rfl
    · exact passes_ok _

/-- A failure that is taken for one about a long value is not of the kind, unless it was. -/
theorem among_of_asOverflow {failure other : Failure} (h : failure.asOverflow = .ok other)
    (hfailure : kind.among failure = false) : kind.among other = false := by
  obtain ⟨message, -, h⟩ := bind_eq_ok.mp h
  obtain ⟨marked, -, h⟩ := bind_eq_ok.mp h
  split at h
  · split at h
    · unfold ofOverflow at h
      split at h
      · rw [← Except.ok.inj h]
        exact kind.foreign _ rfl
      · cases h
    · cases h
  · rw [← Except.ok.inj h]
    exact hfailure

end Failure

/-- The failure of a load is not of the kind, unless it was. -/
theorem Warehouse.among_loadFailure {failure : Failure} (h : kind.among failure = false) :
    kind.among (loadFailure failure) = false := by
  unfold loadFailure
  split
  · split
    · split
      · exact kind.foreign _ rfl
      · next other hdirect => exact Failure.passes_directMessage _ other hdirect
    · exact h
  · exact h

/-- What the failure of moving rows is reported as is not of the kind, unless the failure was. -/
theorem FromTable.among_reportedAs {failure : Failure} (h : kind.among failure = false) :
    kind.among (reportedAs failure) = false := by
  unfold reportedAs
  split
  · split
    · next bad hbad => exact Failure.among_of_asBadFilter? hbad
    · split
      · next other hother => exact Failure.among_of_asOverflow hother h
      · next other hother => exact Failure.passes_asOverflow _ other hother
  · exact kind.foreign _ rfl
  · exact h

/-- What the failure of loading files is reported as likewise. -/
theorem FromFile.among_reportedAs {failure : Failure} (h : kind.among failure = false) :
    kind.among (reportedAs failure) = false := by
  unfold reportedAs
  split
  · exact kind.foreign _ rfl
  · exact h

/-! ## Files, statements and answers -/

/-- The addresses in a manifest pass. -/
theorem Manifest.passes_read (uri text : String) : Passes kind (read uri text) := by
  have haddress (entry : Json) : Passes kind (address entry) := by
    unfold address
    split
    · split
      · exact passes_ok _
      · exact passes_error rfl
    · exact passes_error rfl
  unfold read
  split
  · unfold addresses
    dsimp only
    split
    · split
      · exact passes_mapM haddress _
      · exact passes_error rfl
    · exact passes_error rfl
  · exact passes_error rfl

/-- The selection that a source is mapped by passes. -/
theorem Source.passes_mappedTo (source : Source) (destinations : List String) :
    Passes kind (source.mappedTo destinations) := by
  refine Passes.bind ?_ fun _ _ => ?_
  · unfold ColumnMapping.positional
    split
    · exact passes_ok _
    · exact passes_error rfl
  · split
    · exact passes_ok _
    · exact passes_ok _
    · exact passes_error rfl

/-- A mapped selection has the bindings of its source. -/
theorem Source.bindings_of_mappedTo {source : Source} {destinations : List String}
    {select : MappedSelect} (h : source.mappedTo destinations = .ok select) :
    select.bindings = source.bindings := by
  obtain ⟨mappings, -, h⟩ := bind_eq_ok.mp h
  cases source with
  | mapped select => cases h
  | _ =>
    rw [← Except.ok.inj h]
    rfl

namespace Statement

/-- The statement that creates a table passes. -/
theorem passes_create (definition : TableDefinition) : Passes kind (create definition) := by
  unfold create
  split
  · exact passes_error rfl
  · exact passes_ok _

/-- So does the one that keeps a row for each key. -/
theorem passes_keyedCopy (copy : KeyedCopy) : Passes kind (keyedCopy copy) := by
  unfold keyedCopy
  split
  · exact passes_error rfl
  · exact passes_ok _

/-- So does the one that inserts mapped columns. -/
theorem passes_mappedInsert (target : TableName) (select : MappedSelect) (cast : Bool) :
    Passes kind (mappedInsert target select cast) := by
  unfold mappedInsert
  split
  · exact passes_error rfl
  · exact passes_ok _

end Statement

/-- The statement that writes the destination passes. -/
theorem Writing.passes_statement (mode : WriteMode) (insert : StagedInsert) :
    Passes kind (statement mode insert) := by
  cases mode with
  | undecided => exact passes_error rfl
  | _ => exact passes_ok _

/-- What the answer to a description says passes. -/
theorem Warehouse.passes_reflected (answer : Except Fault ReflectedTable) :
    Passes kind (reflected answer) := by
  unfold reflected
  split
  · exact passes_ok _
  · split
    · exact passes_ok _
    · exact passes_error rfl
  · exact passes_error (Fault.isForeign_failure _)

end WarehouseImport
