import WarehouseImport.Proofs.Safety.Transfer

/-!
# Safety of the destination

Every import through a staging table, from a table or from files, goes through the phases that keep
its destination safe, whatever the warehouse answers. The keys of the import are those that its
command gives, or else those of the destination, as far as they are among the staged columns.
-/

namespace WarehouseImport

open WarehouseImport.Action Trace Exchange

variable {warehouse : Warehouse}

/-- The keys by which options deduplicate staged columns, over a destination's own keys. -/
def ImportOptions.dedupKeys (options : ImportOptions) (own names : List String) : List String :=
  (options.keysOver own).filter (NameIndex.ofNames names).contains

namespace ImportCommand

/-- The label of the destination. -/
def label : ImportCommand → TableLabel
  | table command => command.destination.label
  | files command => command.destination.label

/-- Rows reach the destination through a staging table: those of files always, those of a table
unless they go straight into the destination. -/
def Stages (features : List String) : ImportCommand → Prop
  | table command => command.options.importType = .full ∧
      ¬ FromTable.isDirect command (TransferOptions.ofImport command.options features)
  | files _ => True

/-- The exchanges before the staging table is filled, and the keys that the definitions described
there give the import. A destination that is missing takes the keys of the command. -/
def Opens (command : ImportCommand) (opening : List Exchange) (keys : List String) : Prop :=
  match command with
  | table command => ∃ connection first second rest full found,
      opening = connection :: first :: second :: rest ∧
      first.Describes command.source.label.tableName (some full) ∧
      second.Describes command.destination.label.tableName found ∧
      keys = command.options.dedupKeys
        ((found.map TableDefinition.primaryKeys).getD command.options.dedupColumns)
        ((command.routes full).map (·.destination))
  | files command => ∃ connection first found,
      opening = [connection, first] ∧
      first.Describes command.destination.label.tableName (some found) ∧
      keys = command.options.dedupKeys found.primaryKeys command.csv.columns

end ImportCommand

/-- The keys of a staged import are those of the options that are among the staged columns. -/
theorem Writing.keys_eq {staging destination : TableDefinition} {options : ImportOptions}
    {own : List String} (hkeys : destination.primaryKeys = options.keysOver own) :
    keys staging destination = options.dedupKeys own staging.columnNames := by
  rw [keys, ImportOptions.dedupKeys, hkeys]
  congr 1
  funext key
  exact staging.columns.contains_eq key

namespace FromTable

variable {command : TableCommand} {options : TransferOptions} {name : String}
  {connection : Exchange} {exchanges : List Exchange} {finished : Bool}

/-- The keys of a staged import are those of its command over those of its destination. -/
theorem Stages.keys_eq {context : SourceContext} {full base staging destination : TableDefinition}
    {expected : ColumnCollection} {stamped : Bool} {existing : Option TableDefinition}
    (hdefinition : SourceContext.ofDefinition command.source.request full = .ok context)
    (hsettled : Destination.settled command.destination.label command.options expected stamped
      existing = .ok base)
    (hkeyed : keyed command.options base = .ok destination)
    (h : Stages command context destination name staging) :
    Writing.keys staging destination = command.options.dedupKeys
      ((existing.map TableDefinition.primaryKeys).getD command.options.dedupColumns)
      ((command.routes full).map (·.destination)) := by
  rw [← h.names_eq hdefinition]
  refine Writing.keys_eq ?_
  rw [(parts_of_keyed hkeyed).2.2]
  cases existing with
  | some definition =>
    rw [← Except.ok.inj hsettled]
    rfl
  | none =>
    rw [(Destination.parts_of_define hsettled).2.2]
    rfl

/-- A created destination is prepared, and has not failed if all ends well. -/
theorem creates_prepares (warehouse : Warehouse) (command : TableCommand)
    (expected : ColumnCollection) (stamped : Bool) (existing : Option TableDefinition) :
    Every (Destination.creates warehouse command.destination.label command.options expected stamped
        existing) (Prepares command.destination.label.tableName) ∧
      Strict (Destination.creates warehouse command.destination.label command.options expected
        stamped existing) := by
  cases existing with
  | some definition => exact ⟨every_silent, strict_silent⟩
  | none =>
    refine ⟨(every_once ?_).skippedIf _, strict_once.skippedIf _⟩
    rintro exchange ⟨definition, hdefine, hstatement⟩
    have hname := (Destination.parts_of_define hdefine).1
    refine ⟨?_, fun table htarget => ?_⟩
    · rw [writes?, hstatement]
      rfl
    · rw [target?_of_statement? hstatement] at htarget
      obtain rfl := Option.some.inj htarget
      exact ⟨hname, _, _, hstatement⟩

/-- The staging table is filled in one of two ways, before the destination is written. -/
theorem filler_of_stagesAndDrops {context : SourceContext} {staging destination : TableDefinition}
    (hsends : warehouse.dryRun = false)
    (h : (stagesAndDrops warehouse context staging destination options).Allows exchanges finished) :
    ∃ filler, Filler filler staging.name (Writing.keyedCopy staging destination).target ∧
      ((filler.andThen (Writing.writes warehouse .replace staging destination options)).closedBy
        (warehouse.sends (.drop .table staging.name false)).attempt).Allows exchanges finished := by
  obtain ⟨transfer, dropping, begun, closed, rfl, htransfer, hdropping, hbegun⟩ := h
  unfold stages at htransfer
  split at htransfer
  · exact ⟨_, filler_copies hsends _, _, _, begun, closed, rfl, htransfer, hdropping, hbegun⟩
  · exact ⟨_, filler_inserts hsends _ _ _ _ _, _, _, begun, closed, rfl,
      allows_andThen_assoc htransfer, hdropping, hbegun⟩

/-- Moving rows through a staging table keeps the destination safe, if all before that only prepares
it. -/
theorem Moves.safe {context : SourceContext} {expected : ColumnCollection}
    {destination : TableDefinition} {Opened : List Exchange → List String → Prop}
    {table : TableName} {opening moving closing : List Exchange} {moved ended : Bool}
    (hsends : warehouse.dryRun = false) (hstaged : ¬ isDirect command options)
    (hopening : ∀ exchange ∈ opening, exchange.Prepares destination.name ∧ ¬ exchange.Failed)
    (hopened : ∀ staging, Stages command context destination name staging →
      Opened opening (Writing.keys staging destination))
    (hclosing : if moved then (Warehouse.describes table).Allows closing ended else closing = [])
    (h : Moves warehouse command context destination expected options name moving moved) :
    DestinationSafe destination.name (destination.name.sibling name)
      (destination.name.sibling (name ++ Writing.dedupEnding)) Opened
      (opening ++ (moving ++ closing)) := by
  rw [Moves, if_neg hstaged] at h
  rcases h with ⟨rfl, rfl⟩ | ⟨staging, hstages, hmoved⟩
  · obtain rfl : closing = [] := hclosing
    exact DestinationSafe.of_opening
      (fun exchange hmem => (hopening exchange (by simpa using hmem)).1)
      (StopsAtFailure.append (fun exchange hmem => (hopening exchange hmem).2)
        (stopsAtFailure_of_length_le_one (by simp)))
  · obtain ⟨filler, hfiller, hallowed⟩ := filler_of_stagesAndDrops hsends hmoved
    exact safe_of_transfer hsends hstages.parts.1 hfiller hopening (hopened staging hstages)
      hclosing hallowed

/-- The course of a staged import from a table keeps the destination safe. -/
theorem Course.safe (hsends : warehouse.dryRun = false)
    (himport : command.options.importType = .full) (hstaged : ¬ isDirect command options)
    (hprepares : connection.Prepares command.destination.label.tableName)
    (hconnected : ¬ connection.Failed)
    (h : Course warehouse command options name exchanges finished) :
    DestinationSafe command.destination.label.tableName
      (command.destination.label.tableName.sibling name)
      (command.destination.label.tableName.sibling (name ++ Writing.dedupEnding))
      (ImportCommand.table command).Opens (connection :: exchanges) := by
  rcases h.of_full himport with ⟨rfl, hallows⟩ | ⟨first, second, performed, closing, context,
    expected, existing, moved, rfl, hdescribes, hperformed, hclosing, -⟩
  · have hprepared (table : TableName) : Every (Warehouse.describes table)
        (Prepares command.destination.label.tableName) :=
      every_describes fun _ => prepares_of_reflect
    have hstrict : Strict ((Warehouse.describes command.source.label.tableName).andThen
        ((Warehouse.describes command.destination.label.tableName).andThen .silent)) :=
      (strict_describes _).andThen ((strict_describes _).andThen strict_silent)
    refine DestinationSafe.of_opening (List.forall_mem_cons.mpr ⟨hprepares, ?_⟩)
      ((hstrict hallows).1.cons hconnected)
    exact ((hprepared _).andThen ((hprepared _).andThen every_silent)) hallows
  obtain ⟨full, hfull, hdefinition⟩ := hdescribes.source
  have hfirst := hfull.prepares command.destination.label.tableName
  have hsecond := hdescribes.destination.prepares command.destination.label.tableName
  obtain ⟨hcreates, hstrict⟩ := creates_prepares warehouse command expected options.stamped existing
  rcases hperformed with ⟨rfl, hallows⟩ |
    ⟨creating, moving, base, destination, rfl, hallows, hsettled, hkeyed, hmoves⟩
  · obtain rfl : closing = [] := hclosing
    rw [List.append_nil]
    exact DestinationSafe.of_opening
      (List.forall_mem_cons.mpr ⟨hprepares, List.forall_mem_cons.mpr ⟨hfirst.1,
        List.forall_mem_cons.mpr ⟨hsecond.1, hcreates hallows⟩⟩⟩)
      ((((hstrict hallows).1.cons hsecond.2).cons hfirst.2).cons hconnected)
  have hnamed : destination.name = command.destination.label.tableName := by
    rw [(parts_of_keyed hkeyed).1]
    refine Destination.name_of_settled (fun definition hdefinition => ?_) hsettled
    subst hdefinition
    exact hdescribes.destination.name_eq
  rw [← hnamed] at hprepares hfirst hsecond hcreates ⊢
  have hopening : ∀ exchange ∈ connection :: first :: second :: creating,
      exchange.Prepares destination.name ∧ ¬ exchange.Failed := by
    refine List.forall_mem_cons.mpr ⟨⟨hprepares, hconnected⟩, List.forall_mem_cons.mpr ⟨hfirst,
      List.forall_mem_cons.mpr ⟨hsecond, fun exchange hmem => ?_⟩⟩⟩
    exact ⟨hcreates hallows exchange hmem, (hstrict hallows).2 rfl exchange hmem⟩
  rw [List.append_assoc]
  refine Moves.safe hsends hstaged hopening (fun staging hstages => ?_) hclosing hmoves
  exact ⟨connection, first, second, creating, full, existing, rfl, hfull, hdescribes.destination,
    hstages.keys_eq hdefinition hsettled hkeyed⟩

end FromTable

namespace FromFile

variable {command : FileCommand} {options : TransferOptions} {name : String}
  {connection : Exchange} {exchanges : List Exchange} {finished : Bool}

/-- The course of an import of files keeps the destination safe. -/
theorem Course.safe (hsends : warehouse.dryRun = false)
    (hprepares : connection.Prepares command.destination.label.tableName)
    (hconnected : ¬ connection.Failed)
    (h : Course warehouse command options name exchanges finished) :
    DestinationSafe command.destination.label.tableName
      (command.destination.label.tableName.sibling name)
      (command.destination.label.tableName.sibling (name ++ Writing.dedupEnding))
      (ImportCommand.files command).Opens (connection :: exchanges) := by
  cases h with
  | opened hopens =>
    exact DestinationSafe.of_opening
      (List.forall_mem_cons.mpr ⟨hprepares, every_describes (fun _ => prepares_of_reflect) hopens⟩)
      ((strict_describes _ hopens).1.cons hconnected)
  | @performed first performed closing found destination staging ended _ hdescribes hkeyed hstages
      hperformed hclosing hended =>
    obtain ⟨hname, -, hkeys⟩ := parts_of_keyed hkeyed
    obtain ⟨hstaging, hnames⟩ := hstages.parts
    have hfirst := hdescribes.prepares command.destination.label.tableName
    have hnamed : destination.name = command.destination.label.tableName :=
      hname.trans hdescribes.name_eq
    rw [← hnamed] at hprepares hfirst ⊢
    have hopening : ∀ exchange ∈ [connection, first],
        exchange.Prepares destination.name ∧ ¬ exchange.Failed :=
      List.forall_mem_cons.mpr ⟨⟨hprepares, hconnected⟩, List.forall_mem_singleton.mpr hfirst⟩
    have hopened : (ImportCommand.files command).Opens [connection, first]
        (Writing.keys staging destination) := by
      refine ⟨connection, first, found, rfl, hdescribes, ?_⟩
      rw [← hnames]
      exact Writing.keys_eq hkeys
    obtain ⟨transfer, dropping, begun, closed, rfl, htransfer, hdropping, hbegun⟩ := hperformed
    exact safe_of_transfer hsends hstaging (filler_loads hsends _ _) hopening hopened hclosing
      ⟨_, _, begun, closed, rfl, allows_andThen_assoc htransfer, hdropping, hbegun⟩

end FromFile

namespace Handler

variable {handler : Handler} {config : Config} {credentials : Credentials}
  {command : ImportCommand} {features : List String} {options : RuntimeOptions}
  {session after : Session} {exchanges : List Exchange} {outcome : Except Failure ImportResponse}

/-- Every import through a staging table keeps its destination safe, whatever the answers are. The
staging table has the name that the session draws next, and the table of keys is named after it. -/
theorem destination_safe (hstages : command.Stages features)
    (hrun : Runs (handler.run config credentials command features options) session exchanges outcome
      after) :
    DestinationSafe command.label.tableName
      ⟨command.label.schema, (session.drawName config.stagingNames).1⟩
      ⟨command.label.schema, (session.drawName config.stagingNames).1 ++ Writing.dedupEnding⟩
      command.Opens exchanges := by
  have hconnection (request : ClientRequest) (project : String) :
      Prepares command.label.tableName ⟨.connect request, project⟩ ∧
        ¬ Failed ⟨.connect request, project⟩ :=
    ⟨⟨rfl, fun table htarget => by cases htarget⟩, fun hfailed => hfailed.1 trivial⟩
  rcases runs_run hrun with
    ⟨rfl, -⟩ | ⟨request, project, ⟨rfl, -⟩ | ⟨performed, finished, rfl, -, hcourse⟩⟩
  · exact DestinationSafe.of_opening (by simp) (stopsAtFailure_of_length_le_one (by simp))
  · refine DestinationSafe.of_opening (fun exchange hmem => ?_)
      (stopsAtFailure_of_length_le_one (by simp))
    rw [List.mem_singleton.mp hmem]
    exact (hconnection request project).1
  · obtain ⟨hprepares, hconnected⟩ := hconnection request project
    cases command with
    | table command =>
      exact FromTable.Course.safe rfl hstages.1 hstages.2 hprepares hconnected hcourse
    | files command => exact FromFile.Course.safe rfl hprepares hconnected hcourse

/-- A command that replaces the rows of a table and keeps one row for each key. -/
def keyedImport : TableCommand where
  source := { dataset := "data", table := "sales" }
  destination := ⟨"data", "report"⟩
  options := { dedupType := .updateDuplicates }

/-- The exchanges of this command where both tables have one column, which is their key. -/
def keyedImportExchanges : List Exchange :=
  (Handler.tables.run Config.plain Credentials.plain (.table keyedImport) [] {}).against
    Session.plain (Script.obliging fun _ => .ok (ReflectedTable.ofNames ["a"] ["a"]))

/-- Such a run does write its destination, safely. -/
theorem destination_safe_keyed :
    (∃ exchange ∈ keyedImportExchanges, exchange.writes?.isSome) ∧
      DestinationSafe ⟨"data", "report"⟩
        ⟨"data", (Session.plain.drawName Config.plain.stagingNames).1⟩
        ⟨"data", (Session.plain.drawName Config.plain.stagingNames).1 ++ Writing.dedupEnding⟩
        (ImportCommand.table keyedImport).Opens keyedImportExchanges := by
  obtain ⟨outcome, after, hrun⟩ := runs_against
    (Handler.tables.run Config.plain Credentials.plain (.table keyedImport) [] {}) Session.plain
    (Script.obliging fun _ => .ok (ReflectedTable.ofNames ["a"] ["a"]))
  have hstages : (ImportCommand.table keyedImport).Stages [] := ⟨rfl, by decide⟩
  exact ⟨⟨_, List.mem_iff_getElem?.mpr ⟨6, rfl⟩, rfl⟩, destination_safe hstages hrun⟩

end Handler

end WarehouseImport
