import WarehouseImport.Proofs.Run.Every
import WarehouseImport.Proofs.Safety.Phases

/-!
# Transfers through a staging table

A transfer fills a staging table, keeps one row for each key if there are keys, writes the
destination and drops what it made. It does so in the phases that keep the destination safe, however
the staging table is filled.

The state in which a load ends is not looked at: a load counts as done when its job has no fault.
-/

namespace WarehouseImport

open WarehouseImport.Action Trace

variable {warehouse : Warehouse} {staging kept destination : TableName}

namespace Exchange

variable {exchange : Exchange} {statement : Statement}

/-- A statement that writes nothing and has no other target leaves the destination aside. -/
theorem aside_of_statement (h : exchange.statement? = some statement)
    (hwrites : statement.writes? = none)
    (htarget : ∀ table, statement.target? = some table → table = staging ∨ table = kept) :
    exchange.Aside staging kept := by
  refine ⟨?_, fun table htable => htarget table ?_⟩
  · rw [writes?, h]
    exact hwrites
  · rw [← htable, target?_of_statement? h]

/-- A description leaves everything aside. -/
theorem aside_of_reflect {table : TableName} (h : exchange.call = .reflect table) :
    exchange.Aside staging kept := by
  obtain ⟨call, answer⟩ := exchange
  cases h
  exact ⟨rfl, fun table htarget => by cases htarget⟩

/-- A description prepares nothing, and so does no harm in an opening. -/
theorem prepares_of_reflect {table : TableName} (h : exchange.call = .reflect table) :
    exchange.Prepares destination := by
  obtain ⟨call, answer⟩ := exchange
  cases h
  exact ⟨rfl, fun table htarget => by cases htarget⟩

/-- A description that found something out has not failed either. -/
theorem Describes.prepares {table : TableName} {found : Option TableDefinition}
    (h : exchange.Describes table found) (destination : TableName) :
    exchange.Prepares destination ∧ ¬ exchange.Failed := by
  obtain ⟨answer, rfl, -⟩ := h
  exact ⟨prepares_of_reflect rfl, not_failed_of_reflect rfl⟩

end Exchange

open Exchange

/-- Descriptions leave the destination aside. -/
theorem describes_aside (table : TableName) :
    Every (Warehouse.describes table) (Aside staging kept) :=
  every_describes fun _ => aside_of_reflect

/-- Counting rows leaves the destination aside. -/
theorem counts_aside (table : TableName) :
    Every (Warehouse.counts table) (Aside staging kept) := by
  refine (describes_aside table).andThen (every_silent.either (every_once fun exchange h => ?_))
  exact aside_of_statement h rfl fun table htarget => by cases htarget

/-- A statement whose only target is the staging table or the table of keys leaves the destination
aside. -/
theorem sends_aside {statement : Statement} {target : TableName}
    (hwrites : statement.writes? = none) (htarget : statement.target? = some target)
    (hside : target = staging ∨ target = kept) :
    Every (warehouse.sends statement) (Aside staging kept) := by
  refine every_sends fun exchange h => aside_of_statement h hwrites fun table htable => ?_
  obtain rfl := Option.some.inj (htable.symm.trans htarget)
  exact hside

/-- An insertion into the staging table leaves the destination aside. -/
theorem inserts_aside (source : Source) (columns : List String) (options : TransferOptions) :
    Every (Filling.inserts warehouse source staging columns options) (Aside staging kept) := by
  refine (every_once fun exchange h => ?_).skippedIf _
  obtain ⟨select, -, hstatement⟩ := h
  exact aside_of_statement hstatement rfl fun table htarget => .inl (Option.some.inj htarget).symm

/-- So does a staging table that is made as a copy. -/
theorem copies_aside (source : Source) :
    Every (Filling.copies warehouse source staging) (Aside staging kept) := by
  refine ((every_once fun exchange h => ?_).skippedIf _).andThen (counts_aside staging)
  obtain ⟨name, columns, keys, -, hstatement⟩ := h
  exact aside_of_statement hstatement rfl fun table htarget => .inl (Option.some.inj htarget).symm

/-- So does the text of a manifest. -/
theorem opens_aside : Every Filling.opens (Aside staging kept) := by
  refine every_silent.either (every_once ?_)
  rintro _ ⟨uri, token, answer, rfl⟩
  exact ⟨rfl, fun table htarget => by cases htarget⟩

/-- So does a load into the staging table. -/
theorem loads_aside : Every (warehouse.loads staging) (Aside staging kept) := by
  refine (every_once ?_).skippedIf _
  rintro _ ⟨request, timeout, answer, rfl, rfl⟩
  exact ⟨rfl, fun table htarget => .inl (Option.some.inj htarget).symm⟩

/-- How a staging table is filled: it stops at a failure, leaves the destination aside, and a good
end of it has filled the table. -/
structure Filler (trace : Trace) (staging kept : TableName) : Prop where
  strict : trace.Strict
  aside : trace.Every (Aside staging kept)
  filled : ∀ {exchanges}, trace.Allows exchanges true → Filled staging exchanges

/-- A copy of the source fills the staging table. -/
theorem filler_copies (hsends : warehouse.dryRun = false) (source : Source) :
    Filler (Filling.copies warehouse source staging) staging kept := by
  refine ⟨?_, copies_aside source, ?_⟩
  · refine (strict_once.skippedIf _).andThen ?_
    exact (strict_describes staging).andThen (strict_silent.either strict_once)
  · rintro exchanges (⟨hfalse, -⟩ | ⟨copying, counting, rfl, hcopied, -⟩)
    · cases hfalse
    rw [hsends] at hcopied
    rcases allows_of_not_skipped hcopied with ⟨-, hfalse⟩ | ⟨copied, rfl, hkind, hdone⟩
    · cases hfalse
    obtain ⟨name, columns, keys, -, hstatement⟩ := hkind
    exact .inl ⟨copied, name, by simp, hdone rfl, hstatement⟩

/-- One exchange that fills a created staging table. -/
theorem filled_of_created {creating filling : List Exchange} {columns : List Column}
    {keys : List String} (hsends : warehouse.dryRun = false)
    (hcreated : (warehouse.sends (.createTable staging columns keys)).Allows creating true)
    (hfilled : ∃ before filled, filling = before ++ [filled] ∧ filled.Done ∧ filled.Fills staging) :
    Filled staging (creating ++ filling) := by
  rw [Warehouse.sends, hsends] at hcreated
  rcases allows_of_not_skipped hcreated with ⟨-, hfalse⟩ | ⟨created, rfl, hkind, hdone⟩
  · cases hfalse
  obtain ⟨before, filled, rfl, hfilled⟩ := hfilled
  exact .inr ⟨[], created, columns, keys, before, filled, [], by simp, hdone rfl, hkind, hfilled⟩

/-- Creating the staging table and inserting the source's rows fills it. -/
theorem filler_inserts (hsends : warehouse.dryRun = false) (columns : List Column)
    (keys : List String) (source : Source) (names : List String) (options : TransferOptions) :
    Filler ((warehouse.sends (.createTable staging columns keys)).andThen
      (Filling.inserts warehouse source staging names options)) staging kept := by
  refine ⟨?_, ?_, ?_⟩
  · exact (strict_once.skippedIf _).andThen (strict_once.skippedIf _)
  · exact (sends_aside rfl rfl (.inl rfl)).andThen (inserts_aside _ _ _)
  · rintro exchanges (⟨hfalse, -⟩ | ⟨creating, filling, rfl, hcreated, hinserted⟩)
    · cases hfalse
    refine filled_of_created hsends hcreated ?_
    rw [Filling.inserts, hsends] at hinserted
    rcases allows_of_not_skipped hinserted with ⟨-, hfalse⟩ | ⟨filled, rfl, hkind, hdone⟩
    · cases hfalse
    obtain ⟨select, -, hstatement⟩ := hkind
    exact ⟨[], filled, rfl, hdone rfl, .inl ⟨select, _, hstatement⟩⟩

/-- Creating the staging table and loading files fills it. -/
theorem filler_loads (hsends : warehouse.dryRun = false) (columns : List Column)
    (keys : List String) :
    Filler ((warehouse.sends (.createTable staging columns keys)).andThen
      (Filling.opens.andThen (warehouse.loads staging))) staging kept := by
  refine ⟨?_, ?_, ?_⟩
  · refine (strict_once.skippedIf _).andThen ?_
    exact (strict_silent.either strict_once).andThen (strict_once.skippedIf _)
  · exact (sends_aside rfl rfl (.inl rfl)).andThen (opens_aside.andThen loads_aside)
  · rintro exchanges (⟨hfalse, -⟩ | ⟨creating, filling, rfl, hcreated, hloaded⟩)
    · cases hfalse
    refine filled_of_created hsends hcreated ?_
    rcases hloaded with ⟨hfalse, -⟩ | ⟨opening, loading, rfl, -, hloaded⟩
    · cases hfalse
    rw [Warehouse.loads, hsends] at hloaded
    rcases allows_of_not_skipped hloaded with ⟨-, hfalse⟩ | ⟨filled, rfl, hkind, hdone⟩
    · cases hfalse
    exact ⟨opening, filled, rfl, hdone rfl, .inr hkind⟩

/-- The destination is written by at most one exchange, which writes the insertion. -/
theorem writing_of_writesFrom {mode : WriteMode} {insert : StagedInsert}
    {exchanges : List Exchange} {finished : Bool} (hsends : warehouse.dryRun = false)
    (h : (Writing.writesFrom warehouse mode insert).Allows exchanges finished) :
    exchanges = [] ∨ ∃ write, exchanges = [write] ∧ write.writes? = some insert := by
  rw [Writing.writesFrom, hsends] at h
  rcases allows_of_not_skipped h with ⟨rfl, -⟩ | ⟨write, rfl, ⟨written, hwritten, hstatement⟩, -⟩
  · exact .inl rfl
  refine .inr ⟨write, rfl, ?_⟩
  rw [Exchange.writes?, hstatement]
  cases mode with
  | undecided => cases hwritten
  | _ =>
    cases hwritten
    rfl

/-- Writing the destination keeps one row for each key if there are keys, writes at most once behind
that, and then drops the table of keys. -/
theorem split_of_writes {staging destination : TableDefinition} {mode : WriteMode}
    {options : TransferOptions} {exchanges : List Exchange} {finished : Bool}
    (hsends : warehouse.dryRun = false)
    (h : (Writing.writes warehouse mode staging destination options).Allows exchanges finished) :
    ∃ keeping writing dropping, exchanges = keeping ++ (writing ++ dropping) ∧
      StopsAtFailure (keeping ++ writing) ∧
      (∀ exchange ∈ keeping ++ dropping,
        exchange.Aside staging.name (Writing.keyedCopy staging destination).target) ∧
      (writing = [] ∨ ∃ write insert, writing = [write] ∧ write.writes? = some insert ∧
        insert.target = destination.name ∧
        (Writing.keys staging destination = [] → insert.source = staging.name.table) ∧
        (Writing.keys staging destination ≠ [] →
          insert.source = (Writing.keyedCopy staging destination).target.table ∧
            ∃ keep, keeping = [keep] ∧ keep.Done ∧ keep.statement? =
              some (.createKeyedCopy (Writing.keyedCopy staging destination)))) := by
  unfold Writing.writes at h
  split at h
  · next hkeys =>
    rw [List.isEmpty_iff] at hkeys
    have hwriting := writing_of_writesFrom hsends h
    refine ⟨[], exchanges, [], by simp, stopsAtFailure_of_length_le_one ?_, by simp, ?_⟩
    · rcases hwriting with rfl | ⟨write, rfl, -⟩ <;> simp
    · rcases hwriting with rfl | ⟨write, rfl, hwrite⟩
      · exact .inl rfl
      · exact .inr ⟨write, _, rfl, hwrite, rfl, fun _ => rfl, fun hne => absurd hkeys hne⟩
  · next hkeys =>
    rw [List.isEmpty_iff] at hkeys
    have hkeeps : Every (warehouse.sends (.createKeyedCopy (Writing.keyedCopy staging destination)))
        (Aside staging.name (Writing.keyedCopy staging destination).target) :=
      sends_aside rfl rfl (.inr rfl)
    have hstrict : Strict (warehouse.sends
        (.createKeyedCopy (Writing.keyedCopy staging destination))) := strict_once.skippedIf _
    rcases h with ⟨-, hkeeping⟩ | ⟨keeping, rest, rfl, hkeeping, hrest⟩
    · refine ⟨exchanges, [], [], by simp, ?_, ?_, .inl rfl⟩
      · simpa using (hstrict hkeeping).1
      · simpa using hkeeps hkeeping
    obtain ⟨writing, dropping, _, _, rfl, hwritten, hdropping, -⟩ := hrest
    have hwriting := writing_of_writesFrom hsends hwritten
    have hdrops : Every (warehouse.sends
        (.drop .table (Writing.keyedCopy staging destination).target false)).attempt
        (Aside staging.name (Writing.keyedCopy staging destination).target) :=
      Every.attempt (sends_aside rfl rfl (.inr rfl))
    refine ⟨keeping, writing, dropping, rfl, ?_, ?_, ?_⟩
    · refine StopsAtFailure.append ((hstrict hkeeping).2 rfl) (stopsAtFailure_of_length_le_one ?_)
      rcases hwriting with rfl | ⟨write, rfl, -⟩ <;> simp
    · intro exchange hmem
      rcases List.mem_append.mp hmem with hmem | hmem
      · exact hkeeps hkeeping exchange hmem
      · exact hdrops hdropping exchange hmem
    · rcases hwriting with rfl | ⟨write, rfl, hwrite⟩
      · exact .inl rfl
      rw [Warehouse.sends, hsends] at hkeeping
      rcases allows_of_not_skipped hkeeping with ⟨-, hfalse⟩ | ⟨keep, rfl, hkind, hdone⟩
      · cases hfalse
      · exact .inr ⟨write, _, rfl, hwrite, rfl, fun hnil => absurd hnil hkeys,
          fun _ => ⟨rfl, keep, rfl, hdone rfl, hkind⟩⟩

/-- Filling a staging table, writing from it and cleaning up are the phases of a safe import. -/
theorem phases_of_transfer {staging destination : TableDefinition} {filler : Trace}
    {mode : WriteMode} {options : TransferOptions} {opening moved closing : List Exchange}
    {finished : Bool} (hsends : warehouse.dryRun = false)
    (hfiller : Filler filler staging.name (Writing.keyedCopy staging destination).target)
    (hopening : ∀ exchange ∈ opening, exchange.Prepares destination.name ∧ ¬ exchange.Failed)
    (hclosing : ∀ exchange ∈ closing,
      exchange.Aside staging.name (Writing.keyedCopy staging destination).target)
    (h : ((filler.andThen (Writing.writes warehouse mode staging destination options)).closedBy
      (warehouse.sends (.drop .table staging.name false)).attempt).Allows moved finished) :
    ∃ filling keeping writing cleaning,
      opening ++ (moved ++ closing) = opening ++ filling ++ keeping ++ writing ++ cleaning ∧
      Phases destination.name staging.name (Writing.keyedCopy staging destination).target
        (Writing.keys staging destination) opening filling keeping writing cleaning := by
  obtain ⟨transfer, dropping, _, _, rfl, htransfer, hdropping, -⟩ := h
  have hsound : ∀ exchange ∈ opening, ¬ exchange.Failed := fun e he => (hopening e he).2
  have hdropped : ∀ exchange ∈ dropping ++ closing,
      exchange.Aside staging.name (Writing.keyedCopy staging destination).target := by
    have hdrops : Every (warehouse.sends (.drop .table staging.name false)).attempt
        (Aside staging.name (Writing.keyedCopy staging destination).target) :=
      Every.attempt (sends_aside rfl rfl (.inl rfl))
    intro exchange hmem
    rcases List.mem_append.mp hmem with hmem | hmem
    · exact hdrops hdropping exchange hmem
    · exact hclosing exchange hmem
  rcases htransfer with ⟨-, hfilling⟩ | ⟨filling, written, rfl, hfilling, hwritten⟩
  · refine ⟨transfer, [], [], dropping ++ closing, by simp, ?_⟩
    exact {
      stops := by simpa using StopsAtFailure.append hsound (hfiller.strict hfilling).1
      opens := fun e he => (hopening e he).1
      fills := hfiller.aside hfilling
      keeps := by simp
      writes := .inl rfl
      closes := hdropped }
  have hunfailed : ∀ exchange ∈ opening ++ filling, ¬ exchange.Failed := by
    intro exchange hmem
    rcases List.mem_append.mp hmem with hmem | hmem
    · exact hsound exchange hmem
    · exact (hfiller.strict hfilling).2 rfl exchange hmem
  have hfilled := hfiller.filled hfilling
  obtain ⟨keeping, writing, unkeeping, rfl, hstops, haside, hwriting⟩ :=
    split_of_writes hsends hwritten
  refine ⟨filling, keeping, writing, unkeeping ++ (dropping ++ closing), by simp, ?_⟩
  exact {
    stops := by
      rw [List.append_assoc]
      exact StopsAtFailure.append hunfailed hstops
    opens := fun e he => (hopening e he).1
    fills := hfiller.aside hfilling
    keeps := fun e he => haside e (List.mem_append_left _ he)
    writes := by
      refine hwriting.imp_right ?_
      rintro ⟨write, insert, rfl, hwrite, htarget, hunkeyed, hkeyed⟩
      refine ⟨write, insert, rfl, hwrite, htarget, fun hnil => ⟨hunkeyed hnil, hfilled⟩,
        fun hne => ?_⟩
      obtain ⟨hsource, keep, rfl, hdone, hkept⟩ := hkeyed hne
      exact ⟨hsource, filling, keep, [], _, rfl, hfilled, hdone, hkept⟩
    closes := by
      intro exchange hmem
      rcases List.mem_append.mp hmem with hmem | hmem
      · exact haside exchange (List.mem_append_right _ hmem)
      · exact hdropped exchange hmem }

/-- An import that moves its rows through a staging table beside the destination keeps the
destination safe, if all before that only prepares it and what ends it well is a description. -/
theorem safe_of_transfer {staging destination : TableDefinition} {name : String} {filler : Trace}
    {mode : WriteMode} {options : TransferOptions} {Opened : List Exchange → List String → Prop}
    {table : TableName} {opening moved closing : List Exchange} {finished ended : Bool}
    (hsends : warehouse.dryRun = false) (hstaging : staging.name = destination.name.sibling name)
    (hfiller : Filler filler staging.name (Writing.keyedCopy staging destination).target)
    (hopening : ∀ exchange ∈ opening, exchange.Prepares destination.name ∧ ¬ exchange.Failed)
    (hopened : Opened opening (Writing.keys staging destination))
    (hclosing : if finished then (Warehouse.describes table).Allows closing ended
      else closing = [])
    (h : ((filler.andThen (Writing.writes warehouse mode staging destination options)).closedBy
      (warehouse.sends (.drop .table staging.name false)).attempt).Allows moved finished) :
    DestinationSafe destination.name (destination.name.sibling name)
      (destination.name.sibling (name ++ Writing.dedupEnding)) Opened
      (opening ++ (moved ++ closing)) := by
  have hkept : (Writing.keyedCopy staging destination).target =
      destination.name.sibling (name ++ Writing.dedupEnding) := by
    rw [Writing.keyedCopy, hstaging]
    rfl
  obtain ⟨filling, keeping, writing, cleaning, hsplit, hphases⟩ :=
    phases_of_transfer hsends hfiller hopening (Every.of_closing (describes_aside _) hclosing) h
  have hsafe := hphases.safe hopened
  rw [← hsplit, hkept, hstaging] at hsafe
  exact hsafe

end WarehouseImport
