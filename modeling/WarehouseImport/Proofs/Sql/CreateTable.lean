import WarehouseImport.Proofs.Sql.Fields
import WarehouseImport.Sql.Statement

/-!
# The columns of a created table

The statement that creates a table quotes the names of the table, its columns and its keys. The
definition of a column is plain text to it, and with the definition come the names of nested fields,
which nobody quotes.

Two statements are compared without their quoted names, up to the blanks that stand behind a name to
align the definitions. For fields that differ in names only they then differ exactly in the names of
nested fields.
-/

namespace WarehouseImport

open WarehouseImport.Sql

/-- What is left of an outline without the blanks directly behind a hole. -/
def closeUp : Bool → List (Option Char) → List (Option Char)
  | _, [] => []
  | _, none :: rest => none :: closeUp true rest
  | hole, some c :: rest =>
    if hole && c == ' ' then closeUp true rest else some c :: closeUp false rest

section

variable {behind behind' : List (Option Char)}

/-- What is left behind a part is settled by what is left of it on its own. -/
theorem closeUp_append (front : List (Option Char))
    (h : ∀ hole, closeUp hole behind = closeUp hole behind') (hole : Bool) :
    closeUp hole (front ++ behind) = closeUp hole (front ++ behind') := by
  induction front generalizing hole with
  | nil => exact h hole
  | cons mark front ih =>
    cases mark with
    | none => exact congrArg (none :: ·) (ih true)
    | some c =>
      rw [List.cons_append, List.cons_append, closeUp, closeUp, ih true, ih false]

/-- Blanks behind a hole are left out. -/
theorem closeUp_blanks (count : Nat) (behind : List (Option Char)) :
    closeUp true ((List.replicate count ' ').map some ++ behind) = closeUp true behind := by
  induction count with
  | zero => rfl
  | succ count ih => exact ih

/-- Where no hole stands in front, text is left as it is. -/
theorem closeUp_text (text : List Char) (behind : List (Option Char)) :
    closeUp false (text.map some ++ behind) = text.map some ++ closeUp false behind := by
  induction text with
  | nil => rfl
  | cons c text ih => exact congrArg (some c :: ·) ih

/-- Text that does not begin with a blank is left as it is behind a hole, too. -/
theorem closeUp_text_behind {text : List Char} {c : Char} (hc : text.head? = some c)
    (hblank : c ≠ ' ') (behind : List (Option Char)) :
    closeUp true (text.map some ++ behind) = text.map some ++ closeUp false behind := by
  cases text with
  | nil => cases hc
  | cons first text =>
    obtain rfl := Option.some.inj hc
    rw [List.map_cons, List.cons_append, closeUp, if_neg (by simpa using hblank), closeUp_text]
    rfl

/-- Behind the same text that ends its line, what is left is the same. -/
theorem closeUp_line {text : List Char} {hole : Bool}
    (h : closeUp hole (text.map some ++ some '\n' :: behind) =
      closeUp hole (text.map some ++ some '\n' :: behind')) :
    closeUp false behind = closeUp false behind' := by
  induction text generalizing hole with
  | nil => cases hole <;> exact (List.cons.inj h).2
  | cons c text ih =>
    rw [List.map_cons, List.cons_append, List.cons_append, closeUp, closeUp] at h
    split at h
    · exact ih h
    · exact ih (List.cons.inj h).2

end

namespace SqlText

/-- What is left of the text without its names. -/
def outline (sql : SqlText) : List (Option Char) := Lexeme.outline sql.lexemes

/-- What is left of the text without its names, up to blanks behind a name. -/
def looseOutline (sql : SqlText) : List (Option Char) := closeUp false sql.outline

@[simp]
theorem outline_nil : outline [] = [] := rfl

@[simp]
theorem outline_append (left right : SqlText) :
    outline (left ++ right) = outline left ++ outline right := by
  simp [outline, Lexeme.outline]

@[simp]
theorem outline_text_cons (content : String) (rest : SqlText) :
    outline (.text content :: rest) = content.toList.map some ++ outline rest := by
  simp [outline, Lexeme.outline, Piece.lexemes, Function.comp_def]

@[simp]
theorem outline_name_cons (content : String) (rest : SqlText) :
    outline (.name content :: rest) = none :: outline rest := rfl

/-- Texts with the same plain pieces have the same outline. -/
theorem outline_of_holes {sql other : SqlText} (h : holes sql = holes other) :
    outline sql = outline other := by
  rw [outline, outline, outline_lexemes, outline_lexemes, h]

/-- Behind the first of several texts the others begin with the separator. -/
theorem joined_cons (separator : String) (sql : SqlText) (texts : List SqlText) :
    joined separator (sql :: texts) = sql ++ texts.flatMap (.text separator :: ·) := by
  induction texts generalizing sql with
  | nil => exact (List.append_nil sql).symm
  | cons next texts ih => rw [joined_cons_cons, ih, List.flatMap_cons, List.cons_append]

/-- What stands in one of several texts stands in the whole. -/
theorem mem_joined {separator : String} {sql : SqlText} {texts : List SqlText} {piece : Piece}
    (hsql : sql ∈ texts) (hpiece : piece ∈ sql) : piece ∈ joined separator texts := by
  cases texts with
  | nil => cases hsql
  | cons first rest =>
    rw [joined_cons]
    rcases List.mem_cons.mp hsql with rfl | hrest
    · exact List.mem_append_left _ hpiece
    · exact List.mem_append_right _
        (List.mem_flatMap.mpr ⟨sql, hrest, List.mem_cons_of_mem _ hpiece⟩)

end SqlText

namespace Statement

/-- The line of a column whose definition begins at a width. -/
def columnLine (width : Nat) (column : Column) : SqlText :=
  [.name column.name,
    .text (Text.blanksTo width (quoteName column.name) ++ " " ++ column.definition)]

/-- Blanks open no quotes. -/
theorem lacks_blanksTo (width : Nat) (text : String) :
    Sql.Lacks [backquote] (Text.blanksTo width text) := by
  intro mark hmark hmem
  rw [Text.blanksTo, String.toList_ofList] at hmem
  rw [List.mem_singleton.mp hmark] at hmem
  exact absurd (List.eq_of_mem_replicate hmem) (by decide)

/-- The outline of a line is that of the definition alone, up to blanks. -/
theorem closeUp_columnLine (width : Nat) (column : Column) (behind : List (Option Char))
    (hole : Bool) :
    closeUp hole ((columnLine width column).outline ++ behind) =
      closeUp hole (none :: (column.definition.toList.map some ++ behind)) := by
  have hblanks : (Text.blanksTo width (quoteName column.name) ++ " ").toList =
      List.replicate (width - (quoteName column.name).length + 1) ' ' := by
    rw [String.toList_append, Text.blanksTo, String.toList_ofList, List.replicate_succ']
    rfl
  rw [columnLine, SqlText.outline_name_cons, SqlText.outline_text_cons, String.toList_append,
    hblanks, SqlText.outline_nil, List.append_nil, List.map_append, List.cons_append,
    List.append_assoc]
  exact congrArg (none :: ·) (closeUp_blanks _ _)

/-- What stands between two lines. -/
def rowMark : List (Option Char) := "\n,   ".toList.map some

/-- The columns behind the first with their definitions, and what follows them. -/
def rowsOutline (tail : List (Option Char)) : List String → List (Option Char)
  | [] => tail
  | definition :: rest =>
    rowMark ++ none :: (definition.toList.map some ++ rowsOutline tail rest)

/-- Rows look alike only if what stands behind their names does. -/
theorem row_of_closeUp {behind behind' : List (Option Char)}
    (h : closeUp false (",   ".toList.map some ++ none :: behind) =
      closeUp false (",   ".toList.map some ++ none :: behind')) :
    closeUp true behind = closeUp true behind' := by
  rw [closeUp_text, closeUp_text] at h
  exact (List.cons.inj (List.append_cancel_left h)).2

/-- The outline of the lines behind the first, up to blanks. -/
theorem closeUp_columnLines (width : Nat) (columns : List Column) (tail : List (Option Char))
    (hole : Bool) :
    closeUp hole (SqlText.outline
        ((columns.map (columnLine width)).flatMap (.text "\n,   " :: ·)) ++ tail) =
      closeUp hole (rowsOutline tail (columns.map Column.definition)) := by
  induction columns generalizing hole with
  | nil => rfl
  | cons column columns ih =>
    rw [List.map_cons, List.flatMap_cons, SqlText.outline_append, SqlText.outline_text_cons,
      List.append_assoc, List.append_assoc, List.map_cons, rowsOutline]
    apply closeUp_append
    intro hole
    rw [closeUp_columnLine, ← List.cons_append, ← List.cons_append]
    exact closeUp_append _ ih hole

/-- The outline of the statement behind the columns. -/
def keysOutline (keys : List String) : List (Option Char) :=
  SqlText.outline ((keyLines keys).flatMap (.text "\n,   " :: ·) ++ [.text "\n)"])

/-- It is settled by the number of keys. -/
theorem keysOutline_congr {keys keys' : List String} (h : keys.length = keys'.length) :
    keysOutline keys = keysOutline keys' := by
  have hnames := SqlText.outline_of_holes (SqlText.holes_nameList h)
  rw [keysOutline, keysOutline, keyLines, keyLines, SqlText.isEmpty_eq_of_length_eq h]
  split
  · rfl
  · simp only [List.flatMap_singleton, SqlText.outline_append, SqlText.outline_text_cons, hnames]

/-- It begins on a line of its own. -/
theorem exists_keysOutline (keys : List String) : ∃ rest, keysOutline keys = some '\n' :: rest := by
  cases keys with
  | nil => exact ⟨_, rfl⟩
  | cons key keys => exact ⟨_, rfl⟩

/-- What stands in front of the columns. -/
def headSql (table : TableName) : SqlText :=
  [.text "CREATE TABLE "] ++ table.sql ++ [.text " (\n    "]

/-- The outline of the statement that creates a table, without the blanks that align the definitions
of its columns. -/
def tableOutline (keys : List String) : List String → List (Option Char)
  | [] => []
  | definition :: rest =>
    SqlText.outline (headSql ⟨"", ""⟩) ++
      none :: (definition.toList.map some ++ rowsOutline (keysOutline keys) rest)

/-- The statement by its lines. -/
theorem sql_createTable (table : TableName) (first : Column) (columns : List Column)
    (keys : List String) : ∃ width, (createTable table (first :: columns) keys).sql =
      headSql table ++ (columnLine width first ++
        ((columns.map (columnLine width)).flatMap (.text "\n,   " :: ·) ++
          ((keyLines keys).flatMap (.text "\n,   " :: ·) ++ [.text "\n)"]))) := by
  obtain ⟨width, hwidth⟩ : ∃ width, columnLines (first :: columns) =
      columnLine width first :: columns.map (columnLine width) := ⟨_, rfl⟩
  refine ⟨width, ?_⟩
  have hjoined : SqlText.joined "\n,   " (columnLines (first :: columns) ++ keyLines keys) =
      columnLine width first ++ ((columns.map (columnLine width)).flatMap (.text "\n,   " :: ·) ++
        (keyLines keys).flatMap (.text "\n,   " :: ·)) := by
    rw [hwidth, List.cons_append, SqlText.joined_cons, List.flatMap_append]
  rw [sql, hjoined, headSql]
  simp only [List.append_assoc]

theorem looseOutline_createTable (table : TableName) {columns : List Column} (keys : List String)
    (h : columns ≠ []) :
    (createTable table columns keys).sql.looseOutline =
      closeUp false (tableOutline keys (columns.map Column.definition)) := by
  obtain ⟨first, columns, rfl⟩ := List.exists_cons_of_ne_nil h
  obtain ⟨width, hsql⟩ := sql_createTable table first columns keys
  have hhead : (headSql table).outline = (headSql ⟨"", ""⟩).outline := rfl
  rw [SqlText.looseOutline, hsql, SqlText.outline_append, SqlText.outline_append,
    SqlText.outline_append, hhead, List.map_cons, tableOutline]
  refine closeUp_append _ (fun hole => ?_) false
  rw [closeUp_columnLine, ← List.cons_append, ← List.cons_append]
  exact closeUp_append _ (closeUp_columnLines width columns _) hole

/-- The names in the statement are those of the table, its columns and its keys. -/
theorem names_createTable (table : TableName) (columns : List Column) (keys : List String) :
    (createTable table columns keys).sql.names =
      [table.dataset, table.table] ++ columns.map Column.name ++ keys := by
  have hcolumns : (columnLines columns).flatMap SqlText.names = columns.map Column.name := by
    rw [columnLines, List.flatMap_map]
    exact List.map_eq_flatMap.symm
  have hkeys : (keyLines keys).flatMap SqlText.names = keys := by
    rw [keyLines]
    split
    · next hempty => exact (List.isEmpty_iff.mp hempty).symm
    · simp [SqlText.names_nameList]
  simp [sql, TableName.sql, SqlText.names_joined, List.flatMap_append, hcolumns, hkeys]

/-- The statement opens no quotes but those of its names, if no definition does. -/
theorem lacks_createTable (table : TableName) {columns : List Column} (keys : List String)
    (h : ∀ column ∈ columns, Sql.Lacks [backquote] column.definition) :
    (createTable table columns keys).sql.Lacks [backquote] := by
  have hcolumns : ∀ line ∈ columnLines columns, line.Lacks [backquote] := by
    intro line hline
    obtain ⟨column, hcolumn, rfl⟩ := List.mem_map.mp hline
    simp +decide [h column hcolumn, lacks_blanksTo]
  have hkeys : ∀ line ∈ keyLines keys, line.Lacks [backquote] := by
    intro line hline
    unfold keyLines at hline
    split at hline
    · cases hline
    · obtain rfl := List.mem_singleton.mp hline
      simp +decide [SqlText.lacks_nameList]
  have hlines :
      (SqlText.joined "\n,   " (columnLines columns ++ keyLines keys)).Lacks [backquote] :=
    SqlText.Lacks.joined (by decide) fun line hline =>
      (List.mem_append.mp hline).elim (hcolumns line) (hkeys line)
  simp +decide [sql, TableName.sql, hlines]

/-- The outline of the statement is settled by the number of keys, too. -/
theorem tableOutline_congr {keys keys' : List String} (h : keys.length = keys'.length) :
    tableOutline keys = tableOutline keys' := by
  funext definitions
  cases definitions with
  | nil => rfl
  | cons definition rest => rw [tableOutline, tableOutline, keysOutline_congr h]

/-- Statements look alike only if the definitions and what follows them do. -/
theorem rowsOutline_of_tableOutline {keys : List String} {first first' : String}
    {rest rest' : List String}
    (h : closeUp false (tableOutline keys (first :: rest)) =
      closeUp false (tableOutline keys (first' :: rest'))) :
    closeUp true (first.toList.map some ++ rowsOutline (keysOutline keys) rest) =
      closeUp true (first'.toList.map some ++ rowsOutline (keysOutline keys) rest') := by
  have hhead (behind : List (Option Char)) :
      closeUp false (SqlText.outline (headSql ⟨"", ""⟩) ++ none :: behind) =
        closeUp false (SqlText.outline (headSql ⟨"", ""⟩)) ++ none :: closeUp true behind := rfl
  rw [tableOutline, tableOutline, hhead, hhead] at h
  exact (List.cons.inj (List.append_cancel_left h)).2

end Statement

namespace SchemaField

/-- Fields that differ in names only and have the same names of nested fields have the same
definitions. -/
theorem definitions_eq {fields others : List SchemaField}
    (hunnamed : fields.map unnamed = others.map unnamed)
    (hnames : fields.map nestedNames = others.map nestedNames) :
    (fields.map fun field => field.definitionSql.bare) =
      others.map fun other => other.definitionSql.bare := by
  induction fields generalizing others with
  | nil =>
    obtain rfl := List.map_eq_nil_iff.mp hunnamed.symm
    rfl
  | cons field fields ih =>
    obtain ⟨other, others, rfl, hfirst, hrest⟩ := List.map_eq_cons_iff.mp hunnamed.symm
    obtain ⟨hequal, hothers⟩ := List.cons.inj hnames
    have hdefinition : field.definitionSql = other.definitionSql :=
      (alike_definitionSql hfirst.symm).eq
        (by rw [names_definitionSql, names_definitionSql, hequal])
    rw [List.map_cons, hdefinition, ih hrest.symm hothers]
    rfl

/-- Whether the names of nested fields are without blanks. -/
def Unbroken (field : SchemaField) : Prop := ∀ name ∈ field.nestedNames, ' ' ∉ name.toList

instance (field : SchemaField) : Decidable field.Unbroken :=
  inferInstanceAs (Decidable (∀ name ∈ field.nestedNames, ' ' ∉ name.toList))

/-- Lines whose fields differ in names only look alike only if the names of their nested fields
agree, where these have no blanks. -/
theorem nestedNames_of_line {field other : SchemaField} {behind behind' : List (Option Char)}
    (hunnamed : field.unnamed = other.unnamed)
    (hnames : field.Unbroken) (hnames' : other.Unbroken)
    (h : closeUp true (field.definitionSql.bare.toList.map some ++ some '\n' :: behind) =
      closeUp true (other.definitionSql.bare.toList.map some ++ some '\n' :: behind')) :
    field.nestedNames = other.nestedNames ∧ closeUp false behind = closeUp false behind' := by
  have halike := alike_definitionSql hunnamed
  have htype : field.type = other.type := by
    have hkept := congrArg type hunnamed
    cases field
    cases other
    exact hkept
  by_cases hstruct : isStruct (field.type.getD "") = true
  · -- No blank behind the hole is left out, so the names can be read off.
    obtain ⟨c, hc, hblank⟩ := head_definitionSql hstruct
    obtain ⟨c', hc', hblank'⟩ := head_definitionSql (htype ▸ hstruct)
    rw [closeUp_text_behind hc hblank, closeUp_text_behind hc' hblank'] at h
    rw [Unbroken, ← names_definitionSql] at hnames hnames'
    obtain ⟨hequal, hbehind⟩ := halike.names_eq (spaced_definitionSql field)
      (spaced_definitionSql other) hnames hnames' h
    rw [names_definitionSql, names_definitionSql] at hequal
    exact ⟨hequal, (List.cons.inj hbehind).2⟩
  · have hnone : field.nestedNames = [] := by rw [nestedNames_eq, if_neg hstruct]
    have hnone' : other.nestedNames = [] := by rw [nestedNames_eq, if_neg (htype ▸ hstruct)]
    rw [halike.eq (by rw [names_definitionSql, names_definitionSql, hnone, hnone'])] at h
    exact ⟨hnone.trans hnone'.symm, closeUp_line h⟩

/-- So it is for any number of lines. -/
theorem nestedNames_of_lines {field other : SchemaField} {fields others : List SchemaField}
    {tail : List (Option Char)} (hunnamed : field.unnamed = other.unnamed)
    (hrest : fields.map unnamed = others.map unnamed)
    (hnames : ∀ given ∈ field :: fields, given.Unbroken)
    (hnames' : ∀ given ∈ other :: others, given.Unbroken)
    (h : closeUp true (field.definitionSql.bare.toList.map some ++
        Statement.rowsOutline (some '\n' :: tail)
          (fields.map fun field => field.definitionSql.bare)) =
      closeUp true (other.definitionSql.bare.toList.map some ++
        Statement.rowsOutline (some '\n' :: tail)
          (others.map fun other => other.definitionSql.bare))) :
    (field :: fields).map nestedNames = (other :: others).map nestedNames := by
  rw [List.forall_mem_cons] at hnames hnames'
  induction fields generalizing field other others with
  | nil =>
    obtain rfl := List.map_eq_nil_iff.mp hrest.symm
    rw [List.map_singleton, List.map_singleton,
      (nestedNames_of_line hunnamed hnames.1 hnames'.1 h).1]
  | cons next fields ih =>
    obtain ⟨next', others, rfl, hnext, hrest⟩ := List.map_eq_cons_iff.mp hrest.symm
    obtain ⟨hfirst, hbehind⟩ := nestedNames_of_line hunnamed hnames.1 hnames'.1 h
    have hlines := Statement.row_of_closeUp hbehind
    rw [List.map_cons, hfirst, ih hnext.symm hrest.symm (List.forall_mem_cons.mp hnames.2)
      (List.forall_mem_cons.mp hnames'.2) hlines]
    rfl

end SchemaField

namespace Statement

/-- A statement that creates a table is made of its name, its columns and its keys. -/
theorem eq_of_create {definition : TableDefinition} {statement : Statement}
    (h : create definition = .ok statement) :
    definition.columns.columns ≠ [] ∧ statement =
      createTable definition.name definition.columns.columns definition.primaryKeys := by
  unfold create at h
  split at h
  · cases h
  · next hempty =>
    exact ⟨fun hnil => hempty (List.isEmpty_iff.mpr hnil), (Except.ok.inj h).symm⟩

/-- The definition of a column is plain text. -/
theorem exists_outside_of_mem (table : TableName) {columns : List Column} (keys : List String)
    {column : Column} (h : column ∈ columns) :
    ∃ content ∈ (createTable table columns keys).sql.outside,
      column.definition.toList <:+: content.toList := by
  obtain ⟨padding, hline⟩ : ∃ padding,
      [.name column.name, .text (padding ++ " " ++ column.definition)] ∈
        columnLines columns ++ keyLines keys :=
    ⟨_, List.mem_append_left _ (List.mem_map.mpr ⟨column, h, rfl⟩)⟩
  have hpiece : Piece.text (padding ++ " " ++ column.definition) ∈
      (createTable table columns keys).sql := by
    rw [sql]
    exact List.mem_append_left _ (List.mem_append_right _
      (SqlText.mem_joined hline (List.mem_cons_of_mem _ List.mem_cons_self)))
  refine ⟨_, List.mem_filterMap.mpr ⟨_, hpiece, rfl⟩, ?_⟩
  rw [String.toList_append]
  exact (List.suffix_append _ _).isInfix

/-- A statement creates a table whose columns come from fields. -/
structure CreatesFrom (fields : List SchemaField) (definition : TableDefinition)
    (statement : Statement) : Prop where
  columns : fields.mapM SchemaField.column = .ok definition.columns.columns
  created : create definition = .ok statement

namespace CreatesFrom

variable {fields others : List SchemaField} {definition definition' : TableDefinition}
  {statement statement' : Statement}

/-- The outline of the statement is that of the fields in pieces. -/
theorem looseOutline_eq (h : CreatesFrom fields definition statement) :
    statement.sql.looseOutline = closeUp false (tableOutline definition.primaryKeys
      (fields.map fun field => field.definitionSql.bare)) := by
  obtain ⟨hsome, rfl⟩ := eq_of_create h.created
  rw [looseOutline_createTable _ _ hsome,
    map_of_mapM (fun _ _ => SchemaField.definition_of_column) h.columns]

/-- The statement quotes the names of the table, of the fields and of the keys. -/
theorem names_eq (h : CreatesFrom fields definition statement) :
    statement.sql.names = [definition.name.dataset, definition.name.table] ++
      fields.map (fun field => field.name.getD "") ++ definition.primaryKeys := by
  obtain ⟨-, rfl⟩ := eq_of_create h.created
  have hnames : definition.columns.columns.map Column.name =
      fields.map fun field => field.name.getD "" :=
    map_of_mapM (fun field column hcolumn => by rw [SchemaField.name_of_column hcolumn]; rfl)
      h.columns
  rw [names_createTable, hnames]

/-- The names of nested fields stand in its plain text. -/
theorem exists_outside (h : CreatesFrom fields definition statement) {field : SchemaField}
    (hfield : field ∈ fields) {name : String} (hname : name ∈ field.nestedNames) :
    ∃ content ∈ statement.sql.outside, name.toList <:+: content.toList := by
  obtain ⟨-, rfl⟩ := eq_of_create h.created
  obtain ⟨column, hmem, hcolumn⟩ := exists_mem_of_mapM h.columns hfield
  obtain ⟨content, hcontent, hinfix⟩ :=
    exists_outside_of_mem definition.name definition.primaryKeys hmem
  rw [SchemaField.definition_of_column hcolumn] at hinfix
  rw [← SchemaField.names_definitionSql] at hname
  exact ⟨content, hcontent, (SqlText.infix_bare hname).trans hinfix⟩

/-- Where names of nested fields agree as well as all that is no name, the outlines do. -/
theorem looseOutline_congr (h : CreatesFrom fields definition statement)
    (hother : CreatesFrom others definition' statement')
    (hunnamed : fields.map SchemaField.unnamed = others.map SchemaField.unnamed)
    (hkeys : definition.primaryKeys.length = definition'.primaryKeys.length)
    (hnames : fields.map SchemaField.nestedNames = others.map SchemaField.nestedNames) :
    statement.sql.looseOutline = statement'.sql.looseOutline := by
  rw [h.looseOutline_eq, hother.looseOutline_eq, tableOutline_congr hkeys,
    SchemaField.definitions_eq hunnamed hnames]

/-- Names of nested fields that have no blanks can be read off the outline. -/
theorem nestedNames_eq (h : CreatesFrom fields definition statement)
    (hother : CreatesFrom others definition' statement')
    (hunnamed : fields.map SchemaField.unnamed = others.map SchemaField.unnamed)
    (hkeys : definition.primaryKeys.length = definition'.primaryKeys.length)
    (hfields : ∀ field ∈ fields, field.Unbroken) (hothers : ∀ other ∈ others, other.Unbroken)
    (houtline : statement.sql.looseOutline = statement'.sql.looseOutline) :
    fields.map SchemaField.nestedNames = others.map SchemaField.nestedNames := by
  rw [h.looseOutline_eq, hother.looseOutline_eq, tableOutline_congr hkeys] at houtline
  cases fields with
  | nil =>
    obtain rfl := List.map_eq_nil_iff.mp hunnamed.symm
    rfl
  | cons field fields =>
    obtain ⟨other, others, rfl, hfirst, hrest⟩ := List.map_eq_cons_iff.mp hunnamed.symm
    have hlines := rowsOutline_of_tableOutline houtline
    obtain ⟨tail, htail⟩ := exists_keysOutline definition'.primaryKeys
    rw [htail] at hlines
    exact SchemaField.nestedNames_of_lines hfirst.symm hrest.symm hfields hothers hlines

end CreatesFrom

/-- Only the names of the columns are quoted when a table is created from fields, with those of the
table and its keys. The names of nested fields stand in the plain text. So statements for fields
that differ in names only have the same text outside of quotes, up to the blanks that align it, if
the names of nested fields agree; and only if they do, where these have no blanks. -/
theorem nested_names_plain {fields : List SchemaField} {definition : TableDefinition}
    {statement : Statement} (h : CreatesFrom fields definition statement) :
    ((∀ column ∈ definition.columns.columns, Sql.Lacks [backquote] column.definition) →
      lex statement.text.toList = some statement.sql.lexemes) ∧
    statement.sql.names = [definition.name.dataset, definition.name.table] ++
      fields.map (fun field => field.name.getD "") ++ definition.primaryKeys ∧
    (∀ field ∈ fields, ∀ name ∈ field.nestedNames,
      ∃ content ∈ statement.sql.outside, name.toList <:+: content.toList) ∧
    ∀ {others : List SchemaField} {definition' : TableDefinition} {statement' : Statement},
      CreatesFrom others definition' statement' →
        fields.map SchemaField.unnamed = others.map SchemaField.unnamed →
          definition.primaryKeys.length = definition'.primaryKeys.length →
            (fields.map SchemaField.nestedNames = others.map SchemaField.nestedNames →
              statement.sql.looseOutline = statement'.sql.looseOutline) ∧
            ((∀ field ∈ fields, field.Unbroken) → (∀ other ∈ others, other.Unbroken) →
              statement.sql.looseOutline = statement'.sql.looseOutline →
                fields.map SchemaField.nestedNames = others.map SchemaField.nestedNames) := by
  refine ⟨fun hlacks => ?_, h.names_eq, fun field hfield name => h.exists_outside hfield,
    fun hother hunnamed hkeys => ⟨h.looseOutline_congr hother hunnamed hkeys,
      h.nestedNames_eq hother hunnamed hkeys⟩⟩
  obtain ⟨-, rfl⟩ := eq_of_create h.created
  have hlex :=
    SqlText.lex_render (lacks_createTable definition.name definition.primaryKeys hlacks) []
  rw [List.append_nil] at hlex
  rw [text, hlex, lex, Option.map_some, List.append_nil]

/-- A record with one whole number. -/
def numberRecord (name : String) : SchemaField :=
  ⟨some "r", some "RECORD", "NULLABLE", none, none, none, none,
    [⟨some name, some "INTEGER", "NULLABLE", none, none, none, none, [], .null⟩], .null⟩

/-- A table of such records. -/
def numberTable (name : String) : TableDefinition where
  name := ⟨"data", "report"⟩
  columns := ⟨[⟨"r", "STRUCT", some (name ++ " INT64"), .flag true, none, none⟩], rfl⟩
  primaryKeys := []
  temporary := false
  rows := none
  bytes := none
  keys_known := rfl

/-- A number with a reserved word for its name is written without quotes, and shows. -/
theorem nested_names_plain_reserved :
    ∃ statement statement',
      CreatesFrom [numberRecord "select"] (numberTable "select") statement ∧
      CreatesFrom [numberRecord "a"] (numberTable "a") statement' ∧
      statement.text =
        "CREATE TABLE \x60data\x60.\x60report\x60 (\n    \x60r\x60 STRUCT<select INT64>\n)" ∧
      statement.sql.names = ["data", "report", "r"] ∧
      statement.sql.looseOutline ≠ statement'.sql.looseOutline := by
  have hselect : CreatesFrom [numberRecord "select"] (numberTable "select")
      (createTable ⟨"data", "report"⟩ (numberTable "select").columns.columns []) := ⟨rfl, rfl⟩
  have ha : CreatesFrom [numberRecord "a"] (numberTable "a")
      (createTable ⟨"data", "report"⟩ (numberTable "a").columns.columns []) := ⟨rfl, rfl⟩
  obtain ⟨-, hnames, -, hothers⟩ := nested_names_plain hselect
  obtain ⟨-, honly⟩ := hothers ha rfl rfl
  refine ⟨_, _, hselect, ha, by decide, hnames, fun houtline => ?_⟩
  have hequal := honly (by decide) (by decide) houtline
  exact absurd hequal (by decide)

end Statement

end WarehouseImport
