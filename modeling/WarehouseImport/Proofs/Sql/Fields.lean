import WarehouseImport.Proofs.Definitions
import WarehouseImport.Proofs.Sql.Lexing

/-!
# The types of fields in pieces

The type of a column is stored as one text. For a nested type the text holds the names of the nested
fields as they are, without quotes. Here the text is taken apart again: the type of a field in
pieces has a piece for every name in it, and the stored text is what the pieces give when nothing is
quoted.

Fields that differ in names only have types that differ in the pieces of names only. Behind every
such piece stands a blank, so names without blanks can be read off the text.
-/

namespace WarehouseImport

open WarehouseImport.Sql

/-- What a piece says, without quotes around a name. -/
def Sql.Piece.content : Piece → String
  | text content => content
  | name content => content

namespace SqlText

variable {sql other left right : SqlText}

/-- The text of pieces without quotes around their names. -/
def bare (sql : SqlText) : String := String.join (sql.map Piece.content)

@[simp]
theorem bare_nil : bare [] = "" := rfl

@[simp]
theorem toList_bare_cons (piece : Piece) (sql : SqlText) :
    (bare (piece :: sql)).toList = piece.content.toList ++ (bare sql).toList := by
  simp [bare, String.toList_join]

theorem bare_append (left right : SqlText) : bare (left ++ right) = bare left ++ bare right := by
  rw [← String.toList_inj]
  simp [bare, String.toList_join]

theorem bare_cons (piece : Piece) (sql : SqlText) :
    bare (piece :: sql) = piece.content ++ bare sql := by
  rw [← String.toList_inj, toList_bare_cons, String.toList_append]

/-- A name stands in the bare text. -/
theorem infix_bare {name : String} (h : name ∈ names sql) : name.toList <:+: (bare sql).toList := by
  induction sql with
  | nil => cases h
  | cons piece rest ih =>
    rw [toList_bare_cons]
    cases piece with
    | text content => exact (ih h).trans (List.suffix_append _ _).isInfix
    | name content =>
      rcases List.mem_cons.mp h with rfl | hrest
      · exact (List.prefix_append _ _).isInfix
      · exact (ih hrest).trans (List.suffix_append _ _).isInfix

/-- Texts are alike if they have the same plain pieces and names in the same places. -/
inductive Alike : SqlText → SqlText → Prop where
  | nil : Alike [] []
  | text (content : String) {rest rest' : SqlText} (h : Alike rest rest') :
      Alike (.text content :: rest) (.text content :: rest')
  | name (content content' : String) {rest rest' : SqlText} (h : Alike rest rest') :
      Alike (.name content :: rest) (.name content' :: rest')

/-- Texts are alike if their plain pieces agree, with a hole for every name. -/
theorem alike_of_holes (h : holes sql = holes other) : Alike sql other := by
  induction sql generalizing other with
  | nil =>
    obtain rfl := List.map_eq_nil_iff.mp h.symm
    exact .nil
  | cons piece rest ih =>
    obtain ⟨piece', rest', rfl, hpiece, hrest⟩ := List.map_eq_cons_iff.mp h.symm
    cases piece with
    | text content =>
      cases piece' with
      | text content' =>
        obtain rfl := Option.some.inj hpiece
        exact .text content' (ih hrest.symm)
      | name content' => cases hpiece
    | name content =>
      cases piece' with
      | text content' => cases hpiece
      | name content' => exact .name content content' (ih hrest.symm)

/-- Texts that are alike and have the same names are equal. -/
theorem Alike.eq (h : Alike sql other) (hnames : names sql = names other) : sql = other := by
  induction h with
  | nil => rfl
  | text content _ ih => rw [ih hnames]
  | name content content' _ ih =>
    rw [names_name_cons, names_name_cons] at hnames
    obtain ⟨rfl, hrest⟩ := List.cons.inj hnames
    rw [ih hrest]

/-- Behind every name stands a blank. -/
def Spaced : SqlText → Prop
  | [] => True
  | .text _ :: rest => Spaced rest
  | .name _ :: rest => (∃ others, rest = .text " " :: others) ∧ Spaced rest

theorem Spaced.append (hleft : Spaced left) (hright : Spaced right) : Spaced (left ++ right) := by
  induction left with
  | nil => exact hright
  | cons piece rest ih =>
    cases piece with
    | text content => exact ih hleft
    | name content =>
      obtain ⟨⟨others, rfl⟩, hrest⟩ := hleft
      exact ⟨⟨others ++ right, rfl⟩, ih hrest⟩

/-- What stands in front of the first mark of a list is settled by the list. -/
theorem eq_of_append_mark {α : Type} {mark : α} {name name' behind behind' : List α}
    (hname : mark ∉ name) (hname' : mark ∉ name')
    (h : name ++ mark :: behind = name' ++ mark :: behind') : name = name' ∧ behind = behind' := by
  induction name generalizing name' with
  | nil =>
    cases name' with
    | nil => exact ⟨rfl, (List.cons.inj h).2⟩
    | cons c rest => exact absurd (List.cons.inj h).1 fun hc => hname' (hc ▸ List.mem_cons_self)
  | cons c rest ih =>
    cases name' with
    | nil => exact absurd (List.cons.inj h).1 fun hc => hname (hc ▸ List.mem_cons_self)
    | cons c' rest' =>
      obtain ⟨rfl, hrest⟩ := List.cons.inj h
      obtain ⟨rfl, hbehind⟩ := ih (fun hmem => hname (List.mem_cons_of_mem _ hmem))
        (fun hmem => hname' (List.mem_cons_of_mem _ hmem)) hrest
      exact ⟨rfl, hbehind⟩

/-- Names without blanks are settled by the bare text, whatever stands behind it. -/
theorem Alike.names_eq {behind behind' : List (Option Char)} (h : Alike sql other)
    (hsql : Spaced sql) (hother : Spaced other) (hnames : ∀ name ∈ names sql, ' ' ∉ name.toList)
    (hnames' : ∀ name ∈ names other, ' ' ∉ name.toList)
    (hbare : (bare sql).toList.map some ++ behind = (bare other).toList.map some ++ behind') :
    names sql = names other ∧ behind = behind' := by
  induction h with
  | nil => exact ⟨rfl, hbare⟩
  | text content _ ih =>
    simp only [toList_bare_cons, List.map_append, List.append_assoc] at hbare
    exact ih hsql hother hnames hnames' (List.append_cancel_left hbare)
  | name content content' _ ih =>
    -- The blanks behind both names end them.
    obtain ⟨⟨others, rfl⟩, hsql⟩ := hsql
    obtain ⟨⟨others', rfl⟩, hother⟩ := hother
    rw [names_name_cons, List.forall_mem_cons] at hnames hnames'
    simp only [toList_bare_cons, Piece.content, List.map_append, List.append_assoc] at hbare
    have hmark : some ' ' ∉ content.toList.map some := by simpa using hnames.1
    have hmark' : some ' ' ∉ content'.toList.map some := by simpa using hnames'.1
    obtain ⟨hcontent, hrest⟩ := eq_of_append_mark hmark hmark' hbare
    obtain ⟨hothers, hbehind⟩ := ih hsql hother hnames.2 hnames'.2 (by
      simp only [toList_bare_cons, Piece.content, List.map_append, List.append_assoc]
      exact congrArg (some ' ' :: ·) hrest)
    have hequal : content = content' :=
      String.toList_inj.mp ((List.map_inj_right fun _ _ => Option.some.inj).mp hcontent)
    rw [names_name_cons, names_name_cons, hothers, hequal]
    exact ⟨rfl, hbehind⟩

end SqlText

namespace SchemaField

mutual

/-- The names of the fields that a field is made of, at every depth. -/
def nestedNames : SchemaField → List String
  | ⟨_, type, _, _, _, _, _, fields, _⟩ => if isStruct (type.getD "") then fieldNames fields else []

/-- The names of fields and of those that they are made of. -/
def fieldNames : List SchemaField → List String
  | [] => []
  | field :: rest => field.name.getD "" :: (nestedNames field ++ fieldNames rest)

end

mutual

/-- The field without names at any depth, and without its description, which repeats them. -/
def unnamed : SchemaField → SchemaField
  | ⟨_, type, mode, maxLength, precision, scale, default, fields, _⟩ =>
    ⟨none, type, mode, maxLength, precision, scale, default, allUnnamed fields, .null⟩

/-- Fields without names. -/
def allUnnamed : List SchemaField → List SchemaField
  | [] => []
  | field :: rest => unnamed field :: allUnnamed rest

end

/-- The type of a field or of its elements, with the pieces of its fields if it is made of any. -/
def elementSql (type : String) (length : Option String) (nested : SqlText) : SqlText :=
  if isStruct type then
    if nested.isEmpty then [.text "STRUCT"] else .text "STRUCT<" :: nested ++ [.text ">"]
  else [.text (DataType.written (DataType.kept type) length)]

/-- The type of a field whose elements have a type. -/
def repeatedSql (mode : String) (element : SqlText) : SqlText :=
  if mode = "REPEATED" then .text "ARRAY<" :: element ++ [.text ">"] else element

mutual

/-- The type of a field in pieces. -/
def typeSql : SchemaField → SqlText
  | ⟨name, type, mode, maxLength, precision, scale, default, fields, document⟩ =>
    repeatedSql mode (elementSql (type.getD "")
      (scalarLength ⟨name, type, mode, maxLength, precision, scale, default, [], document⟩)
      (fieldsSql fields))

/-- Fields with their types in pieces. -/
def fieldsSql : List SchemaField → SqlText
  | [] => []
  | field :: rest =>
    .name (field.name.getD "") :: .text " " ::
      (typeSql field ++ if rest.isEmpty then [] else .text ", " :: fieldsSql rest)

end

/-- The type of a field by its parts. -/
theorem typeSql_eq (field : SchemaField) : field.typeSql =
    repeatedSql field.mode
      (elementSql (field.type.getD "") field.scalarLength (fieldsSql field.fields)) := by
  cases field
  rfl

/-- The names in a field by its parts. -/
theorem nestedNames_eq (field : SchemaField) : field.nestedNames =
    if isStruct (field.type.getD "") then fieldNames field.fields else [] := by
  cases field
  rfl

theorem names_elementSql (type : String) (length : Option String) (nested : SqlText) :
    (elementSql type length nested).names = if isStruct type then nested.names else [] := by
  unfold elementSql
  split
  · split
    · next hempty =>
      rw [List.isEmpty_iff.mp hempty]
      rfl
    · simp
  · rfl

theorem names_repeatedSql (mode : String) (element : SqlText) :
    (repeatedSql mode element).names = element.names := by
  unfold repeatedSql
  split <;> simp

mutual

/-- The names in the type of a field are those of its nested fields. -/
theorem names_typeSql : (field : SchemaField) → field.typeSql.names = field.nestedNames
  | ⟨name, type, mode, maxLength, precision, scale, default, fields, document⟩ => by
    rw [typeSql, nestedNames, names_repeatedSql, names_elementSql, names_fieldsSql fields]

/-- Fields in pieces have their names and those of their nested fields. -/
theorem names_fieldsSql : (fields : List SchemaField) → (fieldsSql fields).names = fieldNames fields
  | [] => rfl
  | field :: rest => by
    have hrest : SqlText.names (if rest.isEmpty then [] else .text ", " :: fieldsSql rest) =
        fieldNames rest := by
      rw [← names_fieldsSql rest]
      split
      · next hempty =>
        rw [List.isEmpty_iff.mp hempty]
        rfl
      · rfl
    rw [fieldsSql, fieldNames, SqlText.names_name_cons, SqlText.names_text_cons,
      SqlText.names_append, names_typeSql field, hrest]

end

/-- Elements are alike if their fields are. -/
theorem holes_elementSql (type : String) (length : Option String) {nested nested' : SqlText}
    (h : nested.holes = nested'.holes) :
    (elementSql type length nested).holes = (elementSql type length nested').holes := by
  have hempty : nested.isEmpty = nested'.isEmpty := by
    have hlength := congrArg List.length h
    rw [SqlText.holes, SqlText.holes, List.length_map, List.length_map] at hlength
    exact SqlText.isEmpty_eq_of_length_eq hlength
  unfold elementSql
  split
  · rw [hempty]
    split
    · rfl
    · rw [List.cons_append, List.cons_append]
      have hbehind : (nested ++ [Piece.text ">"]).holes = (nested' ++ [Piece.text ">"]).holes := by
        rw [SqlText.holes_append, SqlText.holes_append, h]
      exact congrArg (some "STRUCT<" :: ·) hbehind
  · rfl

theorem holes_repeatedSql (mode : String) {element element' : SqlText}
    (h : element.holes = element'.holes) :
    (repeatedSql mode element).holes = (repeatedSql mode element').holes := by
  unfold repeatedSql
  split
  · have hbehind : (element ++ [Piece.text ">"]).holes = (element' ++ [Piece.text ">"]).holes := by
      rw [SqlText.holes_append, SqlText.holes_append, h]
    exact congrArg (some "ARRAY<" :: ·) hbehind
  · exact h

mutual

/-- Names leave no other trace in the type of a field. -/
theorem holes_typeSql : (field : SchemaField) → field.typeSql.holes = field.unnamed.typeSql.holes
  | ⟨name, type, mode, maxLength, precision, scale, default, fields, document⟩ => by
    rw [typeSql, unnamed, typeSql]
    exact holes_repeatedSql mode (holes_elementSql _ _ (holes_fieldsSql fields))

/-- Nor do they in fields with their types. -/
theorem holes_fieldsSql : (fields : List SchemaField) →
    (fieldsSql fields).holes = (fieldsSql (allUnnamed fields)).holes
  | [] => rfl
  | [field] => by
    have hfield := holes_typeSql field
    rw [fieldsSql, allUnnamed, fieldsSql]
    refine congrArg (none :: some " " :: ·) ?_
    change SqlText.holes (typeSql field ++ []) = SqlText.holes (typeSql field.unnamed ++ [])
    rw [List.append_nil, List.append_nil, hfield]
  | field :: next :: rest => by
    have hfield := holes_typeSql field
    have hrest := holes_fieldsSql (next :: rest)
    rw [fieldsSql, allUnnamed, fieldsSql]
    refine congrArg (none :: some " " :: ·) ?_
    change SqlText.holes (typeSql field ++ .text ", " :: fieldsSql (next :: rest)) =
      SqlText.holes (typeSql field.unnamed ++ .text ", " :: fieldsSql (allUnnamed (next :: rest)))
    rw [SqlText.holes_append, SqlText.holes_append, hfield]
    exact congrArg (_ ++ some ", " :: ·) hrest

end

theorem spaced_elementSql (type : String) (length : Option String) {nested : SqlText}
    (h : nested.Spaced) : (elementSql type length nested).Spaced := by
  unfold elementSql
  split
  · split
    · trivial
    · have hopened : SqlText.Spaced (.text "STRUCT<" :: nested) := h
      exact hopened.append trivial
  · trivial

theorem spaced_repeatedSql (mode : String) {element : SqlText} (h : element.Spaced) :
    (repeatedSql mode element).Spaced := by
  unfold repeatedSql
  split
  · have hopened : SqlText.Spaced (.text "ARRAY<" :: element) := h
    exact hopened.append trivial
  · exact h

mutual

/-- Behind every name in the type of a field stands a blank. -/
theorem spaced_typeSql : (field : SchemaField) → field.typeSql.Spaced
  | ⟨name, type, mode, maxLength, precision, scale, default, fields, document⟩ => by
    rw [typeSql]
    exact spaced_repeatedSql mode (spaced_elementSql _ _ (spaced_fieldsSql fields))

/-- So it does in fields with their types. -/
theorem spaced_fieldsSql : (fields : List SchemaField) → (fieldsSql fields).Spaced
  | [] => trivial
  | field :: rest => by
    rw [fieldsSql]
    refine ⟨⟨_, rfl⟩, SqlText.Spaced.append (spaced_typeSql field) ?_⟩
    split
    · trivial
    · exact spaced_fieldsSql rest

end

end SchemaField

/-- A column that is made from a type and a length has the written type of the two, and its default
and null as they are described. -/
theorem ColumnSpec.definition_of_check {spec : ColumnSpec} {column : Column} {type : String}
    {length : Option String} {nullable : Bool} (h : spec.check = .ok column)
    (htype : spec.type = .str type) (hlength : spec.length = (length.map Json.str).getD .null)
    (hnullable : spec.nullable = .bool nullable) :
    column.writtenType = DataType.written (DataType.kept type) length ∧
      DataType.kept type ≠ "" ∧ column.default = spec.default ∧
      column.nullable = .flag nullable := by
  obtain ⟨name, _, _, _, default, arrayField⟩ := spec
  obtain rfl : _ = Json.str type := htype
  obtain rfl : _ = (length.map Json.str).getD .null := hlength
  obtain rfl : _ = Json.bool nullable := hnullable
  obtain ⟨name, -, h⟩ := bind_eq_ok.mp h
  obtain ⟨given, hgiven, h⟩ := bind_eq_ok.mp h
  obtain ⟨limit, hlimit, h⟩ := bind_eq_ok.mp h
  obtain ⟨allowed, hallowed, h⟩ := bind_eq_ok.mp h
  obtain rfl := Except.ok.inj hallowed
  rw [← Except.ok.inj h]
  have hkept : DataType.kept type ≠ "" ∧ given = DataType.kept type := by
    change requiredText (.str (DataType.kept type)) = _ at hgiven
    simp only [requiredText] at hgiven
    split at hgiven
    · cases hgiven
    · next hempty =>
      exact ⟨by simpa [String.isEmpty_iff] using hempty, (Except.ok.inj hgiven).symm⟩
  refine ⟨?_, hkept.1, rfl, rfl⟩
  rw [Column.writtenType, hkept.2]
  cases length with
  | none => rw [← Except.ok.inj hlimit]
  | some text =>
    change Except.ok (if text.isEmpty then none else some text) = _ at hlimit
    rw [← Except.ok.inj hlimit]
    split
    · next hempty => rw [String.isEmpty_iff.mp hempty]; rfl
    · rfl

namespace DataType

/-- A nested type is written with its parts, unless there are none. -/
theorem written_nested {type inner : String} (hnested : isNested type = true) :
    written type (some inner) = if inner.isEmpty then type else type ++ "<" ++ inner ++ ">" := by
  simp [written, hnested]

/-- The nested type is kept as it is. -/
theorem kept_struct : kept "STRUCT" = "STRUCT" := by decide

/-- A type is never written as nothing. -/
theorem written_ne_empty {type : String} (h : type ≠ "") (length : Option String) :
    written type length ≠ "" := by
  unfold written
  repeat' split
  all_goals simp [h]

end DataType

namespace SchemaField

/-- What stands behind the type of a field in its definition. -/
def ending (field : SchemaField) : String :=
  (match field.default with
    | some value => " DEFAULT " ++ value.shown
    | none => "") ++
  (if field.mode = "REQUIRED" then " NOT NULL" else "")

/-- The definition of a field in pieces. -/
def definitionSql (field : SchemaField) : SqlText := field.typeSql ++ [.text field.ending]

theorem names_definitionSql (field : SchemaField) :
    field.definitionSql.names = field.nestedNames := by
  rw [definitionSql, SqlText.names_append, names_typeSql]
  exact List.append_nil _

theorem spaced_definitionSql (field : SchemaField) : field.definitionSql.Spaced :=
  (spaced_typeSql field).append trivial

/-- The definitions of fields that differ in names only differ in the pieces of names only. -/
theorem alike_definitionSql {field other : SchemaField} (h : field.unnamed = other.unnamed) :
    SqlText.Alike field.definitionSql other.definitionSql := by
  have hending : field.unnamed.ending = other.unnamed.ending := congrArg ending h
  have hkept (field : SchemaField) : field.unnamed.ending = field.ending := by
    cases field
    rfl
  rw [hkept, hkept] at hending
  apply SqlText.alike_of_holes
  rw [definitionSql, definitionSql, SqlText.holes_append, SqlText.holes_append, holes_typeSql, h,
    ← holes_typeSql, hending]

/-- The definition of a field that is made of fields does not begin with a blank. -/
theorem head_definitionSql {field : SchemaField} (h : isStruct (field.type.getD "") = true) :
    ∃ c, field.definitionSql.bare.toList.head? = some c ∧ c ≠ ' ' := by
  have hsome : ∃ content rest, field.definitionSql = .text content :: rest ∧
      (content = "STRUCT" ∨ content = "STRUCT<" ∨ content = "ARRAY<") := by
    rw [definitionSql, typeSql_eq, repeatedSql, elementSql, if_pos h]
    split
    · exact ⟨_, _, rfl, .inr (.inr rfl)⟩
    · split
      · exact ⟨_, _, rfl, .inl rfl⟩
      · exact ⟨_, _, rfl, .inr (.inl rfl)⟩
  obtain ⟨content, rest, heq, hcontent⟩ := hsome
  rw [heq, SqlText.toList_bare_cons, Piece.content]
  obtain rfl | rfl | rfl := hcontent
  · exact ⟨'S', rfl, by decide⟩
  · exact ⟨'S', rfl, by decide⟩
  · exact ⟨'A', rfl, by decide⟩

/-- The bare text of fields is empty if there are none. -/
theorem isEmpty_bare_fieldsSql (fields : List SchemaField) :
    (fieldsSql fields).bare.isEmpty = (fieldsSql fields).isEmpty := by
  cases fields with
  | nil => rfl
  | cons field rest =>
    rw [fieldsSql, SqlText.bare_cons, SqlText.bare_cons, Bool.eq_iff_iff, String.isEmpty_iff]
    simp [Piece.content]

/-- The type of elements as it is written. -/
theorem bare_elementSql_struct {type : String} (length : Option String) (fields : List SchemaField)
    (h : isStruct type = true) :
    (elementSql type length (fieldsSql fields)).bare =
      DataType.written "STRUCT" (some (fieldsSql fields).bare) := by
  rw [elementSql, if_pos h, DataType.written_nested rfl, isEmpty_bare_fieldsSql]
  split
  · rfl
  · rw [List.cons_append, SqlText.bare_cons, SqlText.bare_append, ← String.append_assoc]
    rfl

theorem bare_elementSql_scalar {type : String} (length : Option String) (nested : SqlText)
    (h : ¬isStruct type = true) :
    (elementSql type length nested).bare = DataType.written (DataType.kept type) length := by
  rw [elementSql, if_neg h, SqlText.bare_cons]
  simp [Piece.content]

/-- The column of a field has the type of its elements, and that of an array of them if the field is
repeated, and its default and null as they are described. -/
theorem parts_of_element {element : ColumnSpec} {made : Column} {type mode : String}
    {length : Option String} {default arrayField : Option Json}
    (htype : element.type = .str type) (hlength : element.length = (length.map Json.str).getD .null)
    (hnullable : element.nullable = .bool true)
    (h : (do
      let whole ←
        if mode = "REPEATED" then
          element.check.map fun column : Column =>
            { element with
              type := .str "ARRAY"
              length := .str column.writtenType
              arrayField := arrayField }
        else pure element
      ColumnSpec.check { whole with
        nullable := .bool (mode != "REQUIRED"), default := default }) = .ok made) :
    made.writtenType =
        (if mode = "REPEATED" then
          "ARRAY<" ++ DataType.written (DataType.kept type) length ++ ">"
        else DataType.written (DataType.kept type) length) ∧
      made.default = default ∧ made.nullable = .flag (mode != "REQUIRED") := by
  dsimp only at h
  split at h
  · next hmode =>
    obtain ⟨whole, hwhole, h⟩ := bind_eq_ok.mp h
    obtain ⟨column, hcolumn, rfl⟩ := map_eq_ok.mp hwhole
    obtain ⟨hwritten, hkept, -, -⟩ :=
      ColumnSpec.definition_of_check hcolumn htype hlength hnullable
    obtain ⟨harray, -, hdefault, hallowed⟩ := ColumnSpec.definition_of_check h rfl
      (show _ = ((some column.writtenType).map Json.str).getD .null from rfl) rfl
    have hsome : (DataType.written (DataType.kept type) length).isEmpty = false := by
      simpa [String.isEmpty_iff] using DataType.written_ne_empty hkept length
    refine ⟨?_, hdefault, hallowed⟩
    rw [if_pos hmode, harray, hwritten]
    change DataType.written "ARRAY" _ = _
    rw [DataType.written_nested rfl, hsome]
    rfl
  · next hmode =>
    obtain ⟨whole, hwhole, h⟩ := bind_eq_ok.mp h
    obtain rfl := Except.ok.inj hwhole
    obtain ⟨hwritten, -, hdefault, hallowed⟩ :=
      ColumnSpec.definition_of_check h htype hlength rfl
    exact ⟨by rw [if_neg hmode, hwritten], hdefault, hallowed⟩

/-- The type of a field whose elements have a type, without quotes. -/
theorem bare_repeatedSql (mode : String) (element : SqlText) :
    (repeatedSql mode element).bare =
      if mode = "REPEATED" then "ARRAY<" ++ element.bare ++ ">" else element.bare := by
  unfold repeatedSql
  split
  · rw [List.cons_append, SqlText.bare_cons, SqlText.bare_append, ← String.append_assoc]
    rfl
  · rfl

/-- The column of a field has the type that its pieces give without quotes, and default and null of
the field, if the definitions of its nested fields are what their pieces give. -/
theorem parts_of_column_of {field : SchemaField} {made : Column}
    (hfields : ∀ text, nestedDefinitions field.fields = .ok text →
      text = (fieldsSql field.fields).bare) (h : field.column = .ok made) :
    made.writtenType = field.typeSql.bare ∧ made.default = field.default ∧
      made.nullable = .flag (field.mode != "REQUIRED") := by
  obtain ⟨name, type, mode, maxLength, precision, scale, default, fields, document⟩ := field
  rw [typeSql_eq, bare_repeatedSql]
  cases type with
  | none => simp [column] at h
  | some type =>
    unfold column at h
    dsimp only at h hfields ⊢
    rw [Option.getD_some]
    by_cases hstruct : isStruct type = true
    · rw [if_pos hstruct] at h
      obtain ⟨nested, hnested, h⟩ := bind_eq_ok.mp h
      obtain ⟨text, htext, rfl⟩ := map_eq_ok.mp hnested
      rw [if_pos hstruct, if_pos hstruct, hfields text htext] at h
      have hparts := parts_of_element (show _ = Json.str "STRUCT" from rfl)
        (show _ = ((some (fieldsSql fields).bare).map Json.str).getD .null from rfl) rfl h
      rw [DataType.kept_struct, ← bare_elementSql_struct _ _ hstruct] at hparts
      exact hparts
    · rw [if_neg hstruct] at h
      obtain ⟨nested, hnested, h⟩ := bind_eq_ok.mp h
      rw [if_neg hstruct, if_neg hstruct] at h
      rw [bare_elementSql_scalar _ _ hstruct]
      exact parts_of_element (show _ = Json.str type from rfl) (show _ = Option.getD _ _ from rfl)
        rfl h

mutual

/-- The column of a field has the type that its pieces give without quotes, and default and null of
the field. -/
theorem parts_of_column : (field : SchemaField) → ∀ {column}, field.column = .ok column →
    column.writtenType = field.typeSql.bare ∧ column.default = field.default ∧
      column.nullable = .flag (field.mode != "REQUIRED")
  | ⟨_, _, _, _, _, _, _, fields, _⟩, _, h =>
    parts_of_column_of (fun _ htext => bare_fieldsSql fields htext) h

/-- The definitions of nested fields are what their pieces give without quotes. -/
theorem bare_fieldsSql : (fields : List SchemaField) → ∀ {text},
    nestedDefinitions fields = .ok text → text = (fieldsSql fields).bare
  | [], _, h => (Except.ok.inj h).symm
  | field :: rest, text, h => by
    unfold nestedDefinitions at h
    obtain ⟨head, hhead, h⟩ := bind_eq_ok.mp h
    obtain ⟨others, hothers, h⟩ := bind_eq_ok.mp h
    have hname : field.name.getD "" = head.name := by rw [name_of_column hhead]; rfl
    have htype := (parts_of_column field hhead).1
    have hrest := bare_fieldsSql rest hothers
    have hbehind : (if rest.isEmpty then [] else .text ", " :: fieldsSql rest : SqlText).bare =
        if rest.isEmpty then "" else ", " ++ others := by
      split
      · rfl
      · rw [hrest, SqlText.bare_cons]
        rfl
    rw [← Except.ok.inj h, fieldsSql, SqlText.bare_cons, SqlText.bare_cons, SqlText.bare_append,
      hname, ← htype, hbehind]
    split <;> simp [Piece.content, String.append_assoc]

end

/-- The definition of a field's column is what its pieces give without quotes. -/
theorem definition_of_column {field : SchemaField} {column : Column}
    (h : field.column = .ok column) : column.definition = field.definitionSql.bare := by
  obtain ⟨htype, hdefault, hnullable⟩ := parts_of_column field h
  have hending : (SqlText.bare [.text field.ending]) = field.ending := by
    rw [SqlText.bare_cons]
    exact String.append_empty
  have hallowed : (Nullability.flag (field.mode != "REQUIRED")).allowed =
      (field.mode != "REQUIRED") := rfl
  rw [Column.definition, htype, hdefault, hnullable, definitionSql, SqlText.bare_append, hending,
    ending, String.append_assoc, hallowed]
  cases field.default <;> by_cases hmode : field.mode = "REQUIRED" <;> simp [hmode]

end SchemaField

end WarehouseImport
