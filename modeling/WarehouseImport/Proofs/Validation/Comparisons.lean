import WarehouseImport.Import.Filling
import WarehouseImport.Import.Reconciliation
import WarehouseImport.Proofs.Sql.FieldTypes

/-!
# Columns that are compared by the texts of their types

Before rows are copied the columns of source and staging table are compared by the texts of their
types, and a destination that exists is reconciled by the type of each column and the text of its
length or parts. A field of a reflected schema settles these texts, and they settle its type:
whether it is repeated, its type under the name that statements have for it, the limits that are
written, and for a record its fields with their names, their order and their own types. So neither
comparison takes one nested type for another.
-/

namespace WarehouseImport

open WarehouseImport.Text

namespace SchemaField

/-- The limits of a field: its greatest length, or else its precision and perhaps a scale. -/
def limits (field : SchemaField) : Option (Int × Option Int) :=
  match given field.maxLength, given field.precision with
  | some length, _ => some (length, none)
  | none, some precision => some (precision, field.scale)
  | none, none => none

/-- The type of the values of a field: that of its fields if it is made of any, and otherwise its
own, with the limits if such a type is written with them. -/
def elementType (type : String) (limits : Option (Int × Option Int))
    (fields : List (String × FieldType)) : FieldType :=
  if isStruct type then .record fields
  else
    .plain (DataType.kept type)
      (if DataType.takesLength (DataType.kept type) then limits else none)

/-- The type of a field whose values have a type. -/
def repeatedType (mode : String) (element : FieldType) : FieldType :=
  if mode = "REPEATED" then .array element else element

mutual

/-- The type of a field. -/
def fieldType : SchemaField → FieldType
  | ⟨name, type, mode, maxLength, precision, scale, default, fields, document⟩ =>
    repeatedType mode (elementType (type.getD "")
      (limits ⟨name, type, mode, maxLength, precision, scale, default, [], document⟩)
      (namedTypes fields))

/-- The types of fields with their names. -/
def namedTypes : List SchemaField → List (String × FieldType)
  | [] => []
  | field :: rest => (field.name.getD "", fieldType field) :: namedTypes rest

end

/-- A type of plain values: a word in upper case that stands neither for arrays nor for records. -/
def IsPlain (type : String) : Prop :=
  FieldType.IsName type ∧ upper type = type ∧ type ≠ "ARRAY" ∧ type ≠ "STRUCT" ∧ type ≠ "RECORD"

mutual

/-- The names of a field and of those that it is made of are words, and so are the types that are
not made of others. -/
def WellNamed : SchemaField → Prop
  | ⟨name, type, _, _, _, _, _, fields, _⟩ =>
    FieldType.IsName (name.getD "") ∧
      ((isStruct (type.getD "") = true ∧ AllWellNamed fields) ∨ IsPlain (type.getD ""))

/-- All fields are named well. -/
def AllWellNamed : List SchemaField → Prop
  | [] => True
  | field :: rest => WellNamed field ∧ AllWellNamed rest

end

/-- The type of a field by its parts. -/
theorem fieldType_eq (field : SchemaField) : field.fieldType =
    repeatedType field.mode
      (elementType (field.type.getD "") field.limits (namedTypes field.fields)) := by
  cases field
  rfl

/-- Values have the same type if both are records whose fields have the same names and types in the
same order, or both are plain and have the same type, with the same limits if these are written. -/
theorem elementType_eq_iff {type type' : String} {limits limits' : Option (Int × Option Int)}
    {fields fields' : List (String × FieldType)} :
    elementType type limits fields = elementType type' limits' fields' ↔
      (isStruct type = true ∧ isStruct type' = true ∧ fields = fields') ∨
      (isStruct type = false ∧ isStruct type' = false ∧
        DataType.kept type = DataType.kept type' ∧
        (DataType.takesLength (DataType.kept type) = true → limits = limits')) := by
  unfold elementType
  cases hstruct : isStruct type <;> cases hstruct' : isStruct type'
  · simp only [Bool.false_eq_true, if_false, FieldType.plain.injEq, false_and, false_or, true_and]
    refine and_congr_right fun hkept => ?_
    rw [← hkept]
    by_cases hlength : DataType.takesLength (DataType.kept type) = true <;> simp [hlength]
  · simp
  · simp
  · simp

/-- Fields have the same type if both or neither are repeated and their values have the same
type. -/
theorem fieldType_eq_iff {field other : SchemaField} :
    field.fieldType = other.fieldType ↔
      (field.mode = "REPEATED" ↔ other.mode = "REPEATED") ∧
      elementType (field.type.getD "") field.limits (namedTypes field.fields) =
        elementType (other.type.getD "") other.limits (namedTypes other.fields) := by
  have hplain (type : String) (limits : Option (Int × Option Int))
      (fields : List (String × FieldType)) (element : FieldType) :
      .array element ≠ elementType type limits fields := by
    unfold elementType
    split <;> exact nofun
  rw [fieldType_eq, fieldType_eq]
  unfold repeatedType
  split <;> split <;> simp [*, (hplain _ _ _ _).symm]

/-! ## Fields whose types can be read -/

/-- The name under which a type of plain values is kept. -/
theorem kept_of_isPlain {type : String} (h : IsPlain type) : IsPlain (DataType.kept type) := by
  have hown : ∀ type ∈ ["FLOAT64", "INT64"], (type ≠ "" ∧ type.toList.all isWord = true) ∧
      upper type = type ∧ type ≠ "ARRAY" ∧ type ≠ "STRUCT" ∧ type ≠ "RECORD" := by
    decide +kernel
  have hplain {type : String} (hmem : type ∈ ["FLOAT64", "INT64"]) : IsPlain type :=
    ⟨⟨(hown type hmem).1.1, List.all_eq_true.mp (hown type hmem).1.2⟩, (hown type hmem).2⟩
  unfold DataType.kept
  split
  · exact hplain (by simp)
  · split
    · exact hplain (by simp)
    · exact h

/-- A type of plain values stands for no other types. -/
theorem isStruct_of_isPlain {type : String} (h : IsPlain type) : isStruct type = false := by
  simp [isStruct, h.2.2.2.1, h.2.2.2.2]

/-- Elements of types that can be read have a type that can be read. -/
theorem readable_repeatedType {element : FieldType} (mode : String) (h : element.Readable) :
    (repeatedType mode element).Readable := by
  unfold repeatedType
  split
  · rwa [FieldType.Readable]
  · exact h

mutual

/-- The type of a field that is named well can be read. -/
theorem readable_fieldType : (field : SchemaField) → field.WellNamed → field.fieldType.Readable
  | ⟨name, type, mode, maxLength, precision, scale, default, fields, document⟩, h => by
    rw [WellNamed] at h
    rw [fieldType]
    apply readable_repeatedType
    rcases h.2 with ⟨hstruct, hfields⟩ | hplain
    · rw [elementType, if_pos hstruct, FieldType.Readable]
      exact readable_namedTypes fields hfields
    · have hkept := kept_of_isPlain hplain
      rw [elementType, isStruct_of_isPlain hplain, if_neg (by decide), FieldType.Readable]
      exact ⟨hkept.1, hkept.2.2.2.1, hkept.2.2.1⟩

/-- So can the types of fields that are named well. -/
theorem readable_namedTypes : (fields : List SchemaField) → AllWellNamed fields →
    FieldType.AllReadable (namedTypes fields)
  | [], _ => by
    rw [namedTypes, FieldType.AllReadable]
    trivial
  | field :: rest, h => by
    rw [AllWellNamed] at h
    rw [namedTypes, FieldType.AllReadable]
    have hname : FieldType.IsName (field.name.getD "") := by
      have hfield := h.1
      cases field
      rw [WellNamed] at hfield
      exact hfield.1
    exact ⟨hname, readable_fieldType field h.1, readable_namedTypes rest h.2⟩

end

end SchemaField

/-! ## The column of a field -/

/-- A type is kept under some name. -/
theorem DataType.kept_ne_empty {type : String} (h : type ≠ "") : kept type ≠ "" := by
  unfold kept
  split
  · simp
  · split
    · simp
    · exact h

/-- A column with a name and a type can be made. -/
theorem ColumnSpec.check_eq {name type : String} (hname : name ≠ "") (htype : type ≠ "")
    (length : Option String) (nullable : Bool) (default arrayField : Option Json) :
    ColumnSpec.check ⟨.str name, .str type, (length.map Json.str).getD .null, .bool nullable,
        default, arrayField⟩ =
      .ok ⟨name, DataType.kept type, length.filter fun text => !text.isEmpty, .flag nullable,
        default, arrayField⟩ := by
  have hkept := DataType.kept_ne_empty htype
  have hlength : optionalLength ((length.map Json.str).getD .null) =
      .ok (length.filter fun text => !text.isEmpty) := by
    cases length with
    | none => rfl
    | some text =>
      change Except.ok (if text.isEmpty then none else some text) = _
      cases htext : text.isEmpty <;> simp [Option.filter, htext]
  simp [check, requiredText, requiredFlag, hname, hkept, hlength, String.isEmpty_iff, Bind.bind,
    Except.bind, pure, Except.pure]

namespace DataType

/-- An empty length is none. -/
theorem written_filter (type : String) (length : Option String) :
    written type (length.filter fun text => !text.isEmpty) = written type length := by
  cases length with
  | none => rfl
  | some text => cases htext : text.isEmpty <;> simp [Option.filter, written, htext]

/-- A type that takes limits is written with them. -/
theorem written_plain {type : String} (h : SchemaField.IsPlain type)
    (limits : Option (Int × Option Int)) :
    written type (limits.map FieldType.limitsInner) =
      (FieldType.plain type (if takesLength type then limits else none)).text := by
  have hnested : isNested type = false := by simp [isNested, h.2.2.1, h.2.2.2.1]
  have hsome (limits : Int × Option Int) : (FieldType.limitsInner limits).isEmpty = false := by
    simpa [String.isEmpty_iff] using FieldType.limitsInner_ne_empty limits
  rw [FieldType.text, FieldType.word, FieldType.partsText]
  cases limits with
  | none => simp [written, FieldType.limitsText]
  | some limits =>
    by_cases hlength : takesLength type = true
    · simp [written, hsome, hnested, hlength, FieldType.limitsText, String.append_assoc]
    · simp [written, hsome, hnested, hlength, FieldType.limitsText]

/-- Records are written with their fields. -/
theorem written_record (fields : List (String × FieldType)) :
    written "STRUCT" (some (FieldType.fieldsText fields)) = (FieldType.record fields).text := by
  rw [written_nested rfl, FieldType.text, FieldType.word, FieldType.partsText]
  cases fields with
  | nil => simp [FieldType.fieldsText]
  | cons field rest =>
    have hsome : (FieldType.fieldsText (field :: rest)).isEmpty = false := by
      simp [FieldType.fieldsText]
    rw [hsome, List.isEmpty_cons, if_neg (by decide), if_neg (by decide), String.append_assoc,
      String.append_assoc, String.append_assoc]

end DataType

namespace SchemaField

/-- The length of plain values in writing. -/
theorem scalarLength_eq (field : SchemaField) :
    field.scalarLength = field.limits.map FieldType.limitsInner := by
  unfold scalarLength limits
  split <;> simp [*, FieldType.limitsInner, Int.toString_eq_repr]

/-- A name, a type and a length give the column of plain values or a record, or that of an array of
them. -/
theorem exists_of_element {name type : String} {length : Option String} {element : FieldType}
    (hname : name ≠ "") (htype : type ≠ "") (hword : DataType.kept type = element.word)
    (htext : DataType.written (DataType.kept type) length = element.text)
    (mode : String) (default arrayField : Option Json) :
    ∃ made : Column, (do
      let whole ←
        if mode = "REPEATED" then
          (ColumnSpec.check ⟨.str name, .str type, (length.map Json.str).getD .null, .bool true,
            none, none⟩).map fun column : Column =>
              { name := .str name
                type := .str "ARRAY"
                length := .str column.writtenType
                nullable := .bool true
                default := none
                arrayField := arrayField : ColumnSpec }
        else pure (⟨.str name, .str type, (length.map Json.str).getD .null, .bool true, none, none⟩)
      ColumnSpec.check { whole with
        nullable := .bool (mode != "REQUIRED"), default := default }) = .ok made ∧
      made.name = name ∧ made.type = (repeatedType mode element).word ∧
      made.writtenType = (repeatedType mode element).text := by
  have hcheck := ColumnSpec.check_eq hname htype length
  have hwritten := (DataType.written_filter (DataType.kept type) length).trans htext
  unfold repeatedType
  split
  · next hmode =>
    have hsome : element.text.isEmpty = false := by
      simpa [String.isEmpty_iff, htext] using
        DataType.written_ne_empty (DataType.kept_ne_empty htype) length
    have harray := ColumnSpec.check_eq hname (show "ARRAY" ≠ "" by decide)
      (some (DataType.written (DataType.kept type) (length.filter fun text => !text.isEmpty)))
      (mode != "REQUIRED") default arrayField
    refine ⟨_, bind_eq_ok.mpr ⟨_, map_eq_ok.mpr ⟨_, hcheck true none none, rfl⟩, harray⟩, rfl, rfl,
      ?_⟩
    rw [Column.writtenType, DataType.written_filter, hwritten]
    change DataType.written "ARRAY" _ = _
    rw [DataType.written_nested rfl, hsome, FieldType.text_array]
    rfl
  · next hmode =>
    exact ⟨_, bind_eq_ok.mpr ⟨_, rfl, hcheck _ default none⟩, rfl, hword, hwritten⟩

/-- A field has a column, with its name and the text of its type, if its type is that of plain
values or its fields are defined by the text of their types. -/
theorem exists_column_of {field : SchemaField} (hname : field.name.getD "" ≠ "")
    (htype : (isStruct (field.type.getD "") = true ∧
        nestedDefinitions field.fields = .ok (FieldType.fieldsText (namedTypes field.fields))) ∨
      IsPlain (field.type.getD "")) :
    ∃ column, field.column = .ok column ∧ column.name = field.name.getD "" ∧
      column.type = field.fieldType.word ∧ column.writtenType = field.fieldType.text := by
  rw [fieldType_eq]
  obtain ⟨_ | name, _ | type, mode, maxLength, precision, scale, default, fields, document⟩ := field
  · exact absurd rfl hname
  · exact absurd rfl hname
  · rcases htype with ⟨hstruct, -⟩ | hplain
    · cases hstruct
    · exact absurd rfl hplain.1.1
  · unfold column
    simp only [Option.getD_some] at hname htype ⊢
    rcases htype with ⟨hstruct, hfields⟩ | hplain
    · -- A record takes the definitions of its fields for its length.
      have htext := DataType.written_record (namedTypes fields)
      obtain ⟨made, hmade, hparts⟩ := exists_of_element hname (show "STRUCT" ≠ "" by decide)
        (by rfl) htext mode default (some (withModes false document))
      refine ⟨made, ?_, by rwa [elementType, if_pos hstruct]⟩
      simp only [hstruct, hfields]
      exact hmade
    · have htext := DataType.written_plain (kept_of_isPlain hplain)
        (limits ⟨some name, some type, mode, maxLength, precision, scale, default, [], document⟩)
      rw [← scalarLength_eq] at htext
      obtain ⟨made, hmade, hparts⟩ := exists_of_element hname hplain.1.1 rfl htext mode default
        (some (withModes false document))
      refine ⟨made, ?_, by rwa [elementType, isStruct_of_isPlain hplain]⟩
      simp only [isStruct_of_isPlain hplain]
      exact hmade

mutual

/-- A field that is named well has a column, with its name and the text of its type. -/
theorem exists_column : (field : SchemaField) → field.WellNamed →
    ∃ column, field.column = .ok column ∧ column.name = field.name.getD "" ∧
      column.type = field.fieldType.word ∧ column.writtenType = field.fieldType.text
  | ⟨_, _, _, _, _, _, _, fields, _⟩, h => by
    rw [WellNamed] at h
    refine exists_column_of h.1.1 (h.2.imp_left fun hrecord => ⟨hrecord.1, ?_⟩)
    exact nestedDefinitions_eq fields hrecord.2

/-- The definitions of fields that are named well are those of their types. -/
theorem nestedDefinitions_eq : (fields : List SchemaField) → AllWellNamed fields →
    nestedDefinitions fields = .ok (FieldType.fieldsText (namedTypes fields))
  | [], _ => rfl
  | field :: rest, h => by
    rw [AllWellNamed] at h
    obtain ⟨column, hcolumn, hname, -, htype⟩ := exists_column field h.1
    have hrest := nestedDefinitions_eq rest h.2
    have hempty : (namedTypes rest).isEmpty = rest.isEmpty := by
      cases rest <;> rfl
    unfold nestedDefinitions
    rw [namedTypes, FieldType.fieldsText, hempty]
    refine bind_eq_ok.mpr ⟨column, hcolumn, bind_eq_ok.mpr ⟨_, hrest, ?_⟩⟩
    rw [hname, htype, FieldType.text]
    cases rest <;> simp [pure, Except.pure, String.append_assoc]

end

/-- The word that the type of a field begins with is in upper case and not the service's name for
records. -/
theorem word_fieldType {field : SchemaField} (h : field.WellNamed) :
    upper field.fieldType.word = field.fieldType.word ∧ field.fieldType.word ≠ "RECORD" := by
  have hword : ∀ word ∈ ["STRUCT", "ARRAY"], upper word = word ∧ word ≠ "RECORD" := by decide
  obtain ⟨name, type, mode, maxLength, precision, scale, default, fields, document⟩ := field
  rw [WellNamed] at h
  rw [fieldType, repeatedType]
  split
  · exact hword _ (by simp [FieldType.word])
  · rcases h.2 with ⟨hstruct, -⟩ | hplain
    · rw [elementType, if_pos hstruct]
      exact hword _ (by simp [FieldType.word])
    · have hkept := kept_of_isPlain hplain
      rw [elementType, isStruct_of_isPlain hplain]
      exact ⟨hkept.2.1, hkept.2.2.2.2⟩

end SchemaField

/-! ## What comparisons tell -/

namespace DataType

/-- Only the service's name for records stands for a nested type of another name. -/
theorem eq_of_canonical_nested {type : String} (hupper : upper type = type)
    (hother : type ≠ "RECORD") (h : isNested (canonical type) = true) :
    canonical type = type := by
  unfold canonical at h ⊢
  rw [hupper] at h ⊢
  cases hfound : aliases.lookup type with
  | none => rfl
  | some target =>
    have haliases : ∀ entry ∈ aliases, isNested entry.2 = true → entry.1 = "RECORD" := by decide
    obtain ⟨before, behind, hsplit, -⟩ := List.lookup_eq_some_iff.mp hfound
    rw [hfound] at h
    exact absurd (haliases (type, target) (by rw [hsplit]; simp) h) hother

/-- A nested type is written with its parts. -/
theorem written_nested_inj {type : String} (h : isNested type = true)
    {length length' : Option String} :
    written type length = written type length' ↔ length.getD "" = length'.getD "" := by
  have hgiven (length : Option String) : written type length =
      type ++ if (length.getD "").isEmpty then "" else "<" ++ length.getD "" ++ ">" := by
    cases length with
    | none => simp [written]
    | some inner =>
      rw [written_nested h, Option.getD_some]
      split <;> simp [String.append_assoc]
  rw [hgiven, hgiven]
  constructor
  · intro hsame
    have hlist := congrArg String.toList hsame
    rw [String.toList_append, String.toList_append, List.append_cancel_left_eq] at hlist
    split at hlist
    · next hempty =>
      split at hlist
      · next hempty' => rw [String.isEmpty_iff.mp hempty, String.isEmpty_iff.mp hempty']
      · simp at hlist
    · split at hlist
      · simp at hlist
      · exact String.toList_inj.mp (by simpa using hlist)
  · intro hsame
    rw [hsame]

end DataType

namespace Column

/-- A nested type takes what has the same type in writing, where nothing else stands for it. -/
theorem accepts_iff_of_nested {actual expected : Column}
    (hnested : DataType.isNested actual.type = true)
    (hexpected : DataType.isNested (DataType.canonical expected.type) = true →
      DataType.canonical expected.type = expected.type) :
    actual.accepts expected = true ↔
      expected.type = actual.type ∧ expected.writtenType = actual.writtenType := by
  have hactual : DataType.isText actual.type = false ∧
      DataType.canonical actual.type = actual.type := by
    have hkeywords : ∀ type ∈ ["ARRAY", "STRUCT"], DataType.isText type = false ∧
        DataType.canonical type = type := by decide
    exact hkeywords _ (by simpa [DataType.isNested] using hnested)
  rw [accepts, hactual.1, hactual.2, Bool.false_or, Bool.and_eq_true, beq_iff_eq, beq_iff_eq,
    writtenType, writtenType]
  constructor
  · rintro ⟨hcanonical, hlength⟩
    have htype : expected.type = actual.type := by
      rw [← hexpected (by rw [hcanonical]; exact hnested), hcanonical]
    rw [htype]
    exact ⟨rfl, (DataType.written_nested_inj hnested).mpr hlength⟩
  · rintro ⟨htype, hwritten⟩
    rw [htype] at hwritten ⊢
    exact ⟨hactual.2, (DataType.written_nested_inj hnested).mp hwritten⟩

end Column

/-- The columns whose names are not ignored. -/
def notIgnored {α : Type} (name : α → String) (ignored : List String) (items : List α) : List α :=
  items.filter fun item => !(NameIndex.ofNames ignored).contains (name item)

/-- Columns agree pair by pair if they have the same names up to case and types in writing. -/
theorem all_zip_iff {left right : List Column} :
    (left.length == right.length && (left.zip right).all fun pair =>
      lower pair.1.name == lower pair.2.name && pair.1.writtenType == pair.2.writtenType) = true ↔
    left.map (fun column => (lower column.name, column.writtenType)) =
      right.map fun column => (lower column.name, column.writtenType) := by
  induction left generalizing right with
  | nil => cases right <;> simp
  | cons column rest ih =>
    cases right with
    | nil => simp
    | cons column' rest' =>
      have hrest := @ih rest'
      simp only [Bool.and_eq_true, beq_iff_eq, List.all_eq_true] at hrest
      simp only [List.length_cons, List.zip_cons_cons, List.all_cons, List.map_cons,
        List.cons.injEq, Prod.mk.injEq, Bool.and_eq_true, beq_iff_eq, Nat.add_right_cancel_iff,
        List.all_eq_true, ← hrest]
      tauto

/-- Columns are the same if, ignored ones left aside, they have the same names up to case and the
same types in writing, one by one. -/
theorem sameColumns_iff {left right : List Column} {ignored : List String} :
    sameColumns left right ignored = true ↔
      (notIgnored (·.name) ignored left).map
          (fun column => (lower column.name, column.writtenType)) =
        (notIgnored (·.name) ignored right).map
          fun column => (lower column.name, column.writtenType) :=
  all_zip_iff

namespace SchemaField

/-- The names up to case and the types of fields whose names are not ignored. -/
def signature (ignored : List String) (fields : List SchemaField) : List (String × FieldType) :=
  (notIgnored (·.name.getD "") ignored fields).map fun field =>
    (lower (field.name.getD ""), field.fieldType)

/-- Fields that are named well have columns, with their names and the texts of their types. -/
theorem exists_columns {fields : List SchemaField} (h : ∀ field ∈ fields, field.WellNamed) :
    ∃ columns, fields.mapM column = .ok columns ∧
      columns.map (fun column => (column.name, column.writtenType)) =
        fields.map fun field => (field.name.getD "", field.fieldType.text) := by
  induction fields with
  | nil => exact ⟨[], rfl, rfl⟩
  | cons field rest ih =>
    rw [List.forall_mem_cons] at h
    obtain ⟨made, hmade, hname, -, htype⟩ := exists_column field h.1
    obtain ⟨columns, hcolumns, hkept⟩ := ih h.2
    refine ⟨made :: columns, mapM_cons_eq_ok.mpr ⟨made, columns, hmade, hcolumns, rfl⟩, ?_⟩
    rw [List.map_cons, List.map_cons, hname, htype, hkept]

/-- Columns that are not ignored have the names and the texts of the fields that are not. -/
theorem map_notIgnored {fields : List SchemaField} {columns : List Column}
    (h : columns.map (fun column => (column.name, column.writtenType)) =
      fields.map fun field => (field.name.getD "", field.fieldType.text)) (ignored : List String) :
    (notIgnored (·.name) ignored columns).map
        (fun column => (lower column.name, column.writtenType)) =
      (notIgnored (·.name.getD "") ignored fields).map
        fun field => (lower (field.name.getD ""), field.fieldType.text) := by
  have hkept := congrArg (fun pairs : List (String × String) =>
    (notIgnored Prod.fst ignored pairs).map fun pair => (lower pair.1, pair.2)) h
  simpa [notIgnored, List.filter_map, Function.comp_def] using hkept

/-- Fields that are named well have the same types if they have the same texts of types. -/
theorem map_fieldType_eq_iff {fields others : List SchemaField}
    (hfields : ∀ field ∈ fields, field.WellNamed) (hothers : ∀ other ∈ others, other.WellNamed) :
    fields.map (fun field => (lower (field.name.getD ""), field.fieldType.text)) =
        others.map (fun other => (lower (other.name.getD ""), other.fieldType.text)) ↔
      fields.map (fun field => (lower (field.name.getD ""), field.fieldType)) =
        others.map fun other => (lower (other.name.getD ""), other.fieldType) := by
  induction fields generalizing others with
  | nil => cases others <;> simp
  | cons field rest ih =>
    cases others with
    | nil => simp
    | cons other others =>
      rw [List.forall_mem_cons] at hfields hothers
      have htype := FieldType.text_inj (readable_fieldType field hfields.1)
        (readable_fieldType other hothers.1)
      simp only [List.map_cons, List.cons.injEq, Prod.mk.injEq, htype, ih hfields.2 hothers.2]

/-- Two fields whose names and plain types are words have columns, and these have the same type in
writing exactly if the fields have the same type: both or neither are repeated, and they have the
same plain type up to the names that the service has for it and with the same limits in writing, or
both are records whose fields have the same names in the same order and the same types in turn. A
nested type of a destination takes the other column exactly if the two have the same type. The check
before a copy finds the columns of two lists of such fields the same exactly if the fields that are
not ignored have the same names up to case and the same types, one by one. -/
theorem types_told_apart :
    (∀ {field other : SchemaField}, field.WellNamed → other.WellNamed →
      ∃ column column', field.column = .ok column ∧ other.column = .ok column' ∧
        (column.writtenType = column'.writtenType ↔ field.fieldType = other.fieldType) ∧
        (DataType.isNested column.type = true →
          (column.accepts column' = true ↔ field.fieldType = other.fieldType))) ∧
    ∀ {fields others : List SchemaField} (ignored : List String),
      (∀ field ∈ fields, field.WellNamed) → (∀ other ∈ others, other.WellNamed) →
      ∃ columns columns', fields.mapM column = .ok columns ∧ others.mapM column = .ok columns' ∧
        (sameColumns columns columns' ignored = true ↔
          signature ignored fields = signature ignored others) := by
  constructor
  · intro field other hfield hother
    obtain ⟨made, hmade, -, hword, htext⟩ := exists_column field hfield
    obtain ⟨made', hmade', -, hword', htext'⟩ := exists_column other hother
    have hsame : made.writtenType = made'.writtenType ↔ field.fieldType = other.fieldType := by
      rw [htext, htext']
      exact FieldType.text_inj (readable_fieldType field hfield) (readable_fieldType other hother)
    refine ⟨made, made', hmade, hmade', hsame, fun hnested => ?_⟩
    have hupper := word_fieldType hother
    rw [← hword'] at hupper
    rw [Column.accepts_iff_of_nested hnested
      (DataType.eq_of_canonical_nested hupper.1 hupper.2), ← hsame]
    constructor
    · exact fun haccepts => haccepts.2.symm
    · intro hwritten
      refine ⟨?_, hwritten.symm⟩
      rw [hword, hword', hsame.mp hwritten]
  · intro fields others ignored hfields hothers
    obtain ⟨columns, hcolumns, hkept⟩ := exists_columns hfields
    obtain ⟨columns', hcolumns', hkept'⟩ := exists_columns hothers
    refine ⟨columns, columns', hcolumns, hcolumns', ?_⟩
    rw [sameColumns_iff, map_notIgnored hkept, map_notIgnored hkept', signature, signature]
    exact map_fieldType_eq_iff (fun field hmem => hfields field (List.mem_of_mem_filter hmem))
      fun other hmem => hothers other (List.mem_of_mem_filter hmem)

/-- An amount with ten digits, perhaps some of them behind the point, beside a record of nothing. -/
def amountRecord (scale : Option Int) : SchemaField :=
  ⟨some "r", some "RECORD", "REPEATED", none, none, none, none,
    [⟨some "amount", some "NUMERIC", "NULLABLE", none, some 10, scale, none, [], .null⟩,
      ⟨some "empty", some "RECORD", "NULLABLE", none, none, none, none, [], .null⟩], .null⟩

/-- The column of such records. -/
def amountColumn (inner : String) : Column where
  name := "r"
  type := "ARRAY"
  length := some ("STRUCT<amount NUMERIC(" ++ inner ++ "), empty STRUCT>")
  nullable := .flag true
  default := none
  arrayField := some .null

/-- Lists of records are told apart by a scale in one of their fields, before a copy and where a
destination takes them. -/
theorem types_told_apart_scaled :
    (amountRecord (some 2)).WellNamed ∧ (amountRecord none).WellNamed ∧
      (amountRecord (some 2)).column = .ok (amountColumn "10,2") ∧
      (amountRecord none).column = .ok (amountColumn "10") ∧
      (amountColumn "10,2").writtenType ≠ (amountColumn "10").writtenType ∧
      (amountColumn "10,2").accepts (amountColumn "10") = false ∧
      sameColumns [amountColumn "10,2"] [amountColumn "10"] [] = false := by
  have hwords : ∀ word ∈ ["r", "amount", "empty", "NUMERIC"],
      word ≠ "" ∧ word.toList.all isWord = true := by decide +kernel
  have hname {word : String} (hmem : word ∈ ["r", "amount", "empty", "NUMERIC"]) :
      FieldType.IsName word := ⟨(hwords word hmem).1, List.all_eq_true.mp (hwords word hmem).2⟩
  have hnamed (scale : Option Int) : (amountRecord scale).WellNamed := by
    simp only [amountRecord, WellNamed, AllWellNamed, Option.getD_some]
    exact ⟨hname (by simp), .inl ⟨rfl, ⟨hname (by simp), .inr ⟨hname (by simp), by decide⟩⟩,
      ⟨hname (by simp), .inl ⟨rfl, trivial⟩⟩, trivial⟩⟩
  have hscaled : (amountRecord (some 2)).column = .ok (amountColumn "10,2") := rfl
  have hplain : (amountRecord none).column = .ok (amountColumn "10") := rfl
  have hother : (amountRecord (some 2)).fieldType ≠ (amountRecord none).fieldType := by
    intro hequal
    rcases elementType_eq_iff.mp (fieldType_eq_iff.mp hequal).2 with ⟨-, -, hfields⟩ | ⟨hno, -⟩
    · have hamount := (fieldType_eq_iff.mp (congrArg Prod.snd (List.cons.inj hfields).1)).2
      rcases elementType_eq_iff.mp hamount with ⟨hno, -⟩ | ⟨-, -, -, hlimits⟩
      · cases hno
      · cases hlimits rfl
    · cases hno
  obtain ⟨column, column', hcolumn, hcolumn', htypes, haccepts⟩ :=
    types_told_apart.1 (hnamed (some 2)) (hnamed none)
  obtain rfl := Except.ok.inj (hscaled.symm.trans hcolumn)
  obtain rfl := Except.ok.inj (hplain.symm.trans hcolumn')
  have hleftNamed : ∀ field ∈ [amountRecord (some 2)], field.WellNamed := by
    simpa using hnamed (some 2)
  have hrightNamed : ∀ field ∈ [amountRecord none], field.WellNamed := by simpa using hnamed none
  obtain ⟨columns, columns', hcolumns, hcolumns', hsame⟩ :=
    types_told_apart.2 [] hleftNamed hrightNamed
  have hleft : [amountRecord (some 2)].mapM SchemaField.column = .ok [amountColumn "10,2"] := rfl
  have hright : [amountRecord none].mapM SchemaField.column = .ok [amountColumn "10"] := rfl
  obtain rfl := Except.ok.inj (hleft.symm.trans hcolumns)
  obtain rfl := Except.ok.inj (hright.symm.trans hcolumns')
  refine ⟨hnamed (some 2), hnamed none, hscaled, hplain,
    fun hequal => hother (htypes.mp hequal), ?_, ?_⟩
  · rw [← Bool.not_eq_true, haccepts rfl]
    exact hother
  · rw [← Bool.not_eq_true, hsame]
    exact fun hequal => hother (congrArg Prod.snd (List.cons.inj hequal).1)

end SchemaField

end WarehouseImport
