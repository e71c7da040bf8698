import WarehouseImport.Command.Table
import WarehouseImport.Json.Printer
import WarehouseImport.Proofs.Sql.Building

/-!
# Filters for whole numbers

The values of a command's filters are texts. A filter for whole numbers binds the numbers that its
texts write, and is refused for a text that writes none. No number is too large to be bound: that it
has to fit a word of 64 bits is found out only where the bindings are written to the log.

So all that is needed for the bindings to have a text is that the numbers in filters for whole
numbers fit; texts and decimals are always written.
-/

namespace WarehouseImport

open FilterClause (parameterName)

/-- One value is bound by itself, others as a list. -/
def BoundValue.ofValues : List Json → BoundValue
  | [value] => .one value
  | values => .many values

namespace FilterType

variable {type : FilterType} {column text : String} {texts : List String}

/-- A text of a filter for whole numbers is bound as the number that it writes. -/
theorem convert_integer_of_some {number : Int} (h : Number.wholeNumber? text = some number) :
    integer.convert column (.str text) = .ok (.int number) := by
  simp only [convert, isWhole, wholeValue?, h, if_true, Option.map_some]

/-- One that writes none is refused. -/
theorem convert_integer_of_none (h : Number.wholeNumber? text = none) :
    integer.convert column (.str text) =
      .error (.invalidFilterValue text column integer.described) := by
  simp only [convert, isWhole, wholeValue?, h, if_true, Option.map_none, Json.shown]

/-- Where all texts write numbers, these are bound. -/
theorem mapM_convert_integer {numbers : List Int}
    (h : texts.mapM Number.wholeNumber? = some numbers) :
    (texts.map Json.str).mapM (integer.convert column) = .ok (numbers.map .int) := by
  induction texts generalizing numbers with
  | nil =>
    cases h
    rfl
  | cons text rest ih =>
    rw [List.mapM_cons] at h
    obtain ⟨number, hnumber, h⟩ := Option.bind_eq_some_iff.mp h
    obtain ⟨others, hothers, h⟩ := Option.bind_eq_some_iff.mp h
    obtain rfl := Option.some.inj h
    exact mapM_cons_eq_ok.mpr ⟨.int number, others.map .int, convert_integer_of_some hnumber,
      ih hothers, rfl⟩

/-- If not all texts do, one that does not is what they are refused for. -/
theorem mapM_convert_integer_of_none (h : texts.mapM Number.wholeNumber? = none) :
    ∃ text ∈ texts, Number.wholeNumber? text = none ∧
      (texts.map Json.str).mapM (integer.convert column) =
        .error (.invalidFilterValue text column integer.described) := by
  induction texts with
  | nil => cases h
  | cons text rest ih =>
    cases hnumber : Number.wholeNumber? text with
    | none =>
      refine ⟨text, by simp, hnumber, ?_⟩
      rw [List.map_cons, List.mapM_cons]
      exact bind_eq_error.mpr (.inl (convert_integer_of_none hnumber))
    | some number =>
      have hrest : rest.mapM Number.wholeNumber? = none := by
        cases hrest : rest.mapM Number.wholeNumber? with
        | none => rfl
        | some others => simp [List.mapM_cons, hnumber, hrest] at h
      obtain ⟨failed, hmem, hfailed, hmade⟩ := ih hrest
      refine ⟨failed, List.mem_cons_of_mem _ hmem, hfailed, ?_⟩
      rw [List.map_cons, List.mapM_cons]
      exact bind_eq_error.mpr (.inr ⟨.int number, convert_integer_of_some hnumber,
        bind_eq_error.mpr (.inl hmade)⟩)

end FilterType

namespace CommandFilter

/-- A filter with values, whose operator takes as many as there are. -/
structure Supported (filter : CommandFilter) : Prop where
  valued : filter.values ≠ []
  taken : filter.values.length = 1 ∨ filter.operator.several?.isSome = true

variable {filter : CommandFilter}

/-- The filter that the description of a command's filter gives. -/
def checked (filter : CommandFilter) : WhereFilter :=
  ⟨filter.column, filter.operator, filter.values.map .str, filter.type⟩

/-- A description of a filter with a column and values passes its check. -/
theorem check_spec (hnamed : filter.column ≠ "") (hvalued : filter.values ≠ []) :
    filter.spec.check = .ok filter.checked :=
  FilterSpec.check_eq_ok.mpr ⟨rfl, hnamed, rfl, by simpa [checked] using hvalued,
    Named.ofName?_name filter.operator, Named.ofName?_name filter.type⟩

/-- One without a column has no condition. -/
theorem add_spec_of_unnamed (h : filter.column = "") (query : FilterQuery) :
    query.add filter.spec = .error .missingArgument := by
  have hcheck : filter.spec.check = .error .missingArgument := by
    rw [spec, FilterSpec.check, h]
    rfl
  rw [FilterQuery.add, hcheck]
  rfl

/-- Only a filter with a column and values passes it. -/
theorem parts_of_check_spec {found : WhereFilter} (h : filter.spec.check = .ok found) :
    filter.column ≠ "" ∧ filter.values ≠ [] ∧ found = filter.checked := by
  obtain ⟨hcolumn, hnamed, hvalues, hvalued, -, -⟩ := FilterSpec.check_eq_ok.mp h
  have hcolumn : filter.column ≠ "" := Option.some.inj hcolumn ▸ hnamed
  have hgiven : filter.values ≠ [] := by
    intro hnone
    rw [← hvalues, spec, hnone] at hvalued
    exact hvalued rfl
  exact ⟨hcolumn, hgiven, Except.ok.inj (h.symm.trans (check_spec hcolumn hgiven))⟩

/-- A filter for whole numbers adds a condition and a binding once its texts are converted. -/
theorem Supported.add_spec_integer (h : filter.Supported) (hnamed : filter.column ≠ "")
    (htype : filter.type = .integer) (query : FilterQuery) : ∃ clause, query.add filter.spec =
      ((filter.values.map Json.str).mapM (FilterType.integer.convert filter.column)).map
        fun bound => query.extended [clause]
          [⟨parameterName (query.bindings.length + 1), FilterType.integer.bound,
            .ofValues bound⟩] := by
  obtain ⟨hvalued, htaken⟩ := h
  unfold FilterQuery.add
  rw [check_spec hnamed hvalued]
  change ∃ clause, query.restrict filter.checked = _
  unfold FilterQuery.restrict checked
  rw [htype]
  match hvalues : filter.values with
  | [] => exact absurd hvalues hvalued
  | [text] =>
    refine ⟨.compare filter.column (some "INTEGER") filter.operator.single false
      (query.bindings.length + 1), ?_⟩
    cases hbound : FilterType.integer.convert filter.column (.str text) with
    | ok bound =>
      simp only [List.map_cons, List.map_nil, List.mapM_cons, List.mapM_nil, hbound]
      rfl
    | error failure =>
      simp only [List.map_cons, List.map_nil, List.mapM_cons, List.mapM_nil, hbound]
      rfl
  | first :: second :: others =>
    obtain ⟨symbol, hsymbol⟩ : ∃ symbol, filter.operator.several? = some symbol := by
      rcases htaken with hone | hsome
      · simp [hvalues] at hone
      · exact Option.isSome_iff_exists.mp hsome
    refine ⟨.compare filter.column (some "INTEGER") symbol true (query.bindings.length + 1), ?_⟩
    simp only [List.map_cons, hsymbol]
    cases hbound : (Json.str first :: Json.str second :: others.map Json.str).mapM
        (FilterType.integer.convert filter.column) with
    | ok bound =>
      obtain ⟨one, rest, -, hrest, rfl⟩ := mapM_cons_eq_ok.mp hbound
      obtain ⟨two, more, -, -, rfl⟩ := mapM_cons_eq_ok.mp hrest
      rfl
    | error failure => rfl

/-- Whatever was added before, a filter for whole numbers is refused for a text that is none. -/
theorem Supported.add_spec_of_none (h : filter.Supported) (hnamed : filter.column ≠ "")
    (htype : filter.type = .integer) (hnone : filter.values.mapM Number.wholeNumber? = none) :
    ∃ text ∈ filter.values, Number.wholeNumber? text = none ∧ ∀ query : FilterQuery,
      query.add filter.spec =
        .error (.invalidFilterValue text filter.column FilterType.integer.described) := by
  obtain ⟨text, hmem, htext, hfails⟩ :=
    FilterType.mapM_convert_integer_of_none hnone
  refine ⟨text, hmem, htext, fun query => ?_⟩
  obtain ⟨clause, hadd⟩ := h.add_spec_integer hnamed htype query
  rw [hadd]
  exact map_eq_error.mpr hfails

/-- If all its texts are whole numbers, it binds them, whatever their size. -/
theorem Supported.add_spec_of_some (h : filter.Supported) (hnamed : filter.column ≠ "")
    (htype : filter.type = .integer) {numbers : List Int}
    (hnumbers : filter.values.mapM Number.wholeNumber? = some numbers)
    (query : FilterQuery) : ∃ clause, query.add filter.spec = .ok (query.extended [clause]
      [⟨parameterName (query.bindings.length + 1), FilterType.integer.bound,
        .ofValues (numbers.map .int)⟩]) := by
  obtain ⟨clause, hadd⟩ := h.add_spec_integer hnamed htype query
  refine ⟨clause, ?_⟩
  rw [hadd]
  exact map_eq_ok.mpr ⟨_, FilterType.mapM_convert_integer hnumbers, rfl⟩

end CommandFilter

/-! ## Bindings that have a text -/

namespace Json

variable {depth : Nat}

/-- A list is written where each of its items is. -/
theorem isSome_writeItems {items : List Json} : (writeItems? depth items).isSome = true ↔
    ∀ item ∈ items, (write? depth item).isSome = true := by
  induction items with
  | nil => simp [writeItems?]
  | cons item rest ih =>
    rw [List.forall_mem_cons, ← ih, writeItems?]
    cases write? depth item <;> cases writeItems? depth rest <;> simp

/-- So is an object where the values of its members are. -/
theorem isSome_writeMembers {members : List (String × Json)} :
    (writeMembers? depth members).isSome = true ↔
      ∀ member ∈ members, (write? depth member.2).isSome = true := by
  induction members with
  | nil => simp [writeMembers?]
  | cons member rest ih =>
    rw [List.forall_mem_cons, ← ih, writeMembers?]
    cases write? depth member.2 <;> cases writeMembers? depth rest <;> simp

/-- A list within a list is written where its items are. -/
theorem isSome_write_arr {items : List Json} : (write? (depth + 1) (.arr items)).isSome = true ↔
    ∀ item ∈ items, (write? depth item).isSome = true := by
  rw [write?, Option.isSome_map, isSome_writeItems]

end Json

/-- Parameters have a text where all their bindings have one. -/
theorem Parameters.isSome_print_ofBindings {bindings : List Binding} :
    (ofBindings bindings).document.print?.isSome = true ↔
      ∀ binding ∈ bindings, (Json.write? (Json.depthLimit - 1) binding.document).isSome = true := by
  rw [Json.print?, Option.isSome_map, ofBindings, Json.depthLimit, Json.write?, Option.isSome_map,
    Json.isSome_writeMembers]
  simp

/-- A binding has a text where its value has one. -/
theorem Binding.isSome_write_document {binding : Binding} {depth : Nat} :
    (Json.write? (depth + 1) binding.document).isSome = true ↔
      (Json.write? depth binding.value.document).isSome = true := by
  rw [document, Json.isSome_write_arr]
  simp [Json.write?]

/-- The numbers that a filter for whole numbers binds fit a word of 64 bits, with a sign or
without. -/
def CommandFilter.Fits (filter : CommandFilter) : Prop :=
  filter.type = .integer → ∀ text ∈ filter.values,
    (Number.wholeNumber? text).all Json.fitsWord = true
deriving Decidable

/-- What is bound for a text has a text itself, unless it is a number that does not fit. Filters for
whole numbers are the only ones that bind such numbers, since the others of them have no cast. -/
theorem FilterType.isSome_write_of_convert {type : FilterType} {column text : String}
    {cast : Option String} {bound : Json} (hcast : type.cast? = .ok cast)
    (h : type.convert column (.str text) = .ok bound) (depth : Nat) :
    (Json.write? depth bound).isSome = true ↔
      (type = .integer → (Number.wholeNumber? text).all Json.fitsWord = true) := by
  cases type with
  | string =>
    obtain rfl : Json.str text = bound := Except.ok.inj h
    simp [Json.write?]
  | integer =>
    cases hnumber : Number.wholeNumber? text with
    | some number =>
      rw [convert_integer_of_some hnumber] at h
      rw [← Except.ok.inj h, Json.write?]
      simp
    | none =>
      rw [convert_integer_of_none hnumber] at h
      cases h
  | real =>
    simp only [convert, isWhole, isDecimal, Bool.false_eq_true, if_false, if_true] at h
    split at h
    · next found hfound =>
      obtain ⟨number, -, rfl⟩ := Option.map_eq_some_iff.mp hfound
      rw [← Except.ok.inj h]
      simp [Json.write?]
    · cases h
  | _ => cases hcast

namespace WhereFilter

/-- The binding of a filter has a text if the numbers fit. -/
theorem Gives.isSome_write {filter : CommandFilter} {number depth : Nat} {clause : FilterClause}
    {binding : Binding} (h : filter.checked.Gives number clause binding) :
    (Json.write? (depth + 2) binding.document).isSome = true ↔ filter.Fits := by
  rw [Binding.isSome_write_document]
  cases h with
  | one hvalues hcast hbound =>
    obtain ⟨text, htexts, rfl⟩ := List.map_eq_singleton_iff.mp hvalues
    rw [BoundValue.document, FilterType.isSome_write_of_convert hcast hbound, CommandFilter.Fits,
      htexts]
    simp [CommandFilter.checked]
  | several hvalues hsymbol hcast hbound =>
    rw [BoundValue.document, Json.isSome_write_arr]
    constructor
    · intro hwritten htype text htext
      obtain ⟨bound, hmem, hmade⟩ := exists_mem_of_mapM hbound (List.mem_map_of_mem htext)
      exact (FilterType.isSome_write_of_convert hcast hmade depth).mp (hwritten bound hmem) htype
    · intro hfits bound hmem
      obtain ⟨value, hvalue, hmade⟩ := exists_of_mem_mapM hbound hmem
      obtain ⟨text, htext, rfl⟩ := List.mem_map.mp hvalue
      exact (FilterType.isSome_write_of_convert hcast hmade depth).mpr fun htype =>
        hfits htype text htext

-- The greatest number that fits takes all 64 bits, and so is more than what has a sign.
example :
    CommandFilter.Fits ⟨"a", .eq, ["-9223372036854775808", "18446744073709551615"], .integer⟩ ∧
      ¬ CommandFilter.Fits ⟨"a", .eq, ["0", "18446744073709551616"], .integer⟩ := by
  decide

end WhereFilter

namespace FilterStep

variable {count : Nat} {steps : List FilterStep} {clauses : List FilterClause}
  {bindings : List Binding} {binding : Binding}

/-- A binding that steps gather is one that a filter among them gives. -/
theorem Gathers.exists_filter (h : Gathers count steps clauses bindings)
    (hmem : binding ∈ bindings) :
    ∃ spec filter number clause, FilterStep.filter spec ∈ steps ∧ spec.check = .ok filter ∧
      filter.Gives number clause binding := by
  induction h with
  | nil => cases hmem
  | cons hstep _ ih =>
    rcases List.mem_append.mp hmem with hmem | hmem
    · cases hstep with
      | recent => cases hmem
      | filter hcheck hgives =>
        obtain rfl := List.mem_singleton.mp hmem
        exact ⟨_, _, _, _, List.mem_cons_self, hcheck, hgives⟩
    · obtain ⟨spec, filter, number, clause, hspec, hgives⟩ := ih hmem
      exact ⟨spec, filter, number, clause, List.mem_cons_of_mem _ hspec, hgives⟩

/-- Each filter among the steps gives one of them. -/
theorem Gathers.exists_binding {spec : FilterSpec} (h : Gathers count steps clauses bindings)
    (hmem : FilterStep.filter spec ∈ steps) : ∃ filter number clause, ∃ binding ∈ bindings,
      spec.check = .ok filter ∧ filter.Gives number clause binding := by
  induction h with
  | nil => cases hmem
  | cons hstep _ ih =>
    rcases List.mem_cons.mp hmem with rfl | hmem
    · cases hstep with
      | filter hcheck hgives => exact ⟨_, _, _, _, List.mem_cons_self, hcheck, hgives⟩
    · obtain ⟨filter, number, clause, binding, hbinding, hgives⟩ := ih hmem
      exact ⟨filter, number, clause, binding, List.mem_append_right _ hbinding, hgives⟩

end FilterStep

namespace FilterQuery

variable {table : TableName} {columns : List String} {filters : List CommandFilter}
  {seconds limit : Int} {sql : SqlText} {bindings : List Binding}

/-- The bindings of a selection under the filters of a command have a text if the numbers fit. -/
theorem isSome_print_of_select
    (h : select table columns (filters.map CommandFilter.spec) seconds limit =
      .ok (sql, bindings)) :
    (Parameters.ofBindings bindings).document.print?.isSome = true ↔
      ∀ filter ∈ filters, filter.Fits := by
  obtain ⟨query, hbuild, -, rfl⟩ := select_eq_ok.mp h
  have hgathers := (build_eq_ok.mp hbuild).1
  rw [Parameters.isSome_print_ofBindings]
  constructor
  · intro hwritten filter hfilter
    obtain ⟨_, number, clause, binding, hbinding, hcheck, hgives⟩ := hgathers.exists_binding
      (List.mem_cons_of_mem _ (List.mem_map_of_mem (List.mem_map_of_mem hfilter)))
    obtain rfl := (CommandFilter.parts_of_check_spec hcheck).2.2
    exact hgives.isSome_write.mp (hwritten binding hbinding)
  · intro hfits binding hbinding
    obtain ⟨spec, _, number, clause, hspec, hcheck, hgives⟩ := hgathers.exists_filter hbinding
    obtain ⟨filter, hfilter, rfl⟩ : ∃ filter ∈ filters, CommandFilter.spec filter = spec := by
      simpa using hspec
    obtain rfl := (CommandFilter.parts_of_check_spec hcheck).2.2
    exact hgives.isSome_write.mpr (hfits filter hfilter)

/-- A selection fails as the first of its filters does that cannot be added. -/
theorem select_eq_error {before rest : List FilterSpec} {spec : FilterSpec} {failure : Failure}
    (hbefore : ∀ earlier ∈ before, ∀ query, ∃ next, add query earlier = .ok next)
    (hspec : ∀ query, add query spec = .error failure) :
    select table columns (before ++ spec :: rest) seconds limit = .error failure := by
  have hadded (query : FilterQuery) :
      (before ++ spec :: rest).foldlM add query = .error failure := by
    induction before generalizing query with
    | nil =>
      rw [List.nil_append, List.foldlM_cons]
      exact bind_eq_error.mpr (.inl (hspec query))
    | cons earlier others ih =>
      obtain ⟨next, hnext⟩ := hbefore earlier (by simp) query
      rw [List.cons_append, List.foldlM_cons]
      refine bind_eq_error.mpr (.inr ⟨next, hnext, ?_⟩)
      exact ih (fun other hother => hbefore other (List.mem_cons_of_mem _ hother)) next
  exact bind_eq_error.mpr (.inl (hadded _))

end FilterQuery

end WarehouseImport
