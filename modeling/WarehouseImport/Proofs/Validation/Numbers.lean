import WarehouseImport.Proofs.Validation.Printing

/-!
# Filters for whole numbers in an import

What becomes of the texts in a command's filters for whole numbers. A text that writes no number
ends the import behind the description of its source, and the failure names the text. A number ends
it only where its binding is written to the log, for want of a text, and only if it does not fit a
word of 64 bits; by then a destination may have been created.
-/

namespace WarehouseImport

open WarehouseImport.Action

open FilterClause (parameterName)

namespace WhereFilter

/-- A filter for whole numbers that is added has numbers for all its texts. -/
theorem Gives.exists_wholeNumber {filter : CommandFilter} {number : Nat} {clause : FilterClause}
    {binding : Binding} (h : filter.checked.Gives number clause binding)
    (htype : filter.type = .integer) : ∃ numbers, filter.values.mapM Number.wholeNumber? =
      some numbers := by
  have hbound : ∃ bound, (filter.values.map Json.str).mapM
      (FilterType.integer.convert filter.column) = .ok bound := by
    rw [← htype]
    cases h with
    | one hvalues _ hbound =>
      rw [show filter.values.map Json.str = _ from hvalues]
      exact ⟨_, mapM_cons_eq_ok.mpr ⟨_, [], hbound, rfl, rfl⟩⟩
    | several _ _ _ hbound => exact ⟨_, hbound⟩
  cases hnumbers : filter.values.mapM Number.wholeNumber? with
  | some numbers => exact ⟨numbers, rfl⟩
  | none =>
    obtain ⟨bound, hbound⟩ := hbound
    obtain ⟨text, -, -, hfails⟩ := FilterType.mapM_convert_integer_of_none hnumbers
    cases hfails.symm.trans hbound

end WhereFilter

namespace SourceContext

variable {request : SourceRequest} {full : TableDefinition}

/-- A source that can be read has numbers for all texts in the filters for whole numbers. -/
theorem exists_wholeNumber {command : TableCommand} {context : SourceContext}
    {filter : CommandFilter} (h : ofDefinition command.source.request full = .ok context)
    (hmem : filter ∈ command.source.filters) (htype : filter.type = .integer) :
    ∃ numbers, filter.values.mapM Number.wholeNumber? = some numbers := by
  have hspec : filter.spec ∈ command.source.request.filters := List.mem_map_of_mem hmem
  obtain ⟨-, -, -, hsource⟩ := parts_of_ofDefinition h
  rw [if_pos (needsQuery_of_filters _ (List.ne_nil_of_mem hspec))] at hsource
  obtain ⟨sql, bindings, hselect, -⟩ := select_of_generate hsource
  obtain ⟨query, hbuild, -, -⟩ := FilterQuery.select_eq_ok.mp hselect
  obtain ⟨_, number, clause, binding, -, hcheck, hgives⟩ :=
    (FilterQuery.build_eq_ok.mp hbuild).1.exists_binding
      (List.mem_cons_of_mem _ (List.mem_map_of_mem hspec))
  obtain rfl := (CommandFilter.parts_of_check_spec hcheck).2.2
  exact hgives.exists_wholeNumber htype

/-- A source that has all columns of a request fails as the selection under its filters does. -/
theorem ofDefinition_eq_error {failure : Failure} (hfilters : request.filters ≠ [])
    (hselected : ∀ name ∈ selectedOf request full, full.columns.contains name = true)
    (hfiltered : ∀ filter ∈ request.filters, ∃ column, filter.column = some column ∧
      full.columns.contains column = true)
    (h : FilterQuery.select full.name (selectedOf request full) request.filters request.seconds
      request.limit = .error failure) :
    ofDefinition request full = .error failure := by
  obtain ⟨effective, heffective⟩ := TableDefinition.exists_restrict hselected
  obtain ⟨columns, hcolumns⟩ := exists_mapM_eq_ok (f := filterColumn) fun filter hmem => by
    obtain ⟨column, hcolumn, -⟩ := hfiltered filter hmem
    exact ⟨column, by rw [filterColumn, hcolumn]⟩
  have hknown : ∀ name ∈ (NameIndex.ofNames (selectedOf request full ++ columns)).items,
      full.columns.contains name = true := by
    intro name hname
    have hadded := NameIndex.mem_items_ofList hname
    rw [List.map_map, List.mem_map] at hadded
    obtain ⟨_, hadded, rfl⟩ := hadded
    rcases List.mem_append.mp hadded with hmem | hmem
    · exact hselected _ hmem
    · obtain ⟨filter, hfilter, hcolumn⟩ := exists_of_mem_mapM hcolumns hmem
      obtain ⟨column, hsome, hcontains⟩ := hfiltered filter hfilter
      rw [filterColumn, hsome] at hcolumn
      exact Except.ok.inj hcolumn ▸ hcontains
  obtain ⟨known, hrestrict⟩ := TableDefinition.exists_restrict hknown
  have hgenerate : generate request full effective (selectedOf request full) = .error failure :=
    bind_eq_error.mpr (.inr ⟨columns, hcolumns, bind_eq_error.mpr (.inr ⟨known, hrestrict,
      bind_eq_error.mpr (.inl h)⟩)⟩)
  refine bind_eq_error.mpr (.inr ⟨effective, heffective, ?_⟩)
  dsimp only
  rw [if_pos (needsQuery_of_filters _ hfilters)]
  exact bind_eq_error.mpr (.inl hgenerate)

end SourceContext

namespace FromTable

variable {command : TableCommand} {session after : Session} {exchanges : List Exchange}
  {outcome : Except Failure ImportResponse}

/-- An import whose source cannot be read under any description ends with the description, as the
reading of the source fails. -/
theorem runs_run_of_unread {warehouse : Warehouse} {beginning : String} {features : List String}
    (hunread : ∀ full context, SourceContext.ofDefinition command.source.request full ≠ .ok context)
    (h : Runs (run warehouse beginning command features) session exchanges outcome after) :
    outcome.isOk = false ∧ (exchanges = [] ∨ ∃ answer failure,
      exchanges = [⟨.reflect command.source.label.tableName, answer⟩] ∧
      Warehouse.defined command.source.label.tableName answer >>=
        SourceContext.ofReflected command.source.request = .error failure ∧
      outcome = .error failure) := by
  rcases (quiet_say _).runs_bind h with ⟨rfl, -, failure, rfl⟩ | ⟨⟨⟩, opened, hsay, -, h₁⟩
  · exact ⟨rfl, .inl rfl⟩
  have hsteady := SourceContext.steady_resolve command.source.request
  rcases runs_bind.mp h₁ with ⟨failure, rfl, hf⟩ | ⟨first, context, s, rest, rfl, hv, hl⟩
  · obtain ⟨_, _, -, hresolve, -⟩ :=
      runs_step_of_open (by decide) hsteady hf (open_of_runs_say hsay)
    rcases SourceContext.runs_resolve_of_answer hresolve with ⟨rfl, -⟩ | ⟨answer, rfl, hfailure⟩
    · exact ⟨rfl, .inl rfl⟩
    · exact ⟨rfl, .inr ⟨answer, failure, rfl, hfailure.symm, rfl⟩⟩
  · obtain ⟨_, full, -, hdefinition⟩ := returns_resolveSource command hv
    exact absurd hdefinition (hunread full context)

end FromTable

/-- All columns that a source is asked for are there: the selected ones and those of the filters. -/
def SourceTable.FoundIn (source : SourceTable) (full : TableDefinition) : Prop :=
  ∀ name ∈ SourceContext.selectedOf source.request full ++ source.filters.map (·.column),
    full.columns.contains name = true

/-- A filter whose column is there has named it, since descriptions name all columns. -/
theorem SourceTable.FoundIn.column_ne {source : SourceTable} {full : TableDefinition}
    {exchange : Exchange} {table : TableName} {filter : CommandFilter} (h : source.FoundIn full)
    (hdescribes : exchange.Describes table (some full)) (hmem : filter ∈ source.filters) :
    filter.column ≠ "" := by
  intro hempty
  obtain ⟨column, hget⟩ := ColumnCollection.exists_get?_of_contains
    (h filter.column (List.mem_append_right _ (List.mem_map_of_mem hmem)))
  obtain ⟨hcolumn, hname⟩ := ColumnCollection.mem_of_get? hget
  refine hdescribes.named column hcolumn (Text.eq_empty_of_lower ?_)
  rw [hname, hempty]
  rfl

namespace SourceContext

variable {command : TableCommand} {full : TableDefinition}

/-- A source that has all its columns is not read for the first filter that cannot be added. -/
theorem ofDefinition_of_refused {before rest : List CommandFilter} {filter : CommandFilter}
    {failure : Failure} (hfilters : command.source.filters = before ++ filter :: rest)
    (hfound : command.source.FoundIn full)
    (hbefore : ∀ earlier ∈ before, ∀ query : FilterQuery,
      ∃ next, query.add earlier.spec = .ok next)
    (hrefused : ∀ query : FilterQuery, query.add filter.spec = .error failure) :
    ofDefinition command.source.request full = .error failure := by
  have hspecs : command.source.request.filters =
      before.map CommandFilter.spec ++ filter.spec :: rest.map CommandFilter.spec := by
    change command.source.filters.map CommandFilter.spec = _
    rw [hfilters, List.map_append, List.map_cons]
  refine ofDefinition_eq_error (by simp [hspecs])
    (fun name hname => hfound name (List.mem_append_left _ hname)) (fun spec hspec => ?_) ?_
  · obtain ⟨given, hgiven, rfl⟩ := List.mem_map.mp hspec
    exact ⟨given.column, rfl,
      hfound _ (List.mem_append_right _ (List.mem_map_of_mem hgiven))⟩
  · rw [hspecs]
    refine FilterQuery.select_eq_error (fun spec hspec => ?_) hrefused
    obtain ⟨earlier, hearlier, rfl⟩ := List.mem_map.mp hspec
    exact hbefore earlier hearlier

end SourceContext

namespace Handler

variable {handler : Handler} {config : Config} {credentials : Credentials}
  {command : TableCommand} {features : List String} {options : RuntimeOptions}
  {session after : Session} {exchanges : List Exchange} {outcome : Except Failure ImportResponse}

/-- A run whose source cannot be read under any description fails. It gets no further than the
connection, or no further than the description, and then it fails as the reading does. -/
theorem runs_of_unread
    (hunread : ∀ full context, SourceContext.ofDefinition command.source.request full ≠ .ok context)
    (hrun : Runs (handler.run config credentials (.table command) features options) session
      exchanges outcome after) :
    outcome.isOk = false ∧ (exchanges = [] ∨ ∃ request project,
      exchanges = [⟨.connect request, project⟩] ∨ ∃ answer failure,
        exchanges =
          [⟨.connect request, project⟩, ⟨.reflect command.source.label.tableName, answer⟩] ∧
        Warehouse.defined command.source.label.tableName answer >>=
          SourceContext.ofReflected command.source.request = .error failure ∧
        outcome = .error failure) := by
  rcases runs_connected hrun with
    ⟨rfl, hfailed⟩ | ⟨request, project, performed, begun, given, ended, rfl, -, hp, hfails, -⟩
  · exact ⟨hfailed, .inl rfl⟩
  have hunbegun {failure : Failure} (hthrow : Runs (throw failure) begun performed given ended) :
      performed = [] ∧ given.isOk = false := by
    obtain ⟨rfl, rfl, -⟩ := runs_throw.mp hthrow
    exact ⟨rfl, rfl⟩
  have hperformed : given.isOk = false ∧ (performed = [] ∨ ∃ answer failure,
      performed = [⟨.reflect command.source.label.tableName, answer⟩] ∧
      Warehouse.defined command.source.label.tableName answer >>=
        SourceContext.ofReflected command.source.request = .error failure ∧
      given = .error failure) := by
    cases handler with
    | files => exact ⟨(hunbegun hp).2, .inl (hunbegun hp).1⟩
    | openKind => exact ⟨(hunbegun hp).2, .inl (hunbegun hp).1⟩
    | tables => exact FromTable.runs_run_of_unread hunread hp
  obtain ⟨hgiven, hperformed⟩ := hperformed
  obtain ⟨failure, rfl⟩ : ∃ failure, given = .error failure := by
    cases given with
    | ok response => cases hgiven
    | error failure => exact ⟨failure, rfl⟩
  obtain rfl := hfails failure rfl
  refine ⟨rfl, .inr ⟨request, project, ?_⟩⟩
  rcases hperformed with rfl | ⟨answer, _, rfl, hreading, ⟨⟩⟩
  · exact .inl rfl
  · exact .inr ⟨answer, failure, rfl, hreading, rfl⟩

/-- A run for a command that asks for a number with a text that is none fails, behind the connection
and the description of the source; where the source has all its columns, for the first such filter
that is reached, and the failure names a text that is no number. -/
theorem runs_refused_number {before rest : List CommandFilter} {filter : CommandFilter}
    (hrun : Runs (handler.run config credentials (.table command) features options) session
      exchanges outcome after)
    (hfilters : command.source.filters = before ++ filter :: rest)
    (htype : filter.type = .integer)
    (hnone : filter.values.mapM Number.wholeNumber? = none) :
    outcome.isOk = false ∧ (∀ exchange ∈ exchanges, exchange.call.Looks) ∧
      (filter.Supported →
        (∀ earlier ∈ before, ∀ query : FilterQuery, ∃ next, query.add earlier.spec = .ok next) →
        ∀ exchange ∈ exchanges, ∀ full,
          exchange.Describes command.source.label.tableName (some full) →
          command.source.FoundIn full →
          ∃ text ∈ filter.values, Number.wholeNumber? text = none ∧
            outcome = .error (.invalidFilterValue text filter.column "INT64")) := by
  have hmem : filter ∈ command.source.filters := by simp [hfilters]
  have hunread (full : TableDefinition) (context : SourceContext) :
      SourceContext.ofDefinition command.source.request full ≠ .ok context := by
    intro hok
    obtain ⟨numbers, hnumbers⟩ := SourceContext.exists_wholeNumber hok hmem htype
    cases hnone.symm.trans hnumbers
  have hconnect {request : ClientRequest} {project : String} {table : TableName}
      {full : TableDefinition} :
      ¬ Exchange.Describes ⟨.connect request, project⟩ table (some full) := by
    rintro ⟨answer, heq, -⟩
    cases heq
  obtain ⟨hfailed, hexchanges⟩ := runs_of_unread hunread hrun
  refine ⟨hfailed, ?_, fun hsupported hbefore exchange hexchange full hdescribes hfound => ?_⟩
  · rcases hexchanges with rfl | ⟨_, _, rfl | ⟨_, _, rfl, -⟩⟩ <;> simp [Call.Looks]
  rcases hexchanges with rfl | ⟨request, project, rfl | ⟨answer, failure, rfl, hreading, rfl⟩⟩
  · cases hexchange
  · obtain rfl := List.mem_singleton.mp hexchange
    exact absurd hdescribes hconnect
  rcases List.mem_pair.mp hexchange with rfl | rfl
  · exact absurd hdescribes hconnect
  obtain ⟨text, htext, hwrong, hrefused⟩ := hsupported.add_spec_of_none
    (hfound.column_ne hdescribes hmem) htype hnone
  refine ⟨text, htext, hwrong, congrArg _ ?_⟩
  rw [Warehouse.defined_eq_ok.mpr hdescribes] at hreading
  exact Except.error.inj (hreading.symm.trans
    (SourceContext.ofDefinition_of_refused hfilters hfound hbefore hrefused))

/-- A full import that ended well had filters whose numbers fit. -/
theorem fits_of_runs_ok {response : ImportResponse} (hfull : command.options.importType = .full)
    (hrun : Runs (handler.run config credentials (.table command) features options) session
      exchanges (.ok response) after) :
    ∀ filter ∈ command.source.filters, filter.Fits := by
  rcases runs_connected hrun with
    ⟨-, hnever⟩ | ⟨request, project, performed, begun, given, ended, -, -, hp, -, hvalue⟩
  · cases hnever
  obtain rfl := hvalue response rfl
  cases handler with
  | tables => exact FromTable.returns_run _ _ _ hfull hp
  | files => cases (runs_throw.mp hp).2.1
  | openKind => cases (runs_throw.mp hp).2.1

/-- What becomes of the texts in filters for whole numbers. A filter with values that its operator
takes, on a column with a name, is refused for a text that writes no number, or else binds the
numbers that its texts write, each as it is: they lie in a range if and only if the texts say so. A
run ends for want of a text only if some number does not fit a word of 64 bits; where one does not,
no full import ends well. A text that writes no number ends a run before any statement is submitted,
and if the source has all columns and the filters in front can be added, the run ends with the
refusal of such a text. -/
theorem filter_numbers_outcome
    (hrun : Runs (handler.run config credentials (.table command) features options) session
      exchanges outcome after) :
    (∀ (filter : CommandFilter) (query : FilterQuery), filter.Supported → filter.type = .integer →
      (filter.column = "" ∧ query.add filter.spec = .error .missingArgument) ∨
      (∃ text ∈ filter.values, Number.wholeNumber? text = none ∧
        query.add filter.spec = .error (.invalidFilterValue text filter.column "INT64")) ∨
      ∃ numbers clause, filter.values.mapM Number.wholeNumber? = some numbers ∧
        query.add filter.spec = .ok (query.extended [clause]
          [⟨parameterName (query.bindings.length + 1), "INT64",
            .ofValues (numbers.map .int)⟩])) ∧
    (outcome = .error .unprintableDocument →
      ∃ filter ∈ command.source.filters, ¬ filter.Fits) ∧
    (command.options.importType = .full → (∃ filter ∈ command.source.filters, ¬ filter.Fits) →
      outcome.isOk = false) ∧
    ∀ before filter rest, command.source.filters = before ++ filter :: rest →
      filter.type = .integer → (∃ text ∈ filter.values, Number.wholeNumber? text = none) →
      outcome.isOk = false ∧ (∀ exchange ∈ exchanges, exchange.call.Looks) ∧
      (filter.Supported →
        (∀ earlier ∈ before, ∀ query : FilterQuery, ∃ next, query.add earlier.spec = .ok next) →
        ∀ exchange ∈ exchanges, ∀ full,
          exchange.Describes command.source.label.tableName (some full) →
          command.source.FoundIn full →
          ∃ text ∈ filter.values, Number.wholeNumber? text = none ∧
            outcome = .error (.invalidFilterValue text filter.column "INT64")) := by
  refine ⟨?_, ?_, ?_, ?_⟩
  · intro filter query hsupported htype
    by_cases hnamed : filter.column = ""
    · exact .inl ⟨hnamed, CommandFilter.add_spec_of_unnamed hnamed query⟩
    right
    cases hnumbers : filter.values.mapM Number.wholeNumber? with
    | none =>
      obtain ⟨text, htext, hwrong, hrefused⟩ := hsupported.add_spec_of_none hnamed htype hnumbers
      exact .inl ⟨text, htext, hwrong, hrefused query⟩
    | some numbers =>
      obtain ⟨clause, hadded⟩ := hsupported.add_spec_of_some hnamed htype hnumbers query
      exact .inr ⟨numbers, clause, rfl, hadded⟩
  · rintro rfl
    by_contra hnone
    have hfits : ∀ filter ∈ command.source.filters, filter.Fits := fun filter hmem =>
      by_contra fun hunfit => hnone ⟨filter, hmem, hunfit⟩
    cases passing_run _ _ _ _ _ _ hfits hrun (fun _ _ => trivial) _ rfl
  · rintro hfull ⟨filter, hmem, hunfit⟩
    cases outcome with
    | ok response => exact absurd (fits_of_runs_ok hfull hrun filter hmem) hunfit
    | error failure => rfl
  · intro before filter rest hfilters htype hwrong
    exact runs_refused_number hrun hfilters htype (mapM_eq_none hwrong)

/-- A full import under a filter for whole numbers. -/
def filteredImport (values : List String) : TableCommand where
  source := {
    dataset := "data"
    table := "sales"
    filters := [⟨"a", .eq, values, .integer⟩] }
  destination := ⟨"data", "report"⟩
  options := { importType := .full, dedupType := .insertDuplicates }

/-- A full import under a filter for the first number that does not fit a word of 64 bits. -/
def largeImport : TableCommand := filteredImport ["18446744073709551616"]

/-- Its source is there, and its destination is not. -/
def largeImportTables : TableName → Except Fault ReflectedTable :=
  ReflectedTable.among (ReflectedTable.ofNames ["a"] []) [⟨"data", "sales"⟩]

/-- The exchanges of this command. -/
def largeImportExchanges : List Exchange :=
  (Handler.tables.run Config.plain Credentials.plain (.table largeImport) [] {}).against
    Session.plain (Script.obliging largeImportTables)

/-- Whether a run ended for want of a text. -/
def lacksText : Except Failure ImportResponse → Bool
  | .error .unprintableDocument => true
  | _ => false

/-- A run that did ended with that failure. -/
theorem eq_of_lacksText {outcome : Except Failure ImportResponse} (h : lacksText outcome = true) :
    outcome = .error .unprintableDocument := by
  unfold lacksText at h
  split at h
  · rfl
  · cases h

/-- The last of them creates the destination, behind which the run ends for want of a text. -/
theorem largeImport_ends :
    largeImportExchanges.length = 4 ∧
    (∃ created, largeImportExchanges[3]? = some created ∧
      created.statement? = some (.createTable ⟨"data", "report"⟩
        [⟨"a", "STRING", none, .flag true, none, none⟩] [])) ∧
    ∃ after, Runs (Handler.tables.run Config.plain Credentials.plain (.table largeImport) [] {})
      Session.plain largeImportExchanges (.error .unprintableDocument) after := by
  have hrun := Script.runs_run (Script.obliging largeImportTables) []
    ((Handler.tables.run Config.plain Credentials.plain (.table largeImport) [] {}).run.run
      Session.plain)
  have hends : lacksText (Script.run (Script.obliging largeImportTables) [] ((Handler.tables.run
      Config.plain Credentials.plain (.table largeImport) [] {}).run.run Session.plain)).1.1 =
        true := by decide +kernel
  generalize (Script.run (Script.obliging largeImportTables) [] ((Handler.tables.run Config.plain
    Credentials.plain (.table largeImport) [] {}).run.run Session.plain)).1 = ended at hrun hends
  obtain ⟨outcome, after⟩ := ended
  obtain rfl := eq_of_lacksText hends
  exact ⟨by decide +kernel, ⟨_, rfl, rfl⟩, after, hrun⟩

/-- A decimal is no whole number: the source is described, and the import is refused. A number that
does not fit a word is bound as it is, and the import fails behind the creation of its destination,
though not by a refusal of the filter. -/
theorem filter_numbers_outcome_decimal_large :
    ((∀ exchange ∈
        exchangesAmong (filteredImport ["7", "1.5"]) (ReflectedTable.ofNames ["a"] []),
      exchange.call.Looks) ∧
    ∃ after, Runs (Handler.tables.run Config.plain Credentials.plain
        (.table (filteredImport ["7", "1.5"])) [] {}) Session.plain
      (exchangesAmong (filteredImport ["7", "1.5"]) (ReflectedTable.ofNames ["a"] []))
      (.error (.invalidFilterValue "1.5" "a" "INT64")) after) ∧
    (∀ query : FilterQuery, ∃ clause,
      query.add (CommandFilter.spec ⟨"a", .eq, ["18446744073709551616"], .integer⟩) =
        .ok (query.extended [clause] [⟨parameterName (query.bindings.length + 1), "INT64",
          .ofValues [.int 18446744073709551616]⟩])) ∧
    (∃ filter ∈ largeImport.source.filters, ¬ filter.Fits) ∧
    largeImportExchanges.length = 4 ∧
    (∃ created, largeImportExchanges[3]? = some created ∧
      created.statement? = some (.createTable ⟨"data", "report"⟩
        [⟨"a", "STRING", none, .flag true, none, none⟩] [])) ∧
    ∃ after, Runs (Handler.tables.run Config.plain Credentials.plain (.table largeImport) [] {})
      Session.plain largeImportExchanges (.error .unprintableDocument) after := by
  constructor
  · obtain ⟨outcome, after, hrun⟩ := runs_against
      (Handler.tables.run Config.plain Credentials.plain (.table (filteredImport ["7", "1.5"])) []
        {})
      Session.plain (Script.obliging fun _ => .ok (ReflectedTable.ofNames ["a"] []))
    obtain ⟨-, hlooks, hends⟩ := (filter_numbers_outcome hrun).2.2.2 []
      ⟨"a", .eq, ["7", "1.5"], .integer⟩ [] rfl rfl ⟨"1.5", by simp, rfl⟩
    obtain ⟨text, htext, hwrong, rfl⟩ := hends ⟨by decide, .inr rfl⟩ (by simp) _
      (List.mem_iff_getElem?.mpr ⟨1, rfl⟩) _ ⟨_, rfl, _, rfl, rfl⟩
      (by unfold SourceTable.FoundIn; decide)
    refine ⟨hlooks, after, ?_⟩
    rcases List.mem_pair.mp htext with rfl | rfl
    · cases hwrong
    · exact hrun
  · obtain ⟨hlength, hcreated, after, hrun⟩ := largeImport_ends
    obtain ⟨hadds, hunprintable, -, -⟩ := filter_numbers_outcome hrun
    refine ⟨fun query => ?_, hunprintable rfl, hlength, hcreated, after, hrun⟩
    rcases hadds ⟨"a", .eq, ["18446744073709551616"], .integer⟩ query ⟨by decide, .inr rfl⟩ rfl with
      ⟨hunnamed, -⟩ | ⟨text, htext, hwrong, -⟩ | ⟨numbers, clause, hnumbers, hadded⟩
    · exact absurd hunnamed (by decide)
    · obtain rfl := List.mem_singleton.mp htext
      cases hwrong
    · obtain rfl : [18446744073709551616] = numbers := Option.some.inj hnumbers
      exact ⟨clause, hadded⟩

end Handler

end WarehouseImport
