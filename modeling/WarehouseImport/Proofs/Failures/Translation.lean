import WarehouseImport.Import.FromTable
import WarehouseImport.Proofs.Failures.Decoding
import WarehouseImport.Proofs.Failures.Search

/-!
# What service errors are reported as

A service error that ends the moving of rows is reported as one about filters if its text contains
one of three marks, otherwise as one about a value that is too long if its decoded message holds
the words for that, and otherwise as it is. That holds unless the translation itself slips: on a
text about types that names fewer than two of them, on a list of errors from which no message can be
taken, on a message in which words cannot be searched or that is no text although it holds them,
and on lengths with too many digits. Then the failure of the translation is reported, and the
service error is lost.
-/

namespace WarehouseImport

/-- Words can be searched in texts, lists and objects. -/
def Json.Searchable : Json → Prop
  | .str _ | .arr _ | .obj _ => True
  | _ => False

/-- A document holds words: a text contains them, a list has them as an item, an object as a
name. -/
def Json.Holds (words : String) : Json → Prop
  | .str text => Failure.Contains text words
  | .arr items => .str words ∈ items
  | .obj members => ∃ value, (words, value) ∈ members
  | _ => False

namespace Failure

/-- The words of the service about values of types that an operator does not take. -/
def signatureMark : String := "No matching signature for operator "

/-- The words of the service about filters. -/
def filterMarks : List String :=
  [signatureMark, "Invalid", "can be used for partition elimination"]

end Failure

namespace ApiError

open Failure

/-- The text of a service error contains words about filters. -/
def MarksFilter (e : ApiError) : Prop := ∃ words ∈ filterMarks, Contains e.message words

/-- The decoded message of a service error holds the words about a value that is too long. -/
def MarksLength (e : ApiError) : Prop :=
  ∃ message, (backend e).decodedMessage = .ok message ∧ message.Holds lengthMark

/-- What a service error is to be reported as: an error about filters or about a value that is too
long, if it is marked as one, and otherwise itself. -/
structure Translates (e : ApiError) (failure : Failure) : Prop where
  filter : e.MarksFilter → failure.family? = some .badFilter
  length : ¬e.MarksFilter → e.MarksLength → failure.family? = some .maximumLength
  other : ¬e.MarksFilter → ¬e.MarksLength → failure = backend e

/-- How the translation of a service error fails. -/
inductive Slips (e : ApiError) : Failure → Prop
  /-- An error about types names none. -/
  | noTypes (hmark : Contains e.message signatureMark)
      (hnone : ∀ words, ¬NamesTypesFirst e.message.toList words) :
      Slips e (unexpectedErrorText e.message)
  /-- An error about types names a single one. -/
  | oneType {words : List Char} (hmark : Contains e.message signatureMark)
      (hfirst : NamesTypesFirst e.message.toList words) (hone : ',' ∉ words) :
      Slips e noSuchPosition
  /-- The error lists errors from which no message can be taken. -/
  | undecoded {entries : List Json} {failure : Failure}
      (hmark : ¬Contains e.message signatureMark) (hlists : e.ListsErrors entries)
      (hstumbles : Stumbles entries failure) : Slips e failure
  /-- The message is neither a text nor a list nor an object. -/
  | unsearchable {message : Json} (hmark : ¬e.MarksFilter)
      (hdecoded : (backend e).decodedMessage = .ok message) (hkind : ¬message.Searchable) :
      Slips e wrongKind
  /-- The message is about a length but no text. -/
  | noText {message : Json} (hmark : ¬e.MarksFilter)
      (hdecoded : (backend e).decodedMessage = .ok message) (hholds : message.Holds lengthMark)
      (hkind : message.asText? = none) : Slips e wrongKind
  /-- The message names a length with too many digits. -/
  | digits {text : String} {count : Nat} (hmark : ¬e.MarksFilter)
      (hdecoded : (backend e).decodedMessage = .ok (.str text)) (hholds : Contains text lengthMark)
      (hlong : Overflow.ofMessage text = .error count) : Slips e (tooManyDigits count)

end ApiError

namespace Failure

/-- A message that can be searched is found to hold words or not. -/
theorem marksLength_of_searchable {message : Json} (h : message.Searchable) :
    ∃ holds, marksLength message = .ok holds ∧ (holds = true ↔ message.Holds lengthMark) := by
  cases message with
  | str text => exact ⟨_, rfl, mentions_eq_true⟩
  | arr items =>
    have hitem (item : Json) : item.asText? = some lengthMark ↔ item = .str lengthMark := by
      cases item <;> simp [Json.asText?]
    exact ⟨_, rfl, by simp [Json.Holds, hitem]⟩
  | obj members => exact ⟨_, rfl, by simp [Json.Holds, List.lookup_isSome_iff]⟩
  | _ => exact h.elim

/-- Other messages cannot be searched. -/
theorem marksLength_of_not {message : Json} (h : ¬message.Searchable) :
    marksLength message = .error wrongKind := by
  cases message with
  | str | arr | obj => exact absurd trivial h
  | _ => rfl

/-- An error about types that names none is unexpected. -/
theorem ofTypes_of_none {text : String} (h : ∀ words, ¬NamesTypesFirst text.toList words) :
    ofTypes text = unexpectedErrorText text := by
  have htypes : typesIn? text.toList = none :=
    Option.eq_none_iff_forall_ne_some.mpr fun words hsome => h words (typesIn?_eq_some.mp hsome)
  rw [ofTypes, htypes]

/-- An error about types that names a single one has no second one. -/
theorem ofTypes_of_one {text : String} {words : List Char}
    (hfirst : NamesTypesFirst text.toList words) (hone : ',' ∉ words) :
    ofTypes text = noSuchPosition := by
  have hlength := length_splitCommas words
  rw [List.count_eq_zero.mpr hone] at hlength
  obtain ⟨type, htype⟩ := List.length_eq_one_iff.mp hlength
  rw [ofTypes, typesIn?_eq_some.mpr hfirst]
  dsimp only
  rw [htype]

/-- An error about types that names several is one about filter types. -/
theorem ofTypes_of_several {text : String} {words : List Char}
    (hfirst : NamesTypesFirst text.toList words) (hcomma : ',' ∈ words) :
    (ofTypes text).family? = some .badFilter := by
  have hcount := List.count_pos_iff.mpr hcomma
  rw [ofTypes, typesIn?_eq_some.mpr hfirst]
  dsimp only
  match hparts : splitCommas words with
  | expected :: actual :: rest => rfl
  | [] | [_] =>
    have hlength := length_splitCommas words
    simp only [hparts, List.length_nil, List.length_cons] at hlength
    omega

end Failure

namespace ApiError

open Failure

variable {e : ApiError} {failure : Failure}

/-- An error about filters mentions one of their marks. -/
theorem marksFilter_iff :
    e.MarksFilter ↔ mentions e.message signatureMark = true ∨
      (mentions e.message "Invalid" ||
        mentions e.message "can be used for partition elimination") = true := by
  simp [MarksFilter, filterMarks, mentions_eq_true]

/-- A failure of the translation is of no family and is no service error. -/
theorem Slips.not_translates (h : e.Slips failure) : ¬e.Translates failure := by
  have hkind : failure.family? = none ∧ failure ≠ backend e := by
    cases h with
    | undecoded hmark hlists hstumbles => cases hstumbles <;> exact ⟨rfl, nofun⟩
    | _ => exact ⟨rfl, nofun⟩
  intro htranslates
  by_cases hfilter : e.MarksFilter
  · cases hkind.1.symm.trans (htranslates.filter hfilter)
  by_cases hlength : e.MarksLength
  · cases hkind.1.symm.trans (htranslates.length hfilter hlength)
  · exact hkind.2 (htranslates.other hfilter hlength)

/-- An error about types is reported as one. -/
theorem reportedAs_of_signature (h : Contains e.message signatureMark) :
    FromTable.reportedAs (backend e) = ofTypes e.message := by
  have hbad : (backend e).asBadFilter? = some (ofTypes e.message) := if_pos (mentions_eq_true.mpr h)
  rw [FromTable.reportedAs, hbad]

/-- Any other error about filters is reported with its decoded message. -/
theorem reportedAs_of_filter (hno : ¬Contains e.message signatureMark) (h : e.MarksFilter) :
    FromTable.reportedAs (backend e) =
      match (backend e).decodedMessage with
      | .ok message => refusedFilter message
      | .error other => other := by
  have hmark := fun hmark => hno (mentions_eq_true.mp hmark)
  have hbad : (backend e).asBadFilter? =
      match (backend e).decodedMessage with
      | .ok message => some (refusedFilter message)
      | .error other => some other :=
    (if_neg hmark).trans (if_pos ((marksFilter_iff.mp h).resolve_left hmark))
  rw [FromTable.reportedAs, hbad]
  cases (backend e).decodedMessage <;> rfl

/-- An error that is not about filters is reported as one about a value that is too long, or
as itself. -/
theorem reportedAs_of_not_filter (h : ¬e.MarksFilter)
    (hends : (backend e).asOverflow = .ok failure ∨ (backend e).asOverflow = .error failure) :
    FromTable.reportedAs (backend e) = failure := by
  have hmarks := fun hmarks => h (marksFilter_iff.mpr hmarks)
  have hbad : (backend e).asBadFilter? = none :=
    (if_neg fun hmark => hmarks (.inl hmark)).trans (if_neg fun hrest => hmarks (.inr hrest))
  rw [FromTable.reportedAs, hbad]
  rcases hends with hends | hends <;> rw [hends]

/-- A message that is not about a length leaves the error as it is. -/
theorem asOverflow_of_not_holds {message : Json}
    (hdecoded : (backend e).decodedMessage = .ok message) (hkind : message.Searchable)
    (hholds : ¬message.Holds lengthMark) : (backend e).asOverflow = .ok (backend e) := by
  obtain ⟨holds, hmarks, hiff⟩ := marksLength_of_searchable hkind
  obtain rfl : holds = false := Bool.eq_false_iff.mpr fun htrue => hholds (hiff.mp htrue)
  exact bind_eq_ok.mpr ⟨message, hdecoded, bind_eq_ok.mpr ⟨false, hmarks, rfl⟩⟩

/-- A text about a length is taken apart. -/
theorem asOverflow_of_contains {text : String}
    (hdecoded : (backend e).decodedMessage = .ok (.str text))
    (hholds : Contains text lengthMark) : (backend e).asOverflow = ofOverflow text := by
  have hmarks : marksLength (.str text) = .ok true := congrArg _ (mentions_eq_true.mpr hholds)
  simp [asOverflow, hdecoded, hmarks, Bind.bind, Except.bind]

/-- A message about a length that is no text cannot be taken apart. -/
theorem asOverflow_of_noText {message : Json}
    (hdecoded : (backend e).decodedMessage = .ok message) (hholds : message.Holds lengthMark)
    (hkind : message.asText? = none) : (backend e).asOverflow = .error wrongKind := by
  have hsearchable : message.Searchable := by
    cases message with
    | str | arr | obj => trivial
    | _ => exact hholds
  obtain ⟨holds, hmarks, hiff⟩ := marksLength_of_searchable hsearchable
  obtain rfl : holds = true := hiff.mpr hholds
  refine bind_eq_error.mpr (.inr ⟨message, hdecoded, bind_eq_error.mpr (.inr ⟨true, hmarks, ?_⟩)⟩)
  cases message with
  | str text => cases hkind
  | _ => rfl

/-- Where the translation slips, its failure is reported. -/
theorem Slips.eq_reportedAs (h : e.Slips failure) :
    FromTable.reportedAs (backend e) = failure := by
  cases h with
  | noTypes hmark hnone =>
    rw [reportedAs_of_signature hmark]
    exact ofTypes_of_none hnone
  | oneType hmark hfirst hone =>
    rw [reportedAs_of_signature hmark]
    exact ofTypes_of_one hfirst hone
  | undecoded hmark hlists hstumbles =>
    have hdecoded := decodedMessage_eq_error.mpr ⟨_, hlists, hstumbles⟩
    by_cases hfilter : e.MarksFilter
    · rw [reportedAs_of_filter hmark hfilter, hdecoded]
    · exact reportedAs_of_not_filter hfilter (.inr (bind_eq_error.mpr (.inl hdecoded)))
  | unsearchable hmark hdecoded hkind =>
    have hmarks := marksLength_of_not hkind
    refine reportedAs_of_not_filter hmark (.inr (bind_eq_error.mpr (.inr ⟨_, hdecoded, ?_⟩)))
    exact bind_eq_error.mpr (.inl hmarks)
  | noText hmark hdecoded hholds hkind =>
    exact reportedAs_of_not_filter hmark (.inr (asOverflow_of_noText hdecoded hholds hkind))
  | digits hmark hdecoded hholds hlong =>
    refine reportedAs_of_not_filter hmark (.inr ?_)
    rw [asOverflow_of_contains hdecoded hholds, ofOverflow, hlong]

/-- An error about types is reported as what it is to be, or its translation slips. -/
theorem translates_of_signature (h : Contains e.message signatureMark) :
    e.Translates (FromTable.reportedAs (backend e)) ∨ ∃ slip, e.Slips slip := by
  have hfilter : e.MarksFilter := ⟨signatureMark, by simp [filterMarks], h⟩
  by_cases hfirst : ∃ words, NamesTypesFirst e.message.toList words
  · obtain ⟨words, hfirst⟩ := hfirst
    by_cases hcomma : ',' ∈ words
    · left
      rw [reportedAs_of_signature h]
      exact ⟨fun _ => ofTypes_of_several hfirst hcomma, fun hno => absurd hfilter hno,
        fun hno => absurd hfilter hno⟩
    · exact .inr ⟨_, .oneType h hfirst hcomma⟩
  · exact .inr ⟨_, .noTypes h fun words hwords => hfirst ⟨words, hwords⟩⟩

/-- An error that is not about filters and whose message can be decoded is reported as what it is
to be, or its translation slips. -/
theorem translates_of_decoded {message : Json} (h : ¬e.MarksFilter)
    (hdecoded : (backend e).decodedMessage = .ok message) :
    e.Translates (FromTable.reportedAs (backend e)) ∨ ∃ slip, e.Slips slip := by
  have hlength : e.MarksLength ↔ message.Holds lengthMark := by
    constructor
    · rintro ⟨other, hother, hholds⟩
      obtain rfl := Except.ok.inj (hdecoded.symm.trans hother)
      exact hholds
    · exact fun hholds => ⟨message, hdecoded, hholds⟩
  by_cases hkind : message.Searchable
  · by_cases hholds : message.Holds lengthMark
    · cases htext : message.asText? with
      | none => exact .inr ⟨_, .noText h hdecoded hholds htext⟩
      | some text =>
        obtain rfl : message = .str text := by
          cases message with
          | str own => exact congrArg _ (Option.some.inj htext)
          | _ => cases htext
        cases hread : Overflow.ofMessage text with
        | error count => exact .inr ⟨_, .digits h hdecoded hholds hread⟩
        | ok overflow =>
          have hlong : (backend e).asOverflow = .ok (tooLong text overflow) := by
            rw [asOverflow_of_contains hdecoded hholds, ofOverflow, hread]
          left
          rw [reportedAs_of_not_filter h (.inl hlong)]
          exact ⟨fun hfilter => absurd hfilter h, fun _ _ => rfl,
            fun _ hno => absurd (hlength.mpr hholds) hno⟩
    · left
      rw [reportedAs_of_not_filter h (.inl (asOverflow_of_not_holds hdecoded hkind hholds))]
      exact ⟨fun hfilter => absurd hfilter h, fun _ hmarks => absurd (hlength.mp hmarks) hholds,
        fun _ _ => rfl⟩
  · exact .inr ⟨_, .unsearchable h hdecoded hkind⟩

/-- A service error is reported as what it is to be, or its translation slips. -/
theorem translates_or_slips (e : ApiError) :
    e.Translates (FromTable.reportedAs (backend e)) ∨ ∃ slip, e.Slips slip := by
  by_cases hsignature : Contains e.message signatureMark
  · exact translates_of_signature hsignature
  cases hdecoded : (backend e).decodedMessage with
  | error failure =>
    obtain ⟨entries, hlists, hstumbles⟩ := decodedMessage_eq_error.mp hdecoded
    exact .inr ⟨failure, .undecoded hsignature hlists hstumbles⟩
  | ok message =>
    by_cases hfilter : e.MarksFilter
    · left
      rw [reportedAs_of_filter hsignature hfilter, hdecoded]
      exact ⟨fun _ => rfl, fun hno => absurd hfilter hno, fun hno => absurd hfilter hno⟩
    · exact translates_of_decoded hfilter hdecoded

/-- A service error is reported as what it is to be exactly if its translation does not slip. -/
theorem translates_iff (e : ApiError) :
    e.Translates (FromTable.reportedAs (backend e)) ↔ ∀ slip, ¬e.Slips slip := by
  constructor
  · intro htranslates slip hslips
    rw [hslips.eq_reportedAs] at htranslates
    exact hslips.not_translates htranslates
  · intro hnone
    exact (translates_or_slips e).resolve_right fun ⟨slip, hslips⟩ => hnone slip hslips

end ApiError

end WarehouseImport
