import WarehouseImport.Failure.Decoding
import WarehouseImport.Proofs.Results

/-!
# What cannot be decoded

The message of a service error is taken from its details, or from the errors that the document in
its text lists. Each of these must be an object, and where there are several their messages must be
texts. Decoding fails exactly where one of them is something else.
-/

namespace WarehouseImport

namespace Json

/-- The value is an object. -/
def IsObject (value : Json) : Prop := ∃ members, value = .obj members

/-- A document without a message of its own lists the errors of the error that it holds. -/
def ListsErrors (document : Json) (entries : List Json) : Prop :=
  document.get? "message" = none ∧
    ∃ error, document.get? "error" = some error ∧ error.get? "errors" = some (.arr entries)

/-- Only objects have members. -/
theorem isObject_of_get? {value member : Json} {name : String} (h : value.get? name = some member) :
    value.IsObject := by
  cases value with
  | obj members => exact ⟨members, rfl⟩
  | _ => cases h

end Json

/-- The errors that a service error lists are its details, or, where it has none, those that the
document in its text lists. -/
def ApiError.ListsErrors (e : ApiError) (entries : List Json) : Prop :=
  (e.details ≠ [] ∧ entries = e.details) ∨
    (e.details = [] ∧ ∃ document, Json.read? e.message = some document ∧
      document.ListsErrors entries)

namespace Failure

/-- Why no message can be taken from a list of errors: one of them is no object, or there are
several and the message of one is no text. -/
inductive Stumbles (entries : List Json) : Failure → Prop
  | noObject {entry : Json} (hmem : entry ∈ entries) (hkind : ¬entry.IsObject) :
      Stumbles entries noSuchPart
  | noText {entry message : Json} (hseveral : 1 < entries.length)
      (hobjects : ∀ entry ∈ entries, entry.IsObject) (hmem : entry ∈ entries)
      (hmessage : entry.get? "message" = some message) (hkind : message.asText? = none) :
      Stumbles entries wrongKind

variable {fallback document : Json} {entries messages : List Json} {failure : Failure}

/-- A member is asked of objects only. -/
theorem messageMember_eq_error :
    messageMember fallback document = .error failure ↔
      failure = noSuchPart ∧ ¬document.IsObject := by
  cases document <;> simp [messageMember, Json.IsObject, eq_comm]

/-- A member that is asked for is that of the object, or what stands for a missing one. -/
theorem eq_of_messageMember {message : Json} (h : messageMember fallback document = .ok message) :
    message = (document.get? "message").getD fallback := by
  cases document with
  | obj members => exact (Except.ok.inj h).symm
  | _ => cases h

/-- Texts of messages are asked of texts only. -/
theorem allTexts_eq_error :
    allTexts messages = .error failure ↔
      failure = wrongKind ∧ ∃ message ∈ messages, message.asText? = none := by
  refine (mapM_eq_error fun message other h => (?_ : other = wrongKind)).trans ?_
  · cases message with
    | str text => cases h
    | _ => exact (Except.error.inj h).symm
  · refine and_congr_right fun _ => exists_congr fun message => and_congr_right fun _ => ?_
    cases message <;> simp [Json.asText?]

/-- The messages of several errors are their members of that name, or empty. -/
theorem messages_eq (h : entries.mapM (messageMember (.str "")) = .ok messages) :
    messages = entries.map fun entry => (entry.get? "message").getD (.str "") := by
  have hkept : ∀ entry message, messageMember (.str "") entry = .ok message →
      id message = (entry.get? "message").getD (.str "") :=
    fun _ _ hmessage => eq_of_messageMember hmessage
  rw [← map_of_mapM hkept h, List.map_id]

/-- Of several objects the messages that are no texts are members of that name. -/
theorem exists_noText :
    (∃ message ∈ entries.map fun entry => (entry.get? "message").getD (.str ""),
        message.asText? = none) ↔
      ∃ entry ∈ entries, ∃ message, entry.get? "message" = some message ∧
        message.asText? = none := by
  have hmember (entry : Json) : ((entry.get? "message").getD (.str "")).asText? = none ↔
      ∃ message, entry.get? "message" = some message ∧ message.asText? = none := by
    cases entry.get? "message" with
    | none => simp [Json.asText?]
    | some message => simp
  constructor
  · rintro ⟨message, hmem, hkind⟩
    obtain ⟨entry, hentry, rfl⟩ := List.mem_map.mp hmem
    exact ⟨entry, hentry, (hmember entry).mp hkind⟩
  · rintro ⟨entry, hmem, hkind⟩
    exact ⟨_, List.mem_map_of_mem hmem, (hmember entry).mpr hkind⟩

/-- Several errors give no message exactly where the list of them stumbles. -/
theorem several_eq_error (hseveral : 1 < entries.length) :
    (do
      let messages ← entries.mapM (messageMember (.str ""))
      let texts ← allTexts messages
      return Json.str ("Errors: " ++ String.intercalate "\n" texts)) = .error failure ↔
      Stumbles entries failure := by
  have honly : ∀ entry other, messageMember (.str "") entry = .error other → other = noSuchPart :=
    fun entry other h => (messageMember_eq_error.mp h).1
  rw [bind_eq_error, mapM_eq_error honly]
  constructor
  · rintro (⟨rfl, entry, hmem, hfailed⟩ | ⟨messages, hmessages, h⟩)
    · exact .noObject hmem (messageMember_eq_error.mp hfailed).2
    · rcases bind_eq_error.mp h with htexts | ⟨texts, -, hdone⟩
      · obtain ⟨rfl, hno⟩ := allTexts_eq_error.mp htexts
        rw [messages_eq hmessages] at hno
        obtain ⟨entry, hmem, message, hmessage, hkind⟩ := exists_noText.mp hno
        refine .noText hseveral (fun other hother => ?_) hmem hmessage hkind
        apply Classical.byContradiction
        intro hother'
        have hfailed := (mapM_eq_error honly).mpr
          ⟨rfl, other, hother, messageMember_eq_error.mpr ⟨rfl, hother'⟩⟩
        rw [hmessages] at hfailed
        cases hfailed
      · cases hdone
  · rintro (⟨hmem, hkind⟩ | ⟨-, hobjects, hmem, hmessage, hkind⟩)
    · exact .inl ⟨rfl, _, hmem, messageMember_eq_error.mpr ⟨rfl, hkind⟩⟩
    · cases hmessages : entries.mapM (messageMember (.str "")) with
      | error other =>
        obtain ⟨-, other, hother, hfailed⟩ := (mapM_eq_error honly).mp hmessages
        exact absurd (hobjects other hother) (messageMember_eq_error.mp hfailed).2
      | ok messages =>
        refine .inr ⟨messages, rfl, bind_eq_error.mpr (.inl ?_)⟩
        rw [allTexts_eq_error, messages_eq hmessages]
        exact ⟨rfl, exists_noText.mpr ⟨_, hmem, _, hmessage, hkind⟩⟩

/-- No message can be taken from a list of errors exactly where it stumbles. -/
theorem detailsMessage_eq_error :
    detailsMessage fallback entries = .error failure ↔ Stumbles entries failure := by
  match entries with
  | [] =>
    constructor
    · intro h
      cases h
    · rintro (⟨hmem, -⟩ | ⟨hlong, -⟩)
      · cases hmem
      · cases hlong
  | [entry] =>
    rw [detailsMessage, messageMember_eq_error]
    constructor
    · rintro ⟨rfl, hkind⟩
      exact .noObject (by simp) hkind
    · rintro (⟨hmem, hkind⟩ | ⟨hlong, -⟩)
      · exact ⟨rfl, List.mem_singleton.mp hmem ▸ hkind⟩
      · simp at hlong
  | first :: second :: rest => exact several_eq_error (by simp)

/-- An object that describes an error gives no message exactly where it lists errors that
stumble. -/
theorem objectMessage_eq_error {text : String} :
    objectMessage document text = .error failure ↔
      ∃ entries, document.ListsErrors entries ∧ Stumbles entries failure := by
  have hmessage {message : Json} (h : document.get? "message" = some message) :
      objectMessage document text = .ok message := by
    rw [objectMessage, h]
  constructor
  · intro h
    cases hown : document.get? "message" with
    | some message =>
      rw [hmessage hown] at h
      cases h
    | none =>
      rw [objectMessage, hown] at h
      dsimp only at h
      split at h
      · cases h
      · cases h
      · next members herror =>
        split at h
        · next entry entries herrors =>
          exact ⟨entry :: entries, ⟨hown, _, herror, herrors⟩, detailsMessage_eq_error.mp h⟩
        · cases h
      · cases h
  · rintro ⟨entries, ⟨hown, error, herror, herrors⟩, hstumbles⟩
    obtain ⟨members, rfl⟩ := Json.isObject_of_get? herrors
    rw [objectMessage, hown, herror]
    dsimp only
    rw [herrors]
    cases entries with
    | nil =>
      rcases hstumbles with ⟨hmem, -⟩ | ⟨hlong, -⟩
      · cases hmem
      · cases hlong
    | cons entry entries => exact detailsMessage_eq_error.mpr hstumbles

/-- A text gives no message exactly where it holds a document that lists errors that stumble. -/
theorem textMessage_eq_error {text : String} :
    textMessage text = .error failure ↔
      ∃ document, Json.read? text = some document ∧
        ∃ entries, document.ListsErrors entries ∧ Stumbles entries failure := by
  unfold textMessage
  split
  · next hempty =>
    rw [String.isEmpty_iff.mp hempty]
    constructor
    · intro h
      cases h
    · rintro ⟨document, hread, -⟩
      cases hread
  · constructor
    · intro h
      split at h
      · next members hread => exact ⟨_, hread, objectMessage_eq_error.mp h⟩
      · cases h
    · rintro ⟨document, hread, entries, hlists, hstumbles⟩
      obtain ⟨error, herror, -⟩ := hlists.2
      obtain ⟨members, rfl⟩ := Json.isObject_of_get? herror
      rw [hread]
      exact objectMessage_eq_error.mpr ⟨entries, hlists, hstumbles⟩

/-- The message of a service error cannot be decoded exactly where it lists errors that stumble. -/
theorem decodedMessage_eq_error {e : ApiError} :
    (backend e).decodedMessage = .error failure ↔
      ∃ entries, e.ListsErrors entries ∧ Stumbles entries failure := by
  unfold decodedMessage ApiError.ListsErrors
  dsimp only
  split
  · next hempty =>
    have hnone := List.isEmpty_iff.mp hempty
    rw [textMessage_eq_error]
    constructor
    · rintro ⟨document, hread, entries, hlists, hstumbles⟩
      exact ⟨entries, .inr ⟨hnone, document, hread, hlists⟩, hstumbles⟩
    · rintro ⟨entries, ⟨hsome, -⟩ | ⟨-, document, hread, hlists⟩, hstumbles⟩
      · exact absurd hnone hsome
      · exact ⟨document, hread, entries, hlists, hstumbles⟩
  · next hfull =>
    have hsome : e.details ≠ [] := fun hnone => hfull (List.isEmpty_iff.mpr hnone)
    rw [detailsMessage_eq_error]
    constructor
    · exact fun hstumbles => ⟨e.details, .inl ⟨hsome, rfl⟩, hstumbles⟩
    · rintro ⟨entries, ⟨-, rfl⟩ | ⟨hnone, -⟩, hstumbles⟩
      · exact hstumbles
      · exact absurd hnone hsome

end Failure

end WarehouseImport
