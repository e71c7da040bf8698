import WarehouseImport.Proofs.Failures.Decoding
import WarehouseImport.Proofs.Payload.Documents

/-!
# What the message of an error is

An error says most where it is most specific: the document in its text may have a message of its
own, name the error in a text, give the error a message, or list errors with messages. What is found
is the message, and where nothing is found the text of the error is. The value found is not looked
at, so a message comes out that is no text if such a value stands in its place; and a list of errors
may stumble before anything is found.
-/

namespace WarehouseImport

/-- The message that a list of errors gives: that of the only error, or those of several in lines,
which are texts or missing. -/
inductive ErrorsGive (entries : List Json) : Json → Prop
  | only {entry message : Json} (honly : entries = [entry])
      (hmessage : entry.get? "message" = some message) : ErrorsGive entries message
  | several {texts : List String} (hseveral : 1 < entries.length)
      (hobjects : ∀ entry ∈ entries, entry.IsObject)
      (htexts : entries.map (fun entry => (entry.get? "message").getD (.str "")) =
        texts.map .str) :
      ErrorsGive entries (.str ("Errors: " ++ String.intercalate "\n" texts))

/-- The message that a document gives: its own, the error that it names in a text, that of the error
if this lists no errors, or that of the errors listed. -/
inductive Json.Gives (document : Json) : Json → Prop
  | own {message : Json} (hmessage : document.get? "message" = some message) :
      document.Gives message
  | named {text : String} (hown : document.get? "message" = none)
      (herror : document.get? "error" = some (.str text)) : document.Gives (.str text)
  | inner {error message : Json} (hown : document.get? "message" = none)
      (herror : document.get? "error" = some error)
      (hnone : ∀ entry entries, error.get? "errors" ≠ some (.arr (entry :: entries)))
      (hmessage : error.get? "message" = some message) : document.Gives message
  | listed {entries : List Json} {message : Json} (hlists : document.ListsErrors entries)
      (hmessage : ErrorsGive entries message) : document.Gives message

/-- A text gives the message of the document that it holds. -/
def TextGives (text : String) (message : Json) : Prop :=
  ∃ document, Json.read? text = some document ∧ document.Gives message

/-- The errors that the document in a text lists stumble. -/
def TextStumbles (text : String) (failure : Failure) : Prop :=
  ∃ document, Json.read? text = some document ∧
    ∃ entries, document.ListsErrors entries ∧ Failure.Stumbles entries failure

namespace ApiError

/-- A service error gives the message of its details, or, where it has none, that of its text. -/
def Gives (e : ApiError) (message : Json) : Prop :=
  (e.details ≠ [] ∧ ErrorsGive e.details message) ∨ (e.details = [] ∧ TextGives e.message message)

/-- The errors that a service error lists stumble. -/
def ListStumbles (e : ApiError) (failure : Failure) : Prop :=
  ∃ entries, e.ListsErrors entries ∧ Failure.Stumbles entries failure

end ApiError

namespace Failure

/-- A message is decoded from what may give one: decoding fails as this stumbles, else it gives the
message found, and where none is found the text that stands for it. -/
structure Decodes (result : Except Failure Json) (gives : Json → Prop) (stumbles : Failure → Prop)
    (fallback : String) : Prop where
  failed : ∀ failure, result = .error failure ↔ stumbles failure
  given : ∀ message, result = .ok message ↔
    gives message ∨
      message = .str fallback ∧ (∀ other, ¬gives other) ∧ ∀ failure, ¬stumbles failure
  /-- A text comes out exactly if nothing stumbles and no other value stands for the message. -/
  textual : (∃ text, result = .ok (.str text)) ↔
    (∀ message, gives message → ∃ text, message = .str text) ∧ ∀ failure, ¬stumbles failure

section Decodes

variable {result : Except Failure Json} {gives : Json → Prop} {stumbles : Failure → Prop}
  {fallback : String}

/-- What is decoded is known from where decoding fails, what it gives where a message is found, and
that it gives nothing else but the text. -/
theorem Decodes.of (hfailed : ∀ failure, result = .error failure ↔ stumbles failure)
    (hgiven : ∀ message, gives message → result = .ok message)
    (helse : ∀ message, result = .ok message → gives message ∨ message = .str fallback) :
    Decodes result gives stumbles fallback := by
  have hsteady {message : Json} (h : result = .ok message) (failure : Failure) :
      ¬stumbles failure := by
    intro hstumbles
    rw [(hfailed failure).mpr hstumbles] at h
    cases h
  have hmessage (message : Json) : result = .ok message ↔ gives message ∨
      message = .str fallback ∧ (∀ other, ¬gives other) ∧ ∀ failure, ¬stumbles failure := by
    constructor
    · intro h
      by_cases hany : ∃ other, gives other
      · obtain ⟨other, hother⟩ := hany
        obtain rfl : message = other := Except.ok.inj (h.symm.trans (hgiven other hother))
        exact .inl hother
      · have hnone : ∀ other, ¬gives other := fun other hother => hany ⟨other, hother⟩
        exact .inr ⟨(helse message h).resolve_left (hnone message), hnone, hsteady h⟩
    · rintro (h | ⟨rfl, hnone, hcalm⟩)
      · exact hgiven message h
      · cases hresult : result with
        | error failure => exact absurd ((hfailed failure).mp hresult) (hcalm failure)
        | ok other =>
          rw [(helse other hresult).resolve_left (hnone other)]
  refine ⟨hfailed, hmessage, ?_, ?_⟩
  · rintro ⟨text, h⟩
    refine ⟨fun message hgives => ⟨text, ?_⟩, hsteady h⟩
    exact Except.ok.inj ((hgiven message hgives).symm.trans h)
  · rintro ⟨htexts, hcalm⟩
    by_cases hany : ∃ other, gives other
    · obtain ⟨other, hother⟩ := hany
      obtain ⟨text, rfl⟩ := htexts other hother
      exact ⟨text, hgiven _ hother⟩
    · exact ⟨fallback, (hmessage _).mpr
        (.inr ⟨rfl, fun other hother => hany ⟨other, hother⟩, hcalm⟩)⟩

end Decodes

variable {document fallback message : Json} {entries messages : List Json} {text : String}

/-- Texts of messages are the messages, all of which are texts. -/
theorem allTexts_eq_ok {texts : List String} :
    allTexts messages = .ok texts ↔ messages = texts.map .str := by
  constructor
  · intro h
    have hmap : texts.map Json.str = messages.map id := by
      refine map_of_mapM (fun message text hmessage => ?_) h
      cases message with
      | str words => exact congrArg _ (Except.ok.inj hmessage).symm
      | _ => cases hmessage
    rw [hmap, List.map_id]
  · rintro rfl
    induction texts with
    | nil => rfl
    | cons text texts ih => exact mapM_cons_eq_ok.mpr ⟨text, texts, rfl, ih, rfl⟩

/-- Several errors that give a message give it. -/
theorem several_eq_ok :
    (do
      let messages ← entries.mapM (messageMember (.str ""))
      let texts ← allTexts messages
      return Json.str ("Errors: " ++ String.intercalate "\n" texts)) = .ok message ↔
      ∃ texts : List String, (∀ entry ∈ entries, entry.IsObject) ∧
        entries.map (fun entry => (entry.get? "message").getD (.str "")) = texts.map .str ∧
        message = .str ("Errors: " ++ String.intercalate "\n" texts) := by
  rw [bind_eq_ok]
  constructor
  · rintro ⟨messages, hmessages, h⟩
    obtain ⟨texts, htexts, hdone⟩ := bind_eq_ok.mp h
    refine ⟨texts, fun entry hmem => ?_, ?_, (Except.ok.inj hdone).symm⟩
    · obtain ⟨_, -, hmember⟩ := exists_mem_of_mapM hmessages hmem
      apply Classical.byContradiction
      intro hkind
      rw [messageMember_eq_error.mpr ⟨rfl, hkind⟩] at hmember
      cases hmember
    · rw [← messages_eq hmessages]
      exact allTexts_eq_ok.mp htexts
  · rintro ⟨texts, hobjects, htexts, rfl⟩
    obtain ⟨messages, hmessages⟩ : ∃ messages,
        entries.mapM (messageMember (.str "")) = .ok messages :=
      exists_mapM_eq_ok fun entry hmem => by
        obtain ⟨members, rfl⟩ := hobjects entry hmem
        exact ⟨_, rfl⟩
    refine ⟨messages, hmessages, bind_eq_ok.mpr ⟨texts, allTexts_eq_ok.mpr ?_, rfl⟩⟩
    rw [messages_eq hmessages, htexts]

/-- A list of errors that gives a message gives it. -/
theorem detailsMessage_of_gives (h : ErrorsGive entries message) :
    detailsMessage fallback entries = .ok message := by
  cases h with
  | only honly hmessage =>
    obtain ⟨members, rfl⟩ := Json.isObject_of_get? hmessage
    rw [honly, detailsMessage, messageMember, hmessage, Option.getD_some]
  | several hseveral hobjects htexts =>
    rcases entries with _ | ⟨first, _ | ⟨second, rest⟩⟩
    · cases hseveral
    · simp at hseveral
    · exact several_eq_ok.mpr ⟨_, hobjects, htexts, rfl⟩

/-- A list of errors gives its message or what stands for it. -/
theorem gives_or_of_detailsMessage (hne : entries ≠ [])
    (h : detailsMessage fallback entries = .ok message) :
    ErrorsGive entries message ∨ message = fallback := by
  rcases entries with _ | ⟨entry, _ | ⟨second, rest⟩⟩
  · exact absurd rfl hne
  · have hmember := eq_of_messageMember h
    cases hmessage : entry.get? "message" with
    | none => exact .inr (by rw [hmember, hmessage, Option.getD_none])
    | some given =>
      rw [hmessage, Option.getD_some] at hmember
      exact .inl (.only rfl (hmember ▸ hmessage))
  · obtain ⟨texts, hobjects, htexts, rfl⟩ := several_eq_ok.mp h
    exact .inl (.several (by simp) hobjects htexts)

/-- A document that gives a message gives it. -/
theorem objectMessage_of_gives (h : document.Gives message) :
    objectMessage document text = .ok message := by
  cases h with
  | own hmessage => rw [objectMessage, hmessage]
  | named hown herror => rw [objectMessage, hown, herror]
  | inner hown herror hnone hmessage =>
    obtain ⟨members, rfl⟩ := Json.isObject_of_get? hmessage
    rw [objectMessage, hown, herror]
    dsimp only
    split
    · next hsome => exact absurd hsome (hnone _ _)
    · rw [hmessage, Option.getD_some]
  | @listed entries _ hlists hmessage =>
    obtain ⟨hown, error, herror, herrors⟩ := hlists
    obtain ⟨members, rfl⟩ := Json.isObject_of_get? herrors
    rw [objectMessage, hown, herror]
    dsimp only
    rw [herrors]
    cases entries with
    | nil =>
      rcases hmessage with ⟨honly, -⟩ | ⟨hseveral, -, -⟩
      · cases honly
      · cases hseveral
    | cons entry entries => exact detailsMessage_of_gives hmessage

/-- A document gives its message or the text that stands for it. -/
theorem gives_or_of_objectMessage (h : objectMessage document text = .ok message) :
    document.Gives message ∨ message = .str text := by
  rw [objectMessage] at h
  split at h
  · next hmessage =>
    cases h
    exact .inl (.own hmessage)
  · next hown =>
    split at h
    · exact .inr (Except.ok.inj h).symm
    · next herror =>
      cases h
      exact .inl (.named hown herror)
    · next members herror =>
      split at h
      · next herrors =>
        exact (gives_or_of_detailsMessage (List.cons_ne_nil _ _) h).imp_left
          (.listed ⟨hown, _, herror, herrors⟩)
      · next hnone =>
        cases hmessage : (Json.obj members).get? "message" with
        | none =>
          rw [hmessage] at h
          exact .inr (Except.ok.inj h).symm
        | some given =>
          rw [hmessage] at h
          cases h
          exact .inl (.inner hown herror hnone hmessage)
    · exact .inr (Except.ok.inj h).symm

/-- Only objects give messages. -/
theorem isObject_of_gives (h : document.Gives message) : document.IsObject := by
  cases h with
  | own hmessage => exact Json.isObject_of_get? hmessage
  | named _ herror => exact Json.isObject_of_get? herror
  | inner _ herror _ _ => exact Json.isObject_of_get? herror
  | listed hlists _ => exact Json.isObject_of_get? hlists.2.choose_spec.1

/-- What is decoded of a text. -/
theorem decodes_text (text : String) :
    Decodes (textMessage text) (TextGives text) (TextStumbles text) text := by
  refine Decodes.of (fun failure => textMessage_eq_error) ?_ ?_
  · rintro message ⟨document, hread, hgives⟩
    obtain ⟨members, rfl⟩ := isObject_of_gives hgives
    have hfull : text.isEmpty = false := by
      rw [← Bool.not_eq_true]
      intro hempty
      rw [String.isEmpty_iff.mp hempty] at hread
      cases hread
    rw [textMessage, hfull, hread]
    exact objectMessage_of_gives hgives
  · intro message h
    rw [textMessage] at h
    split at h
    · exact .inr (Except.ok.inj h).symm
    · split at h
      · next hread =>
        exact (gives_or_of_objectMessage h).imp_left fun hgives => ⟨_, hread, hgives⟩
      · exact .inr (Except.ok.inj h).symm

/-- What is decoded of a text and of a service error: the failure with which its list of errors
stumbles, the message that it gives, of whatever kind, or its own text where it gives none. It is a
text exactly if nothing stumbles and the message that it gives, if any, is one. -/
theorem decodes_errors (text : String) (e : ApiError) :
    Decodes (textMessage text) (TextGives text) (TextStumbles text) text ∧
      Decodes (backend e).decodedMessage e.Gives e.ListStumbles e.message := by
  refine ⟨decodes_text text, Decodes.of (fun failure => decodedMessage_eq_error) ?_ ?_⟩
  · rintro message (⟨hne, hgives⟩ | ⟨hnil, hgives⟩)
    · have hfull : e.details.isEmpty = false := by simpa using hne
      simp only [decodedMessage, hfull]
      exact detailsMessage_of_gives hgives
    · simp only [decodedMessage, hnil, List.isEmpty_nil, if_true]
      exact ((decodes_text e.message).given message).mpr (.inl hgives)
  · intro message h
    rw [decodedMessage] at h
    split at h
    · next hempty =>
      have hnil := List.isEmpty_iff.mp hempty
      exact (((decodes_text e.message).given message).mp h).imp (fun hgives => .inr ⟨hnil, hgives⟩)
        And.left
    · next hfull =>
      have hne : e.details ≠ [] := fun hnil => hfull (List.isEmpty_iff.mpr hnil)
      exact (gives_or_of_detailsMessage hne h).imp_left fun hgives => .inl ⟨hne, hgives⟩

/-- A document whose message is null gives null, which is no text. -/
theorem decodes_errors_null :
    textMessage "\x7b\"message\":null\x7d" = .ok .null ∧
      ¬∃ text, textMessage "\x7b\"message\":null\x7d" = .ok (.str text) := by
  have hwritable : Json.Writable Json.depthLimit (.obj [("message", .null)]) :=
    .obj (by simp) (by simp [Json.Writable.null])
  have hprinted : Json.print? (.obj [("message", .null)]) = some "\x7b\"message\":null\x7d" := by
    decide +kernel
  obtain ⟨written, hwritten, hread⟩ := hwritable.read?_print?
  obtain rfl := Option.some.inj (hprinted.symm.trans hwritten)
  have hgives : TextGives "\x7b\"message\":null\x7d" .null := ⟨_, hread, .own rfl⟩
  have hdecodes := (decodes_errors "\x7b\"message\":null\x7d" ⟨.badRequest, "", []⟩).1
  refine ⟨(hdecodes.given .null).mpr (.inl hgives), fun htext => ?_⟩
  obtain ⟨text, hnull⟩ := (hdecodes.textual.mp htext).1 .null hgives
  cases hnull

end Failure

end WarehouseImport
