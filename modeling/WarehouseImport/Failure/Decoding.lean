import WarehouseImport.Failure.Basic
import WarehouseImport.Json.Reader
import WarehouseImport.Text.Blank

/-!
# What service errors say

The text of an error is often a document with the real message inside, and failures of a load put
the message behind a preamble. Errors about filter values and about values that are too long become
failures of their own. A document of an unexpected form may end the decoding with a failure, and a
message need not be a text.
-/

namespace WarehouseImport

open WarehouseImport.Text

namespace Failure

/-- The message member of an object; `fallback` if it has none. Other values have no members. -/
def messageMember (fallback : Json) (document : Json) : Except Failure Json :=
  match document with
  | .obj _ => .ok ((document.get? "message").getD fallback)
  | _ => .error .noSuchPart

/-- The texts of messages, all of which must be texts. -/
def allTexts (messages : List Json) : Except Failure (List String) :=
  messages.mapM fun message =>
    match message with
    | .str text => .ok text
    | _ => .error .wrongKind

/-- The message of a list of details: the only one, or all of them in lines. -/
def detailsMessage (fallback : Json) (details : List Json) : Except Failure Json :=
  match details with
  | [detail] => messageMember fallback detail
  | details => do
    let messages ← details.mapM (messageMember (.str ""))
    let texts ← allTexts messages
    return .str ("Errors: " ++ String.intercalate "\n" texts)

/-- The message of an object that describes an error, or the text to fall back on. -/
def objectMessage (document : Json) (fallback : String) : Except Failure Json :=
  match document.get? "message" with
  | some message => .ok message
  | none =>
    match document.get? "error" with
    | none => .ok (.str fallback)
    | some (.str text) => .ok (.str text)
    | some (.obj members) =>
      match (Json.obj members).get? "errors" with
      | some (.arr (detail :: details)) => detailsMessage (.str fallback) (detail :: details)
      | _ => .ok (((Json.obj members).get? "message").getD (.str fallback))
    | some _ => .ok (.str fallback)

/-- The message in a text: that of the object it holds, or else the text itself. -/
def textMessage (text : String) : Except Failure Json :=
  if text.isEmpty then .ok (.str text)
  else
    match Json.read? text with
    | some (.obj members) => objectMessage (.obj members) text
    | _ => .ok (.str text)

/-- The text of a failure, without the status number of a service error. -/
def rawText : Failure → String
  | backend e => e.message
  | failure => failure.message

/-- The most specific message of a failure. The details of a service error come before its text. -/
def decodedMessage (failure : Failure) : Except Failure Json :=
  match failure with
  | backend e =>
    if e.details.isEmpty then textMessage e.message
    else detailsMessage (.str e.message) e.details
  | failure => textMessage failure.message

/-- The text behind the last mark that has something before it and behind it; `before` tells
whether something stands before the given text. -/
def behindLast? (mark : List Char) (before : Bool) : List Char → Option (List Char)
  | [] => none
  | c :: rest =>
    match behindLast? mark true rest with
    | some found => some found
    | none =>
      match Overflow.dropHead? mark (c :: rest) with
      | some (d :: tail) => if before then some (d :: tail) else none
      | _ => none

/-- The text behind the preamble of a failed load, or the text itself. -/
def withoutPreamble (text : String) : String :=
  match behindLast? "error message: ".toList false text.toList with
  | some found => String.ofList found
  | none => text

/-- A decoded message, which must be a text, without its preamble. -/
def direct (message : Json) : Except Failure String :=
  match message with
  | .str text => .ok (withoutPreamble text)
  | _ => .error .wrongKind

/-- The most specific message of a failure, without the preamble of a failed load. -/
def directMessage (failure : Failure) : Except Failure String := do
  direct (← failure.decodedMessage)

/-- Whether a text occurs in another. -/
def occursIn (part : List Char) : List Char → Bool
  | [] => part.isEmpty
  | c :: rest => (Overflow.dropHead? part (c :: rest)).isSome || occursIn part rest

/-- Whether a text occurs in another. -/
def mentions (text part : String) : Bool := occursIn part.toList text.toList

/-- The words of types at the start of a text: those between a mark of types and the next point on
the same line. -/
def typesHere? (text : List Char) : Option (List Char) := do
  match ← Overflow.dropHead? "types:".toList text with
  | blank :: words =>
    if isBlank blank then
      let words' := words.takeWhile fun d => d != '.' && d != '\n'
      if (words.dropWhile fun d => d != '.' && d != '\n').head? == some '.' then some words'
      else none
    else none
  | [] => none

/-- The words of types that come first in a text. -/
def typesIn? : List Char → Option (List Char)
  | [] => none
  | c :: rest => (typesHere? (c :: rest)).or (typesIn? rest)

/-- Texts between commas. -/
def splitCommas : List Char → List (List Char)
  | [] => [[]]
  | c :: rest =>
    match splitCommas rest with
    | [] => [[c]]
    | part :: parts => if c = ',' then [] :: part :: parts else (c :: part) :: parts

/-- The failure that a service error about filter types stands for. -/
def ofTypes (text : String) : Failure :=
  match typesIn? text.toList with
  | none => .unexpectedErrorText text
  | some words =>
    match splitCommas words with
    | expected :: actual :: _ =>
      .filterTypes (trim (String.ofList expected)) (trim (String.ofList actual))
    | _ => .noSuchPosition

/-- The failure that an error about filters becomes; none if the error is about something else. -/
def asBadFilter? (failure : Failure) : Option Failure :=
  let text := failure.rawText
  if mentions text "No matching signature for operator " then some (ofTypes text)
  else if mentions text "Invalid" || mentions text "can be used for partition elimination" then
    match failure.decodedMessage with
    | .ok message => some (.refusedFilter message)
    | .error other => some other
  else none

/-- The words that mark a value as too long. -/
def lengthMark : String := "has maximum length"

/-- Whether a message holds the words that mark a value as too long: a text contains them, a list
or an object holds them as an item or a name. -/
def marksLength : Json → Except Failure Bool
  | .str text => .ok (mentions text lengthMark)
  | .arr items => .ok (items.any fun item => item.asText? == some lengthMark)
  | .obj members => .ok ((members.lookup lengthMark).isSome)
  | _ => .error .wrongKind

/-- The failure about a value that is too long, with the parts its text names. -/
def ofOverflow (text : String) : Except Failure Failure :=
  match Overflow.ofMessage text with
  | .ok overflow => .ok (.tooLong text overflow)
  | .error digits => .error (.tooManyDigits digits)

/-- The failure that an error stands for when it may be about a value that is too long; any other
error stands for itself. An error in the decoding takes its place. -/
def asOverflow (failure : Failure) : Except Failure Failure := do
  let message ← failure.decodedMessage
  if ← marksLength message then
    match message with
    | .str text => ofOverflow text
    | _ => throw .wrongKind
  else return failure

/-- The failure that a conflict stands for; any other error stands for itself. -/
def asConflict (failure : Failure) : Failure :=
  match failure with
  | backend e => if e.kind.status = 409 then .objectExists else failure
  | failure => failure

end Failure

end WarehouseImport
