import Sentinel.Native.OfflineOutbox

/-! # What the device concludes from an answer

`OfflineSubmission.settle` of the Android client: the classifier of one HTTP answer, and
the only place an entry is settled. -/

namespace Sentinel.OfflineSubmission

open OfflineOutbox

/-- `SentinelHttp.Answer`: a transport failure has status 0, and the body is absent when
    the text is not a JSON object. -/
structure Answer where
  status : Nat
  body : Option JsonObject
  text : String

def Answer.ok (answer : Answer) : Bool := 200 ≤ answer.status && answer.status ≤ 299

/-- `CeremonyStep`, with the carried body of an `ok`. -/
inductive CeremonyStep
  | ok (body : JsonObject)
  | refused (status : Nat) (detail : String)
  | completionUnknown (status : Nat) (detail : String)

def completionUnknownStatus : Nat := 409

def receiptStatusesThatSettle : List String := ["APPLIED", "REJECTED"]

def objectOrNull (source : JsonObject) (key : String) : Option JsonObject :=
  match getKey source key with
  | some (.object members) => some members
  | _ => none

def stringOrNull (source : JsonObject) (key : String) : Option String :=
  match getKey source key with
  | some (.string text) => some (String.ofList text)
  | _ => none

/-- `receiptStatusOrNull`: on a `receipt` member, then at the top level. -/
def receiptStatusOrNull (body : JsonObject) : Option String :=
  ((objectOrNull body "receipt").bind fun receipt => stringOrNull receipt "status").or
    (stringOrNull body "status")

/-- `settleInOutbox`: TERMINAL first, then removed, in two writes. -/
def settleInOutbox (codec : JsonCodec) (writableMark writableRemove : Bool) (stored : Stored)
    (entry : OfflineOutboxEntry) : Except OutboxFailure Unit × Stored :=
  match markTerminal codec writableMark stored entry.offlineOperationId with
  | (.error failure, stored) => (.error failure, stored)
  | (.ok _, stored) =>
    match remove codec writableRemove stored entry.offlineOperationId with
    | (.error failure, stored) => (.error failure, stored)
    | (.ok _, stored) => (.ok (), stored)

/-- An answer that settles the entry: the outbox writes may throw out of it. -/
def settleWith (codec : JsonCodec) (writableMark writableRemove : Bool) (stored : Stored)
    (entry : OfflineOutboxEntry) (step : CeremonyStep) : Except OutboxFailure CeremonyStep × Stored :=
  match settleInOutbox codec writableMark writableRemove stored entry with
  | (.error failure, stored) => (.error failure, stored)
  | (.ok (), stored) => (.ok step, stored)

def settle (codec : JsonCodec) (writableMark writableRemove : Bool) (stored : Stored)
    (entry : OfflineOutboxEntry) (answer : Answer) : Except OutboxFailure CeremonyStep × Stored :=
  if answer.ok then
    match answer.body with
    | none =>
      (.ok (.completionUnknown answer.status
        "the server succeeded and the body could not be read as JSON"), stored)
    | some body =>
      match receiptStatusOrNull body with
      | none =>
        (.ok (.completionUnknown answer.status
          "the server succeeded and named no readable receipt status"), stored)
      | some status =>
        if !receiptStatusesThatSettle.contains status then
          (.ok (.completionUnknown answer.status ("the receipt is not final: " ++ status)), stored)
        else settleWith codec writableMark writableRemove stored entry (.ok body)
  else if 400 ≤ answer.status ∧ answer.status ≤ 499 ∧ answer.status ≠ completionUnknownStatus then
    settleWith codec writableMark writableRemove stored entry (.refused answer.status answer.text)
  else (.ok (.completionUnknown answer.status answer.text), stored)

end Sentinel.OfflineSubmission
