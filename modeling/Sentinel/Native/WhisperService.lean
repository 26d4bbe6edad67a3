import Sentinel.Native.IncidentsService
import Sentinel.Native.WhisperReceipts

/-! # The Whisper service

`WhisperService.recognise` (`modules/whisper/whisper.service.ts`) from the gate on: the receipt, the
claim, the recovery probe, the entry into the incidents domain and the fenced verdict.  The gate
rests on the authority, the signal, the duty state and the clock of its moment, so its answer is
whatever the environment has it be.  Audit entries are left out. -/

namespace Sentinel.Whisper

open Receipts (Finalization)

/-- One signed statement as it is presented: the identity is taken from the authenticated
    context, the rest from the statement. -/
structure Recognition where
  identity : ReplayIdentity
  recognitionFingerprint : String
  confidence : ℚ
  traceId : String

/-- `WhisperRuntimeEligibility`. -/
inductive Eligibility
  | eligible
  | ineligible (conflictCode : ConflictCode)
deriving DecidableEq

/-- What an attempt has established before it turns to the receipt. -/
structure Judged where
  eligibility : Eligibility
  storedVersionId : Option String
  receivedAt : Int

/-- The first seven steps of `recognise`: a refusal without a receipt (the principal is not
    the context's actor, or the signature is invalid), or a judgement. -/
inductive Gate
  | refused (conflictCode : ConflictCode)
  | judged (judged : Judged)

inductive RecognitionOutcome
  | accepted (recognitionFingerprint : String) (incidentId : Option String) (replayed : Bool)
  | refused (conflictCode : ConflictCode) (recognitionFingerprint : String) (replayed : Bool)

/-- `storedOutcome`; `none` throws. -/
def storedOutcome (receipt : ReceiptRow) : Option RecognitionOutcome :=
  if receipt.status = .applied then
    some (.accepted receipt.recognitionFingerprint receipt.incidentId true)
  else
    receipt.conflictCode.map fun conflictCode =>
      .refused conflictCode receipt.recognitionFingerprint true

/-- What a receipt answers. -/
inductive Classified
  | proceed
  | answer (outcome : RecognitionOutcome)
  | corrupt

variable (recognition : Recognition)

def classifyAgainstReceipt (receipt : ReceiptRow) : Classified :=
  if receipt.recognitionFingerprint ≠ recognition.recognitionFingerprint then
    .answer (.refused .replayIdentityReused recognition.recognitionFingerprint false)
  else if receipt.isFinalized then (storedOutcome receipt).elim .corrupt .answer
  else .proceed

/-- The receipt of `ensureReceipt`. -/
def newReceipt (judged : Judged) (id : String) : ReceiptRow :=
  { id
    identity := recognition.identity
    signalVersionId := judged.storedVersionId
    recognitionFingerprint := recognition.recognitionFingerprint
    status := .received
    outcome := none
    conflictCode := none
    incidentId := none
    attemptCount := 0
    processingClaimedAt := none
    recordedAt := judged.receivedAt
    finalizedAt := none
    traceId := recognition.traceId }

/-- The input of `openWhisperSilentIncident`. -/
def Recognition.silentIncident : Incidents.WhisperInput :=
  { organisationId := recognition.identity.organisationId
    siteId := recognition.identity.siteId
    recognitionFingerprint := recognition.recognitionFingerprint
    confidence := recognition.confidence }

/-! ## Calls in progress -/

/-- Where a call stands. -/
inductive Phase
  | gate
  -- `consumeReplayIdentity`
  | preflight (judged : Judged)
  | ensure (judged : Judged)
  | ensureRead (judged : Judged)
  | claim (judged : Judged) (receiptId : String)
  -- `executeAndFinalize`
  | probe (judged : Judged) (receiptId : String) (claimGeneration : Nat)
  | openIncident (receiptId : String) (claimGeneration : Nat)
  | converge (receiptId : String) (claimGeneration : Nat)
  | respond (receiptId : String) (claimGeneration : Nat) (incidentId : String)
      (response : Incidents.Worker)
  | markUnknown (receiptId : String) (claimGeneration : Nat)
  -- `finalizeAndReport`
  | finalize (input : Finalization)
  | reportLostFence (receiptId : String)
  -- the call has returned, or thrown or died
  | returned (outcome : RecognitionOutcome)
  | failed

structure Worker where
  recognition : Recognition
  phase : Phase

/-- The choices of the environment in one step: the gate's answer, the clock, the id of a
    new receipt, and what the incidents domain finds. -/
structure Env where
  gate : Gate := .refused .signatureInvalid
  now : Int := 0
  receiptId : String := ""
  incidents : Incidents.Env := {}

def refusal (receiptId : String) (claimGeneration : Nat) (conflictCode : ConflictCode) :
    Finalization :=
  { receiptId, claimGeneration
    status := .refused
    outcome := .refused
    conflictCode := some conflictCode
    incidentId := none }

def acceptance (receiptId : String) (claimGeneration : Nat) (incidentId : String) : Finalization :=
  { receiptId, claimGeneration
    status := .applied
    outcome := .accepted
    conflictCode := none
    incidentId := some incidentId }

/-- The verdict of a claimed attempt: recovery counts before the gate. -/
def decideClaimed (judged : Judged) (receiptId : String) (claimGeneration : Nat)
    (recovered : Option Incidents.IncidentRow) : Phase :=
  match recovered, judged.eligibility with
  | none, .ineligible conflictCode => .finalize (refusal receiptId claimGeneration conflictCode)
  | _, _ => .openIncident receiptId claimGeneration

/-- What `finalizeAndReport` reports. -/
def finalizedOutcome (input : Finalization) : RecognitionOutcome :=
  match input.conflictCode with
  | none => .accepted recognition.recognitionFingerprint input.incidentId false
  | some conflictCode => .refused conflictCode recognition.recognitionFingerprint false

/-- `runProofA` after the incident is there. -/
def respondPhase (receiptId : String) (claimGeneration : Nat)
    (incident : Incidents.IncidentRow) : Phase :=
  .respond receiptId claimGeneration incident.id
    { call := .openWhisperSilentIncident recognition.silentIncident
      phase := .tasks (incident.proofA .silent) }

section Steps

variable (text : Constitution.Text)

/-- The next step of a call; `none` when it is over. -/
def Worker.advance (db : Incidents.Db) (receipts : Receipts) (env : Env) (worker : Worker) :
    Option (Incidents.Db × Receipts × Phase) :=
  let recognition := worker.recognition
  match worker.phase with
  | .gate =>
    match env.gate with
    | .refused conflictCode =>
      some (db, receipts,
        .returned (.refused conflictCode recognition.recognitionFingerprint false))
    | .judged judged => some (db, receipts, .preflight judged)
  | .preflight judged =>
    match receipts.findReceiptByIdentity recognition.identity with
    | none => some (db, receipts, .ensure judged)
    | some receipt =>
      match classifyAgainstReceipt recognition receipt with
      | .proceed => some (db, receipts, .ensure judged)
      | .answer outcome => some (db, receipts, .returned outcome)
      | .corrupt => some (db, receipts, .failed)
  | .ensure judged =>
    match receipts.create (newReceipt recognition judged env.receiptId) with
    -- the postflight proceeds with the row just created
    | some receipts => some (db, receipts, .claim judged env.receiptId)
    | none => some (db, receipts, .ensureRead judged)
  | .ensureRead judged =>
    match receipts.findReceiptByIdentity recognition.identity with
    | none => some (db, receipts, .failed)
    | some receipt =>
      match classifyAgainstReceipt recognition receipt with
      | .proceed => some (db, receipts, .claim judged receipt.id)
      | .answer outcome => some (db, receipts, .returned outcome)
      | .corrupt => some (db, receipts, .failed)
  | .claim judged receiptId =>
    match receipts.claimReceipt receiptId env.now with
    | (none, receipts) => some (db, receipts, .reportLostFence receiptId)
    | (some claimGeneration, receipts) =>
      if claimGeneration > 1 then some (db, receipts, .probe judged receiptId claimGeneration)
      else some (db, receipts, decideClaimed judged receiptId claimGeneration none)
  | .probe judged receiptId claimGeneration =>
    some (db, receipts, decideClaimed judged receiptId claimGeneration
      (db.findByWhisperRecognition recognition.identity.organisationId
        recognition.recognitionFingerprint))
  | .openIncident receiptId claimGeneration =>
    let row := Incidents.whisperRow recognition.silentIncident env.incidents.id env.incidents.now
    match db.openIncident row with
    | some db => some (db, receipts, respondPhase recognition receiptId claimGeneration row)
    | none => some (db, receipts, .converge receiptId claimGeneration)
  | .converge receiptId claimGeneration =>
    match db.findByWhisperRecognition recognition.identity.organisationId
        recognition.recognitionFingerprint with
    | some incident =>
      some (db, receipts, respondPhase recognition receiptId claimGeneration incident)
    | none => some (db, receipts, .markUnknown receiptId claimGeneration)
  | .respond receiptId claimGeneration incidentId response => do
    let (db, phase) ← response.advance text db env.incidents
    match phase with
    | .returned =>
      some (db, receipts, .finalize (acceptance receiptId claimGeneration incidentId))
    | .failed => some (db, receipts, .markUnknown receiptId claimGeneration)
    | phase =>
      some (db, receipts, .respond receiptId claimGeneration incidentId { response with phase })
  | .markUnknown receiptId claimGeneration =>
    some (db, receipts.markReceiptUnknown receiptId claimGeneration, .failed)
  | .finalize input =>
    match receipts.finalizeReceipt input env.now with
    | (true, receipts) => some (db, receipts, .returned (finalizedOutcome recognition input))
    | (false, receipts) => some (db, receipts, .reportLostFence input.receiptId)
  | .reportLostFence receiptId =>
    match receipts.getReceiptById receiptId with
    | some receipt =>
      if receipt.isFinalized then
        match storedOutcome receipt with
        | some outcome => some (db, receipts, .returned outcome)
        | none => some (db, receipts, .failed)
      else some (db, receipts, .failed)
    | none => some (db, receipts, .failed)
  | .returned _ | .failed => none

/-- Where a call goes when its statement throws; `none` when it is over. -/
def Phase.thrown : Phase → Option Phase
  | .openIncident receiptId claimGeneration | .converge receiptId claimGeneration
  | .respond receiptId claimGeneration _ _ => some (.markUnknown receiptId claimGeneration)
  | .finalize input => some (.markUnknown input.receiptId input.claimGeneration)
  | .returned _ | .failed => none
  | _ => some .failed

/-! ## The system -/

structure State where
  incidents : Incidents.State
  receipts : Receipts
  workers : List Worker

def State.init : State := { incidents := .init, receipts := .empty, workers := [] }

inductive Label
  | recognise (recognition : Recognition)
  | advance (worker : Nat) (env : Env)
  /-- The next statement throws, and has taken effect or not. -/
  | throws (worker : Nat) (effect : Option Env)
  | fail (worker : Nat)
  | incidents (label : Incidents.Label)

/-- One step of the system: a statement is presented, a call moves, its statement throws or
    its process dies, or the rest of the incidents domain moves, where only this service
    opens Whisper incidents. -/
def step (s : State) : Label → Option State
  | .recognise recognition => some { s with workers := s.workers ++ [⟨recognition, .gate⟩] }
  | .advance i env => do
    let worker ← s.workers[i]?
    let (db, receipts, phase) ← worker.advance text s.incidents.db s.receipts env
    some
      { incidents := { s.incidents with db }
        receipts
        workers := s.workers.set i { worker with phase } }
  | .throws i effect => do
    let worker ← s.workers[i]?
    let phase ← worker.phase.thrown
    let (db, receipts) ← match effect with
      | none => some (s.incidents.db, s.receipts)
      | some env => do
        let (db, receipts, _) ← worker.advance text s.incidents.db s.receipts env
        some (db, receipts)
    some
      { incidents := { s.incidents with db }
        receipts
        workers := s.workers.set i { worker with phase } }
  | .fail i => do
    let worker ← s.workers[i]?
    let _ ← worker.phase.thrown
    some { s with workers := s.workers.set i { worker with phase := .failed } }
  | .incidents (.call (.openWhisperSilentIncident _)) => none
  | .incidents label => do
    let incidents ← Incidents.step text s.incidents label
    some { s with incidents }

end Steps

end Sentinel.Whisper
