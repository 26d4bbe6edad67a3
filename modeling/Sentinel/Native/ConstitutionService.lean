import Sentinel.Native.ConstitutionStore

/-! # The constitution service on several instances

`modules/constitution/constitution.service.ts`: any number of service instances over one policy
store.  Every answer to an awaited operation is a step; what a call does before its first `await` is
done as it starts.  `succession` is no column of the store: it lists the versions in the order in
which they became active, and a reading of the store carries its length at that time. -/

namespace Sentinel.Constitution

def constitutionAlterAction : String := "constitution.rules.alter.core"

def platformOrganisationId : String := "sentinel-platform"

/-- What was read of the store, and how many versions had been active by then. -/
structure Dated (α : Type) where
  value : α
  readAt : Nat

structure LoadedPolicy where
  policy : Policy
  version : String
  contentSha256 : String
  createdBy : String
  activatedAt : Option Int

def loadStored (platform : Platform) (stored : StoredPolicy) :
    Except ConstitutionError LoadedPolicy := do
  let policy ← parsePolicy stored.body
  let policy ← assertValidPolicy policy
  let recomputed := platform.policyContentSha256 policy
  if recomputed ≠ stored.contentSha256 then
    throw (.policyIntegrity
      (s!"Stored content hash for policy '{stored.version}' is {stored.contentSha256} but the " ++
        s!"stored body hashes to {recomputed}; the policy row has been altered outside the " ++
        "Constitution."))
  if policy.version ≠ stored.version then
    throw (.policyIntegrity
      s!"Policy row '{stored.version}' holds a body declaring version '{policy.version}'.")
  return { policy, version := stored.version, contentSha256 := stored.contentSha256
           createdBy := stored.createdBy, activatedAt := stored.activatedAt }

structure ActivatePolicyCommand where
  version : String
  actor : Actor
  approvals : List Approval
  approverRoles : Record (List String)
  traceId : Option String

def activationRequest (command : ActivatePolicyCommand) : Request where
  action := constitutionAlterAction
  actor := command.actor
  target :=
    { organisationId := platformOrganisationId, siteId := none
      classification := .restricted
      classificationLevel := some (classificationLevels .restricted) }
  approvals := command.approvals
  approverRoles := command.approverRoles

/-- What `buildDecisionRecord` renders for the ledger. -/
structure DecisionRecordInput where
  request : Request
  decision : ConstitutionDecision
  policyContentSha256 : String
  entryId : String
  decidedAt : Int
  traceId : String

/-- An evaluation: the policy it is decided under, the decision and its record. -/
structure Evaluation where
  loaded : Dated LoadedPolicy
  record : DecisionRecordInput

def Evaluation.decision (evaluation : Evaluation) : ConstitutionDecision := evaluation.record.decision

/-- An activation that has committed: its gate, how many versions had been active before, and the
    versions it retired. -/
structure Activation where
  command : ActivatePolicyCommand
  gate : Evaluation
  position : Nat
  retired : List String

inductive Answer
  | loaded
  | decided (decision : ConstitutionDecision)
  | refused (decision : ConstitutionDecision) (active : LoadedPolicy)
  | activated (activation : Activation) (active : LoadedPolicy)
  | failed (error : ConstitutionError)

/-- Where a call stands: what it is waiting for.  A reload is a call of its own or the end of an
    activation. -/
inductive Call
  /-- `ensureBaselineSeeded`. -/
  | seeding (activation : Option Activation)
  | reading (activation : Option Activation)
  /-- The answer of `findActive` is on its way. -/
  | installing (activation : Option Activation) (stored : Dated (Option StoredPolicy))
  /-- The append of an evaluation to the ledger. -/
  | recording (evaluation : Evaluation)
  /-- The append of the gate of an activation. -/
  | gating (command : ActivatePolicyCommand) (gate : Evaluation)
  /-- `findByVersion`. -/
  | lookingUp (command : ActivatePolicyCommand) (gate : Evaluation)
  /-- `activate`. -/
  | activating (command : ActivatePolicyCommand) (gate : Evaluation)
  | finished (answer : Answer)

structure State (ι : Type) where
  rows : List StoredPolicy
  succession : List String
  ledger : List DecisionRecordInput
  loaded : ι → Option (Dated LoadedPolicy)
  calls : List (ι × Call)

def State.init {ι : Type} : State ι := ⟨[], [], [], fun _ => none, []⟩

/-- The identifiers and the time a step takes from its surroundings. -/
structure Env where
  stamp : Stamp
  entryId : String
  traceId : String

/-- The synchronous part of `evaluate`. -/
def evaluateUnder (platform : Platform) (loaded : Dated LoadedPolicy) (request : Request)
    (traceId : Option String) (env : Env) : Evaluation where
  loaded
  record :=
    { request, decision := evaluate platform.text request loaded.value.policy
      policyContentSha256 := loaded.value.contentSha256, entryId := env.entryId
      decidedAt := env.stamp.now, traceId := traceId.getD env.traceId }

namespace State

variable {ι : Type} [DecidableEq ι] (platform : Platform) (s : State ι)

def start (i : ι) (call : Call) : State ι := { s with calls := s.calls ++ [(i, call)] }

/-- The next phase of the `t`-th call. -/
def next (t : Nat) (i : ι) (call : Call) : State ι := { s with calls := s.calls.set t (i, call) }

/-- The `t`-th call throws. -/
def throws (t : Nat) (i : ι) (error : ConstitutionError) : State ι :=
  s.next t i (.finished (.failed error))

def createDraft (policy : Policy) (createdBy : String) (env : Env) : State ι :=
  match Constitution.createDraft platform s.rows policy createdBy env.stamp with
  | .error _ => s
  | .ok rows => { s with rows }

def evaluate (i : ι) (request : Request) (traceId : Option String) (env : Env) : State ι :=
  match s.loaded i with
  | none => s.start i (.finished (.failed .constitutionNotLoaded))
  | some loaded => s.start i (.recording (evaluateUnder platform loaded request traceId env))

/-- `activatePolicy`, up to its first `await`. -/
def activatePolicy (i : ι) (command : ActivatePolicyCommand) (env : Env) : State ι :=
  match s.loaded i with
  | none => s.start i (.finished (.failed .constitutionNotLoaded))
  | some loaded =>
    s.start i (.gating command
      (evaluateUnder platform loaded (activationRequest command) command.traceId env))

/-- `ensureBaselineSeeded`: an attempt that loses a conflict changes nothing. -/
def seed (t : Nat) (i : ι) (activation : Option Activation) (env : Env) : State ι :=
  match seedBaselineOnce platform s.rows env.stamp with
  | .error error => s.throws t i error
  | .ok rows =>
    { s.next t i (.reading activation) with
      rows
      succession :=
        if s.rows.length > 0 then s.succession else s.succession ++ rows.map (·.version) }

/-- The end of `reload`. -/
def install (t : Nat) (i : ι) (activation : Option Activation)
    (stored : Dated (Option StoredPolicy)) : State ι :=
  match stored.value with
  | none => s.throws t i .noActivePolicy
  | some row =>
    match loadStored platform row with
    | .error error => s.throws t i error
    | .ok loaded =>
      { s.next t i (.finished (match activation with
          | none => .loaded
          | some activation => .activated activation loaded)) with
        loaded := Function.update s.loaded i (some ⟨loaded, stored.readAt⟩) }

def passGate (t : Nat) (i : ι) (command : ActivatePolicyCommand) (gate : Evaluation) : State ι :=
  let s := { s with ledger := s.ledger ++ [gate.record] }
  if gate.decision.decision ≠ .allow then
    match s.loaded i with
    | none => s.throws t i .constitutionNotLoaded
    | some loaded => s.next t i (.finished (.refused gate.decision loaded.value))
  else s.next t i (.lookingUp command gate)

/-- The candidate, re-checked before it becomes the constitution in force. -/
def lookUp (t : Nat) (i : ι) (command : ActivatePolicyCommand) (gate : Evaluation) : State ι :=
  match findByVersion s.rows command.version with
  | none => s.throws t i (.policyNotFound command.version)
  | some candidate =>
    match parsePolicy candidate.body >>= assertValidPolicy with
    | .error error => s.throws t i error
    | .ok _ => s.next t i (.activating command gate)

/-- Whether the version is already active. -/
def isInForce (version : String) : Bool :=
  (findByVersion s.rows version).any (·.isActive)

/-- The transaction of `activate`. -/
def commitActivation (t : Nat) (i : ι) (command : ActivatePolicyCommand) (gate : Evaluation)
    (env : Env) : State ι :=
  match activate s.rows command.version env.stamp.now with
  | .error error => s.throws t i error
  | .ok rows =>
    let inForce := s.isInForce command.version
    let retired :=
      if inForce then []
      else (s.rows.filter fun row => row.isActive ∧ row.version ≠ command.version).map (·.version)
    { s.next t i (.seeding (some
        { command, gate, position := s.succession.length, retired })) with
      rows
      succession := if inForce then s.succession else s.succession ++ [command.version] }

/-- The operation that the `t`-th call waits for succeeds. -/
def resume (t : Nat) (env : Env) : Option (State ι) :=
  match s.calls[t]? with
  | none | some (_, .finished _) => none
  | some (i, .seeding activation) => some (s.seed platform t i activation env)
  | some (i, .reading activation) =>
    some (s.next t i (.installing activation ⟨findActive s.rows, s.succession.length⟩))
  | some (i, .installing activation stored) => some (s.install platform t i activation stored)
  | some (i, .recording evaluation) =>
    some { s.next t i (.finished (.decided evaluation.decision)) with
      ledger := s.ledger ++ [evaluation.record] }
  | some (i, .gating command gate) => some (s.passGate t i command gate)
  | some (i, .lookingUp command gate) => some (s.lookUp t i command gate)
  | some (i, .activating command gate) => some (s.commitActivation t i command gate env)

/-- The operation that the `t`-th call waits for is rejected. -/
def reject (t : Nat) : Option (State ι) :=
  match s.calls[t]? with
  | none | some (_, .finished _) => none
  | some (i, _) => some (s.throws t i .rejected)

end State

inductive Label (ι : Type)
  | createDraft (policy : Policy) (createdBy : String) (env : Env)
  | reload (i : ι)
  | evaluate (i : ι) (request : Request) (traceId : Option String) (env : Env)
  | activatePolicy (i : ι) (command : ActivatePolicyCommand) (env : Env)
  | resume (t : Nat) (env : Env)
  | reject (t : Nat)

def step {ι : Type} [DecidableEq ι] (platform : Platform) (s : State ι) :
    Label ι → Option (State ι)
  | .createDraft policy createdBy env => some (s.createDraft platform policy createdBy env)
  | .reload i => some (s.start i (.seeding none))
  | .evaluate i request traceId env => some (s.evaluate platform i request traceId env)
  | .activatePolicy i command env => some (s.activatePolicy platform i command env)
  | .resume t env => s.resume platform t env
  | .reject t => s.reject t

end Sentinel.Constitution
