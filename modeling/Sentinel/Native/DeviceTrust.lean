/-! # Device trust transitions

The trust matrix and its evaluator (`packages/contracts/src/device-identity.ts`),
and the part of `DeviceTrustService.changeDeviceTrust` that decides a transition
on a device row: it mints the restoration decision from the principal's own grant
and hands the server-side facts to the evaluator.  The audit rows the service
writes are left out. -/

namespace Sentinel.DeviceTrust

/-- `DeviceTrustSchema`. -/
inductive Trust
  | trusted | degraded | suspicious | quarantined | compromised | offline
deriving DecidableEq

inductive AttestationStanding
  | current | lastKnownGood | expired | negative | ineligible | inconsistent
deriving DecidableEq

inductive KeyStorage
  | hardwareBacked | software
deriving DecidableEq

def deviceKeyStoragePermitsTrusted (storage : KeyStorage) : Bool :=
  storage = .hardwareBacked

def attestationStandingPermitsTrusted (standing : AttestationStanding) : Bool :=
  standing = .current || standing = .lastKnownGood

def allowedDeviceTrustTransitions : Trust → List Trust
  | .trusted => [.degraded, .suspicious, .quarantined, .compromised, .offline]
  | .degraded => [.trusted, .suspicious, .quarantined, .compromised, .offline]
  | .suspicious => [.trusted, .degraded, .quarantined, .compromised, .offline]
  | .quarantined => [.trusted, .degraded, .suspicious, .compromised, .offline]
  | .compromised => []
  | .offline => [.trusted, .degraded, .suspicious, .quarantined, .compromised]

def isTerminalDeviceTrust (trust : Trust) : Bool :=
  (allowedDeviceTrustTransitions trust).length = 0

def deviceTrustRestorationCapability : String := "device.trust.restore"

def deviceTrustRestorationRequiredFrom : List Trust := [.suspicious, .quarantined]

def deviceTrustUpwardTargets : List Trust := [.trusted, .degraded]

structure ControlledRestorationDecision where
  decidedByUserId : String
  capability : String
  decidedAt : String

/-- `DeviceTrustTransitionBasis`.  `deviceReportedHealth` is accepted by the source
    in order never to be read, and is left out. -/
structure TransitionBasis where
  controlledRestoration : Option ControlledRestorationDecision
  attestationStanding : AttestationStanding
  keyStorage : KeyStorage
  credentialContinuityIntact : Bool
  revoked : Bool
  previouslyEligible : Bool

/-- `DeviceTrustTransitionRefusalSchema`. -/
inductive TransitionRefusal
  | transitionNotInMatrix
  | sourceStateTerminal
  | credentialRevoked
  | restorationDecisionRequired
  | restorationCapabilityMissing
  | credentialContinuityLost
  | attestationNotQualifying
  | keyStorageNotHardwareBacked
  | reconnectBasisNotEstablished
deriving DecidableEq

/-- Climbing out of SUSPICIOUS or QUARANTINED: what is missing, if anything. -/
def restorationRefusal (basis : TransitionBasis) : Option TransitionRefusal :=
  match basis.controlledRestoration with
  | none => some .restorationDecisionRequired
  | some decision =>
    if decision.capability ≠ deviceTrustRestorationCapability then
      some .restorationCapabilityMissing
    else if !basis.credentialContinuityIntact then some .credentialContinuityLost
    else if basis.attestationStanding = .negative ∨ basis.attestationStanding = .ineligible then
      some .attestationNotQualifying
    else none

def reconnectRefusal (basis : TransitionBasis) : Option TransitionRefusal :=
  if !basis.credentialContinuityIntact then some .credentialContinuityLost
  else if !basis.previouslyEligible then some .reconnectBasisNotEstablished
  else none

/-- Into TRUSTED: hardware-backed key, qualifying standing, intact credential. -/
def trustedRefusal (basis : TransitionBasis) : Option TransitionRefusal :=
  if !deviceKeyStoragePermitsTrusted basis.keyStorage then some .keyStorageNotHardwareBacked
  else if !attestationStandingPermitsTrusted basis.attestationStanding then
    some .attestationNotQualifying
  else if !basis.credentialContinuityIntact then some .credentialContinuityLost
  else none

/-- `evaluateDeviceTrustTransition`: `none` allows, otherwise the first refusal in
    the order the source asks its questions. -/
def evaluateDeviceTrustTransition (source target : Trust) (basis : TransitionBasis) :
    Option TransitionRefusal :=
  if isTerminalDeviceTrust source then some .sourceStateTerminal
  else if !(allowedDeviceTrustTransitions source).contains target then some .transitionNotInMatrix
  else if !deviceTrustUpwardTargets.contains target then none
  else if basis.revoked then some .credentialRevoked
  else
    let restoration :=
      if deviceTrustRestorationRequiredFrom.contains source then restorationRefusal basis else none
    let reconnect :=
      if source = .offline ∧ target = .trusted then reconnectRefusal basis else none
    let trusted := if target = .trusted then trustedRefusal basis else none
    restoration.or (reconnect.or trusted)

def canTransitionDeviceTrust (source target : Trust) (basis : TransitionBasis) : Bool :=
  evaluateDeviceTrustTransition source target basis = none

/-- One transition of a path: the state it asks for and the basis it is judged on. -/
structure TrustTransition where
  target : Trust
  basis : TransitionBasis

/-- Take a transition if the evaluator allows it. -/
def trustStep (trust : Trust) (transition : TrustTransition) : Option Trust :=
  if canTransitionDeviceTrust trust transition.target transition.basis then
    some transition.target
  else none

/-! ## The service -/

inductive KeyLifecycleState
  | current | rotated | revoked | compromised
deriving DecidableEq

def deviceKeyStatePermitsNewOperations (state : KeyLifecycleState) : Bool :=
  state = .current

/-- The columns of the current key row a transition reads. -/
structure DeviceKeyRow where
  keyStorage : KeyStorage
  status : KeyLifecycleState
  revokedAt : Option Int

/-- A device row with its current key, the effective attestation standing, and
    whether a transition to TRUSTED has ever been recorded for it. -/
structure DeviceRow where
  trust : Trust
  revokedAt : Option Int
  currentKey : Option DeviceKeyRow
  attestationStanding : AttestationStanding
  hasHeldTrusted : Bool

/-- `credentialContinuityIntact`: a missing key row is a lost credential. -/
def credentialContinuityIntact : Option DeviceKeyRow → Bool
  | none => false
  | some key => key.revokedAt.isNone && deviceKeyStatePermitsNewOperations key.status

/-- The basis `applyTrustTransition` reads off the rows.  A device without a key row
    has the fail-closed SOFTWARE storage, and both levels of revocation count. -/
def DeviceRow.basis (device : DeviceRow) (decision : Option ControlledRestorationDecision) :
    TransitionBasis where
  controlledRestoration := decision
  attestationStanding := device.attestationStanding
  keyStorage := device.currentKey.elim .software DeviceKeyRow.keyStorage
  credentialContinuityIntact := credentialContinuityIntact device.currentKey
  revoked := device.revokedAt.isSome || !credentialContinuityIntact device.currentKey
  previouslyEligible := device.hasHeldTrusted

/-- The principal of a trust change, with its answers to the two grants asked about:
    `device.trust.manage` over every site of the device, and `device.trust.restore`. -/
structure TrustPrincipal where
  userId : String
  mayManage : Bool
  mayRestore : Bool

/-- The refusals `changeDeviceTrust` answers with. -/
inductive ChangeRefusal
  | deviceNotFound
  | transition (refusal : TransitionRefusal)
  | credentialWithdrawn

/-- The decision minted from the principal's own grant, for a device that needs one. -/
def mintDecision (principal : TrustPrincipal) (source : Trust) (now : String) :
    Option ControlledRestorationDecision :=
  if deviceTrustRestorationRequiredFrom.contains source && principal.mayRestore then
    some ⟨principal.userId, deviceTrustRestorationCapability, now⟩
  else none

/-- `applyTrustTransition`: the evaluator's verdict, then a compare-and-set on the
    stored row. -/
def applyTrustTransition (subject row : DeviceRow) (target : Trust)
    (decision : Option ControlledRestorationDecision) : Except ChangeRefusal DeviceRow :=
  match evaluateDeviceTrustTransition subject.trust target (subject.basis decision) with
  | some refusal => .error (.transition refusal)
  | none =>
    if row.trust ≠ subject.trust then .error .credentialWithdrawn
    else .ok { row with
      trust := target
      hasHeldTrusted := row.hasHeldTrusted || target = .trusted }

/-- `changeDeviceTrust`.  `device` is the row as it was read before the transaction
    and `row` the row inside it: an upward change is decided on the locked `row`,
    any other on `device`. -/
def changeDeviceTrust (principal : TrustPrincipal) (device row : DeviceRow) (target : Trust)
    (now : String) : Except ChangeRefusal DeviceRow :=
  if !principal.mayManage then .error .deviceNotFound
  else if deviceTrustRestorationRequiredFrom.contains device.trust && !principal.mayRestore then
    .error (.transition .restorationDecisionRequired)
  else
    let subject := if deviceTrustUpwardTargets.contains target then row else device
    if deviceTrustRestorationRequiredFrom.contains subject.trust && !principal.mayRestore then
      .error (.transition .restorationDecisionRequired)
    else applyTrustTransition subject row target (mintDecision principal subject.trust now)

end Sentinel.DeviceTrust
