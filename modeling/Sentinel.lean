import Sentinel.Spec.TruthfulRejection
import Sentinel.Spec.OfflineSettlement
import Sentinel.Spec.DeviceQueueNumbering
import Sentinel.Spec.EdgeQueueSingleFlight
import Sentinel.Spec.DeviceTrustRestoration
import Sentinel.Spec.AttestationQuarantine
import Sentinel.Spec.FusionNonInterference
import Sentinel.Spec.IncidentConvergence
import Sentinel.Spec.WhisperAcceptance
import Sentinel.Spec.SilentApprovalRetry
import Sentinel.Spec.WhisperTwoPerson
import Sentinel.Spec.EdgeEnrolment
import Sentinel.Spec.DeviceGatewayExactlyOnce
import Sentinel.Spec.DeviceKeyConvergence
import Sentinel.Spec.EdgeAuthenticationRun
import Sentinel.Spec.PatrolReplay
import Sentinel.Spec.ConstitutionFreshness
import Sentinel.Spec.FusionEmissions
import Sentinel.Spec.ThreatStateOrder
import Sentinel.Spec.CorrelationScope
import Sentinel.Spec.ConstitutionSpelling
import Sentinel.Spec.AttestationStanding
import Sentinel.Spec.EdgeQueueHeads
import Sentinel.Spec.EdgeQueueRecovery
import Sentinel.Spec.OfflineFingerprint
import Sentinel.Spec.EdgeTrustedTimeSoundness
import Sentinel.Spec.AttestationDerTree
import Sentinel.Spec.AttestationEvidence
import Sentinel.Spec.LedgerAppend
import Sentinel.Spec.EvidenceCustody
import Sentinel.Spec.FieldLiveState
import Sentinel.Spec.FieldOutboxProgress
import Sentinel.Spec.FieldAcknowledgement
import Sentinel.Spec.CanonicalSignatureForm
import Sentinel.Spec.EdgeReceiptMeaning
import Sentinel.Spec.PossessionAnswer
import Sentinel.Spec.EdgeReceiptFiling
import Sentinel.Spec.PolicyLeaseWhole
import Sentinel.Spec.ConstitutionActivation
import Sentinel.Spec.DeviceCanonicalRoundTrip
import Sentinel.Spec.EventsIdentity
import Sentinel.Spec.AccessScope
import Sentinel.Spec.FusionIdentity
import Sentinel.Spec.EvidenceSnapshot
import Sentinel.Spec.EvidenceIntegrity
import Sentinel.Spec.IncidentLifecycle
