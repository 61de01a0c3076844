import Volicord.Types.Domain

/-! The evidence records of `volicord-types`: coverage of targets, and observations with the
producer they are anchored in and the relevance Core assessed. -/
namespace Volicord

inductive EvidenceStatus where
  | unknown | insufficient | sufficient | blocked

inductive EvidenceCoverageState where
  | unsupported | partiallySupported | supported | contradicted | notApplicable | stale
deriving DecidableEq

inductive EvidenceSourceKind where
  | agentReport | externalTool | userObservation | reusedEvidence | unverifiedClaim
deriving DecidableEq

inductive EvidenceAssuranceLevel where
  | cooperativeReport | externalToolResult | userObserved | unverified
deriving DecidableEq

inductive EvidenceProducerKind where
  | unverifiedCaller | userChannelObservation | verifiedToolInvocation
  | verifiedCommandExecution | reusedEvidence
deriving DecidableEq

structure EvidenceProducerAnchor where
  producerKind : EvidenceProducerKind
  producerRef : Option StateRecordRef
  outputArtifactRefs : List ArtifactRef
  verificationBasis : Option String

structure EvidenceRelevanceAssessment where
  status : EvidenceRelevanceStatus
  assessmentRef : Option StateRecordRef
  assessedByActorSource : Option ActorSource

structure EvidenceCoverageItem where
  target : EvidenceTarget
  coverageState : EvidenceCoverageState
  (supportingRunRefs observationRefs : List StateRecordRef)
  supportingArtifactRefs : List ArtifactRef
  gapRefs : List StateRecordRef

def evidenceStatusForItems (items : List EvidenceCoverageItem) : EvidenceStatus :=
  if items.any (·.coverageState = .contradicted) then .blocked
  else if items.isEmpty then .unknown
  else if items.all fun item => item.coverageState ∈ [.supported, .notApplicable] then .sufficient
  else .insufficient

def evidenceAssuranceMatchesSource : EvidenceSourceKind → EvidenceAssuranceLevel → Bool
  | .agentReport, .cooperativeReport | .externalTool, .externalToolResult
  | .userObservation, .userObserved | .unverifiedClaim, .unverified => true
  | .reusedEvidence, .externalToolResult | .reusedEvidence, .userObserved => true
  | _, _ => false

/- Captures: a source outside Core runs a command or a tool for an intent. -/

inductive EvidenceCaptureSpec where
  | verifiedCommandExecution (commandSha256 commandLabel : String) (expectedExitCode : Option Int)
  | verifiedToolInvocation (toolName toolInputSha256 : String) (expectedSuccess : Option Bool)

inductive EvidenceCaptureExpectedOutcome where
  | exitCode (expectedExitCode : Int)
  | success (expectedSuccess : Bool)
deriving DecidableEq

inductive EvidenceCaptureObservedOutcome where
  | command (exitCode : Int) (stdoutSha256 : String) (stdoutSizeBytes : Nat)
      (stderrSha256 : String) (stderrSizeBytes : Nat)
  | tool (success : Bool) (exitCode : Option Int) (toolResultSha256 : String)
      (toolResultSizeBytes : Nat)
deriving DecidableEq

namespace EvidenceCaptureSpec

def inputSha256 : EvidenceCaptureSpec → String
  | .verifiedCommandExecution commandSha256 _ _ => commandSha256
  | .verifiedToolInvocation _ toolInputSha256 _ => toolInputSha256

def producerKind : EvidenceCaptureSpec → EvidenceProducerKind
  | .verifiedCommandExecution _ _ _ => .verifiedCommandExecution
  | .verifiedToolInvocation _ _ _ => .verifiedToolInvocation

def expectedOutcome : EvidenceCaptureSpec → EvidenceCaptureExpectedOutcome
  | .verifiedCommandExecution _ _ exitCode => .exitCode (exitCode.getD 0)
  | .verifiedToolInvocation _ _ success => .success (success.getD true)

def toolName : EvidenceCaptureSpec → String
  | .verifiedCommandExecution _ _ _ => "volicord.command_runner"
  | .verifiedToolInvocation toolName _ _ => toolName

end EvidenceCaptureSpec

/-- `evidence_capture_observed_outcome_matches_expected`; none when the observed outcome is of
the other capture class. -/
def EvidenceCaptureObservedOutcome.matchesExpected :
    EvidenceCaptureObservedOutcome → EvidenceCaptureExpectedOutcome → Option Bool
  | .command exitCode _ _ _ _, .exitCode expected => some (exitCode = expected)
  | .tool success _ _ _, .success expected => some (success = expected)
  | _, _ => none

def evidenceCaptureCommandLimitation : String := "environment_not_bound"

def captureVerificationBasis : EvidenceProducerKind → Option String
  | .verifiedCommandExecution => some "volicord_owned_command_execution"
  | .verifiedToolInvocation => some "verified_tool_invocation"
  | _ => none

/-- `capture_outcome_relevance`: a capture alone never supports a claim. -/
def captureOutcomeRelevance (matchesExpectedOutcome : Bool) : EvidenceRelevanceStatus :=
  if matchesExpectedOutcome then .unassessed else .contradicted

end Volicord
