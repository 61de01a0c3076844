import Volicord.Core.UserActionConstruction

/-! `evidence_facts.rs`, `policy/evidence_binding.rs`, `policy/evidence_target.rs` and
`policy/evidence_provenance.rs`: what a stored observation is anchored in, and the provenance
class that follows. -/
namespace Volicord
open Result

structure EvidenceObservationBasis where
  (projectId taskId changeUnitId : String)
  scopeRevision : Nat
  baselineRef : Option String
  target : EvidenceTarget
  now : UtcTimestamp

inductive EvidenceProvenanceClass where
  | strong | cooperativeAgentReport | weak
deriving DecidableEq

def EvidenceObservationRecord.targetMatches (record : EvidenceObservationRecord) :
    EvidenceTarget → Bool
  | .acceptanceCriterion acceptanceCriterionId =>
    record.acceptanceCriterionId = some acceptanceCriterionId && record.evidenceClaimId.isNone
  | .supplementalClaim evidenceClaimId _ =>
    record.evidenceClaimId = some evidenceClaimId && record.acceptanceCriterionId.isNone

/-- `run_record_matches_close_basis_context`; every stored Run is recorded. -/
def RunRecord.matchesContext (run : RunRecord) (taskId changeUnitId : String)
    (scopeRevision : Nat) (baselineRef : Option String) : Bool :=
  run.taskId = taskId && run.changeUnitId = some changeUnitId
  && run.scopeRevision = scopeRevision && run.observedChanges.baselineRef = baselineRef

/- `policy/evidence_binding.rs`. -/

def ArtifactRef.verifiedAvailable (reference : ArtifactRef) : Bool :=
  reference.integrityStatus = .verified && reference.availability = .available

def exactArtifactIdentityMatches (historical current : ArtifactRef) : Bool :=
  historical.verifiedAvailable && historical = current

/-- `exact_artifact_ref_sets_match`: both sides sorted by artifact id are the same verified and
available refs. -/
def exactArtifactRefSetsMatch (historical current : List ArtifactRef) : Bool :=
  !historical.isEmpty
  && (historical.map (·.artifactId)).Nodup && (current.map (·.artifactId)).Nodup
  && historical.all (·.verifiedAvailable) && historical.isPerm current

def authorityRefMatches (authorityRef : Option StateRecordRef) (expected : StateRecordRef) : Bool :=
  authorityRef.any fun reference => reference.key = expected.key

/- `artifact.rs`. -/

/-- `artifact_ref_from_verified_record`; a body the artifact store does not confirm reads as
missing. -/
def ArtifactRecord.refFromVerifiedRecord (record : ArtifactRecord) (context : PlanContext) :
    ArtifactRef :=
  { record.verifiedRef context.projectId with
    integrityStatus := record.integrityStatus
    availability := if record.verifiedCurrent context then .available
      else if record.availability = .available then .missing else record.availability }

/-- What the user channel says of one observation: the relevance and when it was given. -/
structure UserActionObservationResolutionAuthority where
  relevanceStatus : EvidenceRelevanceStatus
  resolvedAt : UtcTimestamp

def userActionObservationResolutionAuthority (action : StoredUserActionRecordSet)
    (resolution : UserActionResolutionRecord) (taskId changeUnitId : String)
    (scopeRevision : Nat) (baselineRef : Option String) (target : EvidenceTarget)
    (outputArtifactRefs : List ArtifactRef) : Option UserActionObservationResolutionAuthority :=
  match resolution.resolution with
  | .choice _ _ _ _ _ => none
  | .evidenceObservation observation =>
    let coordinates := action.request.basis.coordinates
    if action.status = .resolved && action.request.actionKind = .evidenceObservation
        && action.request.taskId = taskId && coordinates.changeUnitId = some changeUnitId
        && coordinates.scopeRevision = scopeRevision && coordinates.baselineRef = baselineRef
        && observation.relevanceStatus ∈ [.supported, .contradicted]
        && resolution.resolvedByActorSource = .localUser && observation.target = target
        && exactArtifactRefSetsMatch observation.outputArtifactRefs outputArtifactRefs then
      some ⟨observation.relevanceStatus, resolution.resolvedAt⟩
    else none

/-- The verification basis of every stored resolution: its channel is the CLI. -/
def resolvedVerificationBasis : String := "cli_direct_user_channel"

def reuseVerificationBasis : String := "core_validated_evidence_reuse"

namespace CoreTables

variable (t : CoreTables) (record : EvidenceObservationRecord) (basis : EvidenceObservationBasis)

def observationMatchesBasis : Bool :=
  record.taskId = basis.taskId && record.changeUnitId = some basis.changeUnitId
  && record.targetMatches basis.target
  && (record.runId.bind t.runs.find?).any fun run =>
    run.matchesContext basis.taskId basis.changeUnitId basis.scopeRevision basis.baselineRef

variable (context : PlanContext)

def persistentArtifactRefIsCurrent (t : CoreTables) (basis : EvidenceObservationBasis)
    (reference : ArtifactRef) : Bool :=
  reference.projectId = basis.projectId && reference.taskId = basis.taskId
  && reference.verifiedAvailable
  && (t.artifacts.find? reference.artifactId).any fun record =>
    record.taskId = basis.taskId && record.verifiedCurrent context
    && exactArtifactIdentityMatches (record.refFromVerifiedRecord context) reference

def observationArtifactsAreCurrent (t : CoreTables) (record : EvidenceObservationRecord)
    (basis : EvidenceObservationBasis) : Bool :=
  !record.outputArtifactRefs.isEmpty
  && record.outputArtifactRefs.all fun reference =>
    t.persistentArtifactRefIsCurrent context basis reference
    && t.artifactHasOwnerLink reference.artifactId basis.taskId .evidenceObservation
      record.evidenceObservationId

/-- `user_channel_authority_is_current`: the observation is exactly what the local user said of
this target and these artifacts, whether for the claim or against it. -/
def userChannelAuthorityIsCurrent : StoreResult Bool :=
  match record.producerAnchor.producerRef with
  | none => .ok false
  | some producerRef =>
    if record.producerAnchor.producerKind = .userChannelObservation
        && producerRef.belongsTo .userActionResolution basis.projectId basis.taskId
        && record.observedByActorSource = some .localUser
        && record.relevanceAssessment.status ∈ [.supported, .contradicted]
        && record.relevanceAssessment.assessedByActorSource = some .localUser
        && authorityRefMatches record.relevanceAssessment.assessmentRef producerRef
        && record.inputRefs.any (fun inputRef => authorityRefMatches
          (some inputRef) producerRef) then
      match t.userActionResolutions.find? producerRef.recordId with
      | none => .ok false
      | some resolution => do
        let action ← t.userActionRecord basis.now resolution.userActionRequestId
        return action.any fun action =>
          (userActionObservationResolutionAuthority action resolution basis.taskId
            basis.changeUnitId basis.scopeRevision basis.baselineRef basis.target
            record.outputArtifactRefs).any fun authority =>
              record.producerAnchor.verificationBasis = some resolvedVerificationBasis
              && record.relevanceAssessment.status = authority.relevanceStatus
              && record.observedAt = authority.resolvedAt
    else .ok false

/-- `validate_capture_receipt_record`, without the digest of the observed outcome. -/
def validateCaptureReceipt (intent : EvidenceCaptureIntentRecord)
    (receipt : EvidenceCaptureReceiptRecord) : CoreResult Bool := do
  let contradiction (field : String) : CoreError := .invariant
    ("typed evidence receipt `" ++ receipt.evidenceCaptureReceiptId
      ++ "` contradicts its capture intent at `" ++ field ++ "`")
  ensure (receipt.expectedOutcome = intent.capture.expectedOutcome)
    (contradiction "expected_outcome")
  let outcomeMatches ← okOr (contradiction "observed_outcome")
    (receipt.observedOutcome.matchesExpected receipt.expectedOutcome)
  ensure (receipt.limitations = [evidenceCaptureCommandLimitation]) (contradiction "limitations")
  ensure (receipt.captureKind = intent.capture.producerKind
      && receipt.evidenceCaptureIntentId = intent.evidenceCaptureIntentId
      && receipt.inputSha256 = intent.inputSha256
      && receipt.expectedOutcome = intent.expectedOutcome
      && intent.createdAt ≤ receipt.observedAt && receipt.observedAt < intent.expiresAt
      && receipt.observedAt ≤ receipt.createdAt && receipt.createdAt < intent.expiresAt)
    (contradiction "safe_receipt")
  return outcomeMatches

def producerMatches (producer : EvidenceProducerRecord) (producerRef intentRef : StateRecordRef)
    (record : EvidenceObservationRecord) (basis : EvidenceObservationBasis) : Bool :=
  record.runId = some producer.runId && record.taskId = producer.taskId
  && producer.taskId = basis.taskId && producer.changeUnitId = basis.changeUnitId
  && producer.scopeRevision = basis.scopeRevision
  && basis.baselineRef.all (producer.baselineRef = ·) && producer.target = basis.target
  && producer.evidenceObservationId = record.evidenceObservationId
  && producer.producedAtStateVersion = producerRef.producedAtStateVersion
  && producer.captureIntentRef = intentRef
  && producer.receiptArtifactRefs = record.outputArtifactRefs
  && producer.receiptArtifactRefs.map (·.artifactId) = [producer.artifactId]
  && some producer.observedByActorSource = record.observedByActorSource
  && producer.producerKind = record.producerAnchor.producerKind
  && record.producerAnchor.verificationBasis = captureVerificationBasis producer.producerKind
  && some producer.verificationBasis = captureVerificationBasis producer.producerKind

/-- The intent, its receipt and the observation agree with the producer row. -/
def captureMatches (intent : EvidenceCaptureIntentRecord) (receipt : EvidenceCaptureReceiptRecord)
    (outcomeMatches : Bool) (producer : EvidenceProducerRecord)
    (record : EvidenceObservationRecord) (basis : EvidenceObservationBasis) : Bool :=
  intent.taskId = basis.taskId && intent.changeUnitId = basis.changeUnitId
  && intent.scopeRevision = basis.scopeRevision && intent.baselineRef = producer.baselineRef
  && intent.target = basis.target
  && receipt.evidenceCaptureReceiptId = producer.evidenceCaptureReceiptId
  && producer.inputSha256 = intent.inputSha256 && producer.inputSha256 = receipt.inputSha256
  && receipt.resultSha256 = producer.resultSha256
  && producer.producerKind = receipt.captureKind
  && producer.producerKind = intent.capture.producerKind
  && producer.expectedOutcome = intent.expectedOutcome
  && producer.expectedOutcome = receipt.expectedOutcome
  && receipt.observedOutcome = producer.observedOutcome
  && producer.connectionId = receipt.connectionId
  && producer.hostInvocationId = receipt.hostInvocationId
  && producer.limitations = receipt.limitations && producer.observedAt = receipt.observedAt
  && record.toolName = some intent.capture.toolName
  && record.toolInvocationId = receipt.hostInvocationId
  && record.limitations = receipt.limitations && record.observedAt = receipt.observedAt
  && record.recordedAt = producer.createdAt
  && record.relevanceAssessment.status = captureOutcomeRelevance outcomeMatches
  && receipt.observedByActorSource = producer.observedByActorSource

def captureAuthorityIsCurrent : CoreResult Bool :=
  match record.producerAnchor.producerRef, record.relevanceAssessment.assessmentRef with
  | some producerRef, some intentRef =>
    if producerRef.belongsTo .evidenceProducer basis.projectId basis.taskId
        && intentRef.belongsTo .evidenceCaptureIntent basis.projectId basis.taskId
        && record.inputRefs.filter (·.recordKind = .evidenceCaptureIntent) = [intentRef]
        && record.relevanceAssessment.assessedByActorSource.isNone
        && (record.observedByActorSource.bind ActorSource.agentConnectionId).isSome then
      match t.evidenceProducers.find? producerRef.recordId with
      | none => .ok false
      | some producer =>
        if producerMatches producer producerRef intentRef record basis then
          match t.evidenceCaptureIntents.find? producer.evidenceCaptureIntentId,
              t.captureReceiptForIntent producer.evidenceCaptureIntentId with
          | some intent, some receipt => do
            let outcomeMatches ← validateCaptureReceipt intent receipt
            return captureMatches intent receipt outcomeMatches producer record basis
          | _, _ => .ok false
        else .ok false
    else .ok false
  | _, _ => .ok false

/-- The reuse bindings of `stored_evidence_observation_anchored_assurance`: the one source an
observation reuses. -/
def reuseSource : Option EvidenceObservationRecord :=
  match record.inputRefs with
  | [sourceRef] =>
    if sourceRef.belongsTo .evidenceObservation basis.projectId basis.taskId
        && sourceRef.recordId ≠ record.evidenceObservationId
        && record.producerAnchor.producerKind = .reusedEvidence
        && record.producerAnchor.verificationBasis = some reuseVerificationBasis
        && record.relevanceAssessment.status = .supported
        && authorityRefMatches record.producerAnchor.producerRef sourceRef
        && authorityRefMatches record.relevanceAssessment.assessmentRef sourceRef
        && record.relevanceAssessment.assessedByActorSource.isNone then
      (t.evidenceObservations.find? sourceRef.recordId).filter fun source =>
        exactArtifactRefSetsMatch source.outputArtifactRefs record.outputArtifactRefs
        && source.relevanceAssessment.status = .supported
    else none
  | _ => none

/-- `stored_evidence_observation_anchored_assurance`. The fuel bounds the length of a reuse
chain by the number of stored observations, which the visited set does in the source. -/
def anchoredAssurance (context : PlanContext) (t : CoreTables)
    (basis : EvidenceObservationBasis) :
    Nat → List String → EvidenceObservationRecord → CoreResult (Option EvidenceAssuranceLevel)
  | 0, _, _ => .ok none
  | fuel + 1, visited, record =>
    if !visited.contains record.evidenceObservationId && t.observationMatchesBasis record basis
        && evidenceAssuranceMatchesSource record.sourceKind record.assuranceLevel
        && record.runId = some record.recordedByRunId
        && !Text.isBlank record.invocationVerificationBasis
        && t.observationArtifactsAreCurrent context record basis
        && exactArtifactRefSetsMatch record.producerAnchor.outputArtifactRefs
          record.outputArtifactRefs then
      match record.sourceKind with
      | .userObservation => do
        let bound ← fromStore (t.userChannelAuthorityIsCurrent record basis)
        return if bound then some record.assuranceLevel else none
      | .reusedEvidence =>
        match t.reuseSource record basis with
        | none => .ok none
        | some source => do
          let inherited ← anchoredAssurance context t basis fuel
            (record.evidenceObservationId :: visited) source
          return if inherited = some record.assuranceLevel then inherited else none
      | .externalTool => do
        let bound ← t.captureAuthorityIsCurrent record basis
        return if bound then some record.assuranceLevel else none
      | _ => .ok none
    else .ok none

/-- `stored_evidence_observation_provenance_facts` and `classify_evidence_provenance`. -/
def provenanceClass (t : CoreTables) (basis : EvidenceObservationBasis)
    (record : EvidenceObservationRecord) : CoreResult EvidenceProvenanceClass :=
  if !t.observationMatchesBasis record basis
      || !evidenceAssuranceMatchesSource record.sourceKind record.assuranceLevel then .ok .weak
  else if record.sourceKind = .agentReport then .ok .cooperativeAgentReport
  else do
    let anchored ← t.anchoredAssurance context basis
      (t.evidenceObservations.rows.length + 1) [] record
    return if anchored.isSome then .strong else .weak

end CoreTables
end Volicord
