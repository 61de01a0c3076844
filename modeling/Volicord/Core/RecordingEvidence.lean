import Volicord.Core.Recording

/-! `recording/evidence.rs`: the evidence targets of a Run, the observations it records with the
authority Core derives for them, and the summary of what they cover. -/
namespace Volicord
open Result Relational

/- Targets. -/

/-- The target of one entry is known; `field` names the entry. -/
def validateEvidenceTarget (t : CoreTables) (taskId field : String) :
    EvidenceTarget → CoreResult Unit
  | .acceptanceCriterion acceptanceCriterionId => do
    ensure (!Text.isBlank acceptanceCriterionId) (.validation field
      "acceptance criterion evidence target ID must not be empty")
    let record ← okOr (.validation field "acceptance criterion evidence target is unknown")
      (t.acceptanceCriteria.find? acceptanceCriterionId)
    ensure (record.taskId = taskId && record.status = .active) (.validation field
      "acceptance criterion evidence target must be current for this Task")
  | .supplementalClaim evidenceClaimId statement =>
    ensure (!Text.isBlank evidenceClaimId && !statement.isEmpty) (.validation field
      "supplemental evidence targets require a non-empty ID and statement")

def EvidenceTarget.supplementalClaim? : EvidenceTarget → Option (String × String)
  | .acceptanceCriterion _ => none
  | .supplementalClaim evidenceClaimId statement => some (evidenceClaimId, statement)

/-- A criterion that requires evidence cannot be declared not applicable. -/
def notApplicableAllowed (t : CoreTables) (update : EvidenceCoverageUpdate) : Bool :=
  match update.coverageState, update.target with
  | .notApplicable, .acceptanceCriterion acceptanceCriterionId =>
    (t.acceptanceCriteria.find? acceptanceCriterionId).all (·.evidenceRequirement ≠ .required)
  | _, _ => true

/-- `plan_record_run_evidence_targets`: the claims the Run introduces. -/
def planRecordRunEvidenceTargets (t : CoreTables) (request : RecordRunRequest) :
    CoreResult (List EvidenceClaimRecord) := do
  for update in request.evidenceUpdates do
    validateEvidenceTarget t request.taskId "evidence_updates[].target" update.target
    ensure (notApplicableAllowed t update) (.validation "evidence_updates[].coverage_state"
      "required acceptance criteria cannot be marked not_applicable")
  for observation in request.evidenceObservations do
    validateEvidenceTarget t request.taskId "evidence_observations[].target" observation.target
  let artifactTargets := request.artifactInputs.filterMap (·.evidenceTarget)
  for target in artifactTargets do
    validateEvidenceTarget t request.taskId "artifact_inputs[].evidence_target" target
  let claims := ((request.evidenceUpdates.map (·.target)
    ++ request.evidenceObservations.map (·.target) ++ artifactTargets).filterMap
      EvidenceTarget.supplementalClaim?).dedup
  ensure (claims.map (·.1)).Nodup (.validation "evidence_updates[].target"
    "one supplemental evidence claim ID cannot use multiple statements")
  ensure (claims.all fun claim => (t.evidenceClaims.find? (request.taskId, claim.1)).all
      (·.statement = claim.2))
    (.validation "evidence_target.statement"
      "supplemental evidence claim statements are immutable within a Task")
  return (claims.filter fun claim =>
    (t.evidenceClaims.find? (request.taskId, claim.1)).isNone).map fun claim =>
      ⟨request.taskId, claim.1, claim.2⟩

/- Observations. -/

inductive RecordRunObservationOrigin where
  | caller | validatedReuse
deriving DecidableEq

structure RecordRunObservationContext where
  plan : PlanContext
  request : RecordRunRequest
  runId : String
  artifactPlans : List RecordRunArtifactPlan
  captureAuthorities : List RecordRunCaptureAuthority
  currentScopeRevision : Nat
  (observationIds producerIds : List String)

structure RecordRunObservationPlan where
  observation : EvidenceObservationRecord
  target : EvidenceTarget
  producer : Option EvidenceProducerRecord

namespace RecordRunObservationContext
variable (context : RecordRunObservationContext)

def taskId : String := context.request.taskId

def plannedStateVersion : Nat := context.plan.stateVersion + 1

def registeredArtifacts : List ArtifactRef := context.artifactPlans.map (·.artifactRef)

def refOf (kind : StateRecordKind) (recordId : String) : StateRecordRef :=
  stateRef kind recordId context.plan.projectId (some context.taskId)
    (some context.plannedStateVersion)

def basisFor (target : EvidenceTarget) : EvidenceObservationBasis :=
  ⟨context.plan.projectId, context.taskId, context.request.changeUnitId,
    context.currentScopeRevision, some context.request.baselineRef, target, context.plan.now⟩

/-- `canonical_evidence_artifact_refs`: one ref per artifact, as this Run or the Store has it.
The source keeps them sorted by id, and every comparison is of sets. -/
def canonicalArtifactRefs (t : CoreTables) (field : String) (refs : List ArtifactRef) :
    CoreResult (List ArtifactRef) := do
  let failure := CoreError.validation field
    "evidence artifact refs must identify existing artifacts owned by the request project and Task"
  let canonical ← refs.mapM fun reference => do
    ensure (reference.projectId = context.plan.projectId && reference.taskId = context.taskId)
      failure
    match context.registeredArtifacts.find? (·.artifactId = reference.artifactId) with
    | some registered => return registered
    | none =>
      let stored ← okOr failure (t.artifacts.find? reference.artifactId)
      ensure (stored.taskId = context.taskId
        && t.artifactHasTaskOwnerLink reference.artifactId context.taskId) failure
      return stored.refFromVerifiedRecord context.plan
  return firstByKey (·.artifactId) canonical

/-- `validate_evidence_observation_state_refs`, for the input refs of an observation. -/
def validateInputRefs (refs : List StateRecordRef) : CoreResult Unit := do
  let failure := CoreError.validation "evidence_observations[].input_refs"
  ensure (refs.all (!Text.isBlank ·.recordId))
    (failure "evidence observation refs must use non-empty record_id values")
  ensure (refs.all (·.projectId = context.plan.projectId))
    (failure "evidence observation refs must belong to the request project")
  ensure (refs.all fun reference => reference.taskId.all (· = context.taskId))
    (failure "evidence observation refs must not belong to another Task")

def captureAuthorityFor (input : EvidenceObservationInput) :
    CoreResult (Option RecordRunCaptureAuthority) :=
  match captureIntentRefs input.inputRefs with
  | [] => .ok none
  | intentRef :: others => do
    ensure (others.isEmpty
        && intentRef.belongsTo .evidenceCaptureIntent context.plan.projectId context.taskId)
      (evidenceInsufficient
        "evidence-capture intent ref does not match the request project and Task")
    let capture ← okOr (evidenceInsufficient
        "evidence-capture intent authority was not prepared for this observation")
      (context.captureAuthorities.find?
        (·.intent.evidenceCaptureIntentId = intentRef.recordId))
    ensure (input.target = capture.intent.target) (evidenceInsufficient
      "evidence-capture observation target does not match the immutable intent")
    ensure (input.sourceKind = .externalTool && input.assuranceLevel = .externalToolResult)
      (evidenceInsufficient
        "evidence-capture observation source and assurance do not match the producer kind")
    ensure input.observedByActorSource.isNone (evidenceInsufficient
      "evidence-capture observation must leave observed_by_actor_source null")
    ensure input.toolName.isNone (evidenceInsufficient
      "evidence-capture observation must leave tool_name null")
    ensure input.toolInvocationId.isNone (evidenceInsufficient
      "evidence-capture observation must leave tool_invocation_id null")
    ensure input.limitations.isEmpty (evidenceInsufficient
      "evidence-capture observation must leave limitations empty")
    ensure input.outputArtifactRefs.isEmpty (evidenceInsufficient
      "caller source or output refs cannot replace an evidence-capture receipt")
    return some capture

def withCapture (input : EvidenceObservationInput) (capture : RecordRunCaptureAuthority) :
    EvidenceObservationInput :=
  { input with
    outputArtifactRefs := [capture.receiptArtifactRef]
    observedByActorSource := some capture.receipt.observedByActorSource
    toolName := some capture.intent.capture.toolName
    toolInvocationId := capture.receipt.hostInvocationId <|>
      (if capture.receipt.captureKind = .verifiedCommandExecution then
        some capture.receipt.evidenceCaptureReceiptId else none)
    limitations := capture.receipt.limitations
    observedAt := capture.receipt.observedAt }

end RecordRunObservationContext

structure DerivedObservationAuthority where
  sourceKind : EvidenceSourceKind
  assuranceLevel : EvidenceAssuranceLevel
  observedByActorSource : Option ActorSource
  producerAnchor : EvidenceProducerAnchor
  relevanceAssessment : EvidenceRelevanceAssessment
  observedAt : Option UtcTimestamp

def unverifiedCallerPair : EvidenceSourceKind → EvidenceSourceKind × EvidenceAssuranceLevel
  | .unverifiedClaim => (.unverifiedClaim, .unverified)
  | _ => (.agentReport, .cooperativeReport)

namespace RecordRunObservationContext
variable (context : RecordRunObservationContext)

variable (t : CoreTables) (input : EvidenceObservationInput)

variable (outputArtifactRefs : List ArtifactRef)

/-- The authority one input ref gives a user observation, if it names a resolution that says
exactly this of the target and the artifacts. -/
def userObservationAuthority (inputRef : StateRecordRef) :
    CoreResult (Option DerivedObservationAuthority) :=
  if inputRef.belongsTo .userActionResolution context.plan.projectId context.taskId then
    match t.userActionResolutions.find? inputRef.recordId with
    | none => .ok none
    | some resolution => do
      let action ← fromStore (t.userActionRecord context.plan.now resolution.userActionRequestId)
      let producerRef := stateRef .userActionResolution resolution.userActionResolutionId
        context.plan.projectId (some context.taskId) (some context.plan.stateVersion)
      return action.bind fun action =>
        (userActionObservationResolutionAuthority action resolution context.taskId
          context.request.changeUnitId context.currentScopeRevision
          (some context.request.baselineRef) input.target outputArtifactRefs).map fun authority =>
            { sourceKind := input.sourceKind, assuranceLevel := input.assuranceLevel
              observedByActorSource := some .localUser
              producerAnchor := ⟨.userChannelObservation, some producerRef, outputArtifactRefs,
                some resolvedVerificationBasis⟩
              relevanceAssessment := ⟨authority.relevanceStatus, some producerRef,
                some .localUser⟩
              observedAt := some authority.resolvedAt }
  else .ok none

/-- `derive_user_observation_authority`: the first input ref that carries an authority. -/
def deriveUserObservationAuthority (t : CoreTables) (input : EvidenceObservationInput)
    (outputArtifactRefs : List ArtifactRef) :
    List StateRecordRef → CoreResult (Option DerivedObservationAuthority)
  | [] => .ok none
  | inputRef :: rest => do
    match ← context.userObservationAuthority t input outputArtifactRefs inputRef with
    | some authority => return some authority
    | none => deriveUserObservationAuthority t input outputArtifactRefs rest

variable (origin : RecordRunObservationOrigin)

def deriveAuthority (capture : Option (RecordRunCaptureAuthority × String)) :
    CoreResult DerivedObservationAuthority :=
  if origin = .validatedReuse && input.sourceKind = .reusedEvidence then
    let producerRef := input.inputRefs.head?
    .ok { sourceKind := input.sourceKind, assuranceLevel := input.assuranceLevel
          observedByActorSource := none
          producerAnchor := ⟨.reusedEvidence, producerRef, outputArtifactRefs,
            some reuseVerificationBasis⟩
          relevanceAssessment := ⟨.supported, producerRef, none⟩
          observedAt := none }
  else match capture with
  | some (capture, producerId) =>
    .ok { sourceKind := .externalTool, assuranceLevel := .externalToolResult
          observedByActorSource := some capture.receipt.observedByActorSource
          producerAnchor := ⟨capture.receipt.captureKind,
            some (context.refOf .evidenceProducer producerId), outputArtifactRefs,
            some capture.verificationBasis⟩
          relevanceAssessment := ⟨capture.relevanceStatus, some capture.intentRef, none⟩
          observedAt := none }
  | none => do
    let anchored ← if input.sourceKind = .userObservation then
        context.deriveUserObservationAuthority t input outputArtifactRefs input.inputRefs
      else pure none
    return anchored.getD
      { sourceKind := (unverifiedCallerPair input.sourceKind).1
        assuranceLevel := (unverifiedCallerPair input.sourceKind).2
        observedByActorSource := some context.plan.invocation.actorSource
        producerAnchor := ⟨.unverifiedCaller, none, outputArtifactRefs, none⟩
        relevanceAssessment := ⟨.unassessed, none, none⟩
        observedAt := none }

/-- `output_artifact_refs_for_observation`, for a source no authority binds to its outputs. -/
def openOutputArtifactRefs : List ArtifactRef :=
  input.outputArtifactRefs
  ++ (context.artifactPlans.filter (·.evidenceTarget = some input.target)).map (·.artifactRef)
  ++ context.registeredArtifacts.filter fun artifact =>
    input.outputArtifactRefs.any fun existing => existing.artifactId = artifact.artifactId
      && existing.projectId = artifact.projectId

def producerRow (observationId : String) (capture : RecordRunCaptureAuthority)
    (producerId : String) : EvidenceProducerRecord where
  evidenceProducerId := producerId
  evidenceCaptureIntentId := capture.intent.evidenceCaptureIntentId
  evidenceCaptureReceiptId := capture.receipt.evidenceCaptureReceiptId
  evidenceObservationId := observationId
  artifactId := capture.receiptArtifactRef.artifactId
  runId := context.runId
  taskId := context.taskId
  changeUnitId := context.request.changeUnitId
  scopeRevision := context.currentScopeRevision
  baselineRef := context.request.baselineRef
  producerKind := capture.receipt.captureKind
  captureIntentRef := capture.intentRef
  target := capture.intent.target
  inputSha256 := capture.intent.inputSha256
  resultSha256 := capture.receipt.resultSha256
  expectedOutcome := capture.intent.expectedOutcome
  observedOutcome := capture.receipt.observedOutcome
  connectionId := capture.receipt.connectionId
  hostInvocationId := capture.receipt.hostInvocationId
  receiptArtifactRefs := [capture.receiptArtifactRef]
  limitations := capture.receipt.limitations
  observedByActorSource := capture.receipt.observedByActorSource
  observedAt := capture.receipt.observedAt
  producedAtStateVersion := some context.plannedStateVersion
  createdAt := context.plan.now
  verificationBasis := capture.verificationBasis

def observationRow (observationId : String) (input : EvidenceObservationInput)
    (outputArtifactRefs : List ArtifactRef) (authority : DerivedObservationAuthority) :
    EvidenceObservationRecord where
  evidenceObservationId := observationId
  taskId := context.taskId
  changeUnitId := some context.request.changeUnitId
  runId := some context.runId
  acceptanceCriterionId := match input.target with
    | .acceptanceCriterion acceptanceCriterionId => some acceptanceCriterionId
    | .supplementalClaim _ _ => none
  evidenceClaimId := match input.target with
    | .acceptanceCriterion _ => none
    | .supplementalClaim evidenceClaimId _ => some evidenceClaimId
  sourceKind := authority.sourceKind
  assuranceLevel := authority.assuranceLevel
  observedByActorSource := authority.observedByActorSource
  toolName := input.toolName
  toolInvocationId := input.toolInvocationId
  inputRefs := input.inputRefs
  outputArtifactRefs := outputArtifactRefs
  limitations := normalizedStringSet input.limitations
  observedAt := authority.observedAt.getD input.observedAt
  recordedAt := context.plan.now
  recordedByRunId := context.runId
  invocationVerificationBasis := context.plan.invocation.verificationBasis
  producerAnchor := authority.producerAnchor
  relevanceAssessment := authority.relevanceAssessment

def planObservation (position : Nat) : CoreResult RecordRunObservationPlan := do
  ensure (evidenceAssuranceMatchesSource input.sourceKind input.assuranceLevel)
    (.validation "evidence_observations[]"
      "evidence source_kind and assurance_level must describe the same provenance class")
  context.validateInputRefs input.inputRefs
  let capture ← context.captureAuthorityFor input
  let input ← match capture with
    | some capture => pure (withCapture input capture)
    | none => do
      let refs ← context.canonicalArtifactRefs t "evidence_observations[].output_artifact_refs"
        input.outputArtifactRefs
      pure { input with outputArtifactRefs := refs }
  ensure (input.toolName.all (!Text.isBlank ·)) (.validation "evidence_observations[].tool_name"
    "tool_name must be null or a non-empty string")
  ensure (input.toolInvocationId.all (!Text.isBlank ·))
    (.validation "evidence_observations[].tool_invocation_id"
      "tool_invocation_id must be null or a non-empty string")
  let observationId ← drawId context.observationIds position fun id =>
    (t.evidenceObservations.find? id).isSome
  let bound := origin = .validatedReuse || capture.isSome
    || input.sourceKind ∈ [.userObservation, .reusedEvidence]
  let outputs := firstByKey (·.artifactId)
    (if bound then input.outputArtifactRefs else context.openOutputArtifactRefs input)
  let finalized ← match capture with
    | none => pure none
    | some capture => do
      let producerId ← drawId context.producerIds position fun id =>
        (t.evidenceProducers.find? id).isSome
      pure (some (capture, producerId))
  let authority ← context.deriveAuthority t input outputs origin finalized
  return ⟨context.observationRow observationId input outputs authority, input.target,
    finalized.map fun (capture, producerId) =>
      context.producerRow observationId capture producerId⟩

/- Updates. -/

/-- `validate_evidence_update_observation_refs`, for one ref. -/
def validateUpdateObservationRef (target : EvidenceTarget) (requireStrongReuse : Bool)
    (reference : StateRecordRef) : CoreResult Unit := do
  let failure := CoreError.validation "evidence_updates[].observation_refs"
  ensure (reference.belongsTo .evidenceObservation context.plan.projectId context.taskId
      && !Text.isBlank reference.recordId)
    (failure "evidence update observation refs must identify same-Task evidence observations")
  let record ← okOr (failure
    "evidence update observation refs must identify existing observations")
    (t.evidenceObservations.find? reference.recordId)
  ensure (record.taskId = context.taskId
      && record.changeUnitId = some context.request.changeUnitId && record.targetMatches target)
    (failure
      "evidence update observation refs must match the current Task, Change Unit, and evidence target")
  ensure ((record.runId.bind t.runs.find?).any fun run => run.matchesContext context.taskId
      context.request.changeUnitId context.currentScopeRevision
      (some context.request.baselineRef))
    (failure "evidence update observation refs must have current same-scope Run provenance")
  if requireStrongReuse then
    let provenance ← t.provenanceClass context.plan (context.basisFor target) record
    ensure (provenance = .strong && record.relevanceAssessment.status = .supported)
      (failure
        "supported evidence may only reuse target-matching observations with sufficient provenance and supported relevance")

def validateSupportingRunRefs (refs : List StateRecordRef) : CoreResult Unit :=
  ensure (refs.all fun reference =>
      reference.belongsTo .run context.plan.projectId context.taskId
      && !Text.isBlank reference.recordId
      && (reference.recordId = context.runId
        || (t.runs.find? reference.recordId).any (·.taskId = context.taskId)))
    (.validation "evidence_updates[].supporting_run_refs"
      "supporting_run_refs must identify existing Runs for the request Task")

variable (explicitTargets : List EvidenceTarget) (update : EvidenceCoverageUpdate)

/-- `validate_record_run_evidence_update`; no blocker is ever active, so no gap ref names one. -/
def validateUpdate : CoreResult Unit := do
  let needsReuse : Bool := update.coverageState = .supported
    && !explicitTargets.contains update.target && update.provenance.isNone
  update.observationRefs.forM
    (context.validateUpdateObservationRef t update.target needsReuse)
  context.validateSupportingRunRefs t update.supportingRunRefs
  let _ ← context.canonicalArtifactRefs t "evidence_updates[].supporting_artifact_refs"
    update.supportingArtifactRefs
  ensure update.gapRefs.isEmpty (.validation "evidence_updates[].gap_refs"
    "gap_refs must identify active blockers for the request Task")
  ensure (update.provenance.all fun provenance =>
      evidenceAssuranceMatchesSource provenance.sourceKind provenance.assuranceLevel)
    (.validation "evidence_updates[].provenance"
      "evidence source_kind and assurance_level must describe the same provenance class")
  ensure (update.provenance.all fun provenance => provenance.toolName.all (!Text.isBlank ·))
    (.validation "evidence_updates[].provenance.tool_name"
      "tool_name must be null or a non-empty string")
  ensure (update.provenance.all fun provenance =>
      provenance.toolInvocationId.all (!Text.isBlank ·))
    (.validation "evidence_updates[].provenance.tool_invocation_id"
      "tool_invocation_id must be null or a non-empty string")
  ensure (!(needsReuse && update.observationRefs.isEmpty))
    (.validation "evidence_updates[].provenance"
      "supported evidence updates require provenance or a target-matching evidence observation")

/-- `observation_input_from_evidence_update`. -/
def inputFromUpdate (provenance : EvidenceUpdateProvenance) : EvidenceObservationInput where
  target := update.target
  sourceKind := provenance.sourceKind
  assuranceLevel := provenance.assuranceLevel
  observedByActorSource := none
  toolName := provenance.toolName
  toolInvocationId := provenance.toolInvocationId
  inputRefs := update.supportingRunRefs
  outputArtifactRefs := update.supportingArtifactRefs
  limitations := provenance.limitations
  observedAt := provenance.observedAt.getD context.plan.now

/-- One entry of `reused_observation_inputs_for_update`. -/
def reusedInput (record : EvidenceObservationRecord) : EvidenceObservationInput where
  target := update.target
  sourceKind := .reusedEvidence
  assuranceLevel := record.assuranceLevel
  observedByActorSource := none
  toolName := none
  toolInvocationId := none
  inputRefs := [stateRef .evidenceObservation record.evidenceObservationId
    context.plan.projectId (some context.taskId) (some context.plan.stateVersion)]
  outputArtifactRefs := record.outputArtifactRefs
  limitations := ["Reuses target-matching observation provenance from the current scope."]
  observedAt := context.plan.now

/-- The observations a supported update adds when the request has none for its target. -/
def inputsOfUpdate : List (EvidenceObservationInput × RecordRunObservationOrigin) :=
  if update.coverageState = .supported && !explicitTargets.contains update.target then
    match update.provenance with
    | some provenance => [(context.inputFromUpdate update provenance, .caller)]
    | none => (update.observationRefs.filterMap fun reference =>
        t.evidenceObservations.find? reference.recordId).map fun record =>
      (context.reusedInput update record, .validatedReuse)
  else []

def planObservations : CoreResult (List RecordRunObservationPlan) := do
  let explicit := context.request.evidenceObservations
  let first ← explicit.zipIdx.mapM fun (input, position) =>
    context.planObservation t input .caller position
  let explicitTargets := first.map (·.target)
  context.request.evidenceUpdates.forM (context.validateUpdate t explicitTargets)
  let derived := context.request.evidenceUpdates.flatMap
    (context.inputsOfUpdate t explicitTargets)
  let second ← derived.zipIdx.mapM fun ((input, origin), position) =>
    context.planObservation t input origin (explicit.length + position)
  return first ++ second

/- The summary. -/

/-- A list of refs with one more, unless it names that record already. -/
def addRef (refs : List StateRecordRef) (reference : StateRecordRef) : List StateRecordRef :=
  if refs.any fun existing => existing.projectId = reference.projectId
      && existing.recordKind = reference.recordKind
      && existing.recordId = reference.recordId
  then refs else refs ++ [reference]

variable (plans : List RecordRunObservationPlan)

/-- One item of `build_record_run_evidence_summary`. -/
def coverageItem (update : EvidenceCoverageUpdate) : CoreResult EvidenceCoverageItem := do
  let supporting ← context.canonicalArtifactRefs t
    "evidence_updates[].supporting_artifact_refs" update.supportingArtifactRefs
  let artifacts := firstByKey (·.artifactId) (supporting
    ++ (context.artifactPlans.filter (·.evidenceTarget = some update.target)).map (·.artifactRef))
  let planned := (plans.filter (·.target = update.target)).map fun plan =>
    context.refOf .evidenceObservation plan.observation.evidenceObservationId
  return {
    target := update.target
    coverageState := if update.coverageState = .supported
        && artifacts.any (!·.verifiedAvailable) then .stale
      else update.coverageState.coverageState
    supportingRunRefs := addRef update.supportingRunRefs (context.refOf .run context.runId)
    observationRefs := planned.foldl addRef update.observationRefs
    supportingArtifactRefs := artifacts
    gapRefs := update.gapRefs }

/-- `build_record_run_evidence_summary`; without updates there is no summary. -/
def evidenceSummary : CoreResult (Option (List EvidenceCoverageItem)) :=
  if context.request.evidenceUpdates.isEmpty then .ok none
  else (context.request.evidenceUpdates.mapM (context.coverageItem t plans)).map some

end RecordRunObservationContext

def RecordRunObservationPlan.mutations (plan : RecordRunObservationPlan) (taskId : String) :
    List CoreStorageMutation :=
  .evidence (.insertObservation plan.observation)
  :: plan.observation.outputArtifactRefs.map (fun reference => .artifact (.link
    ⟨reference.artifactId, taskId, .evidenceObservation,
      plan.observation.evidenceObservationId⟩))
  ++ plan.producer.toList.flatMap fun producer =>
    .evidence (.insertProducer producer) :: producer.receiptArtifactRefs.map fun reference =>
      .artifact (.link ⟨reference.artifactId, taskId, .evidenceProducer,
        producer.evidenceProducerId⟩)

/-- What the evidence of a Run comes to: its mutations in their order, the artifacts it
registers and the summary it leaves. -/
structure RecordRunEvidencePlan where
  mutations : List CoreStorageMutation
  registeredArtifacts : List ArtifactRef
  evidenceSummaryRef : Option StateRecordRef

def summaryMutations (context : RecordRunObservationContext) (evidenceSummaryId : String) :
    Option (List EvidenceCoverageItem) → List CoreStorageMutation
  | none => []
  | some items =>
    .evidence (.upsertSummary ⟨evidenceSummaryId, context.taskId,
      some context.request.changeUnitId, evidenceStatusForItems items, items, context.runId⟩)
    :: context.registeredArtifacts.map fun reference =>
      .artifact (.link ⟨reference.artifactId, context.taskId, .evidenceSummary,
        evidenceSummaryId⟩)

/-- The evidence part of `plan_record_run_mutations`. -/
def planRecordRunEvidence (context : PlanContext) (t : CoreTables) (request : RecordRunRequest)
    (scopeRevision : Nat) (runId : String) (ids : RecordRunIds)
    (claims : List EvidenceClaimRecord) : CoreResult RecordRunEvidencePlan := do
  let artifacts ← planRecordRunArtifacts context t request runId ids.artifactIds
  let captures ← planRecordRunCaptureAuthorities context t request scopeRevision runId
    ids.artifactIds
  let artifactPlans := artifacts ++ captures.map (·.1)
  let observing : RecordRunObservationContext := ⟨context, request, runId, artifactPlans,
    captures.map (·.2), scopeRevision, ids.observationIds, ids.producerIds⟩
  let plans ← observing.planObservations t
  let summary ← observing.evidenceSummary t plans
  requireFresh (summary.isSome && (t.evidenceSummaries.find? ids.evidenceSummaryId).isSome)
  return {
    mutations := claims.map (fun claim => .evidence (.ensureClaim claim))
      ++ artifactPlans.flatMap (·.mutations request.taskId runId)
      ++ plans.flatMap (·.mutations request.taskId)
      ++ summaryMutations observing ids.evidenceSummaryId summary
    registeredArtifacts := observing.registeredArtifacts
    evidenceSummaryRef := summary.map fun _ =>
      observing.refOf .evidenceSummary ids.evidenceSummaryId }

end Volicord
