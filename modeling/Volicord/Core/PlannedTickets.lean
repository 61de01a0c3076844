import Volicord.Core.PlanningState
import Volicord.Core.PolicyControl

/-! The plan of `prepare_write` and its own consistency checks. The paths of a request are taken
over as they stand, so a path named twice breaks the path scope of a ticket and of a decision
without one. -/
namespace Volicord
open Result Relational CoreTables Sorted
variable {ι : Type} [DecidableEq ι]
variable {policy : CoreWorkflowPolicy} {X : External} {t : CoreTables}

namespace PrepareWrite
variable {required : WriteTicketValidityBasis} {scope : WriteTicketAttemptScope}
  {approval : Option String} {admitted : AdmittedTransition} {paths : WriteTicketPathScope}
  {input : PrepareWriteInput}

/-- The idle timeout makes `chrono` panic. -/
def IdleOverflows (policy : CoreWorkflowPolicy) : Prop :=
  ∃ minutes, policy.settings.writeTicketIdleTimeoutMinutes = some minutes ∧
    minutes < 2 ^ 63 ∧ 2 ^ 63 ≤ minutes * 60000

/-- The ticket decision ends in an internal error: a path is named twice where a path scope is
made of the paths, or the idle timeout of a new ticket is out of bounds. -/
def TicketStumbles (X : External) (policy : CoreWorkflowPolicy) (now : UtcTimestamp)
    (paths : List ProductRelativePath) (compatible : List StoredWriteTicket)
    (reasons : List WriteTicketDecisionReason) : Prop :=
  match compatible, reasons with
  | [_], [] => False
  | [], [] => IdleOverflows policy ∨ checkIdleTimeout X policy now = .ok () ∧ ¬ paths.Nodup
  | _, _ => ¬ paths.Nodup

def Regular {α : Type} (result : CoreResult α) : Prop :=
  ∀ detail, result ≠ .error (.invariant detail)

section Regular
variable {α β : Type}

theorem regular_ok (a : α) : Regular (.ok a : CoreResult α) := fun _ h => by cases h

theorem regular_fromStore (result : StoreResult α) : Regular (fromStore result) := by
  intro detail h
  obtain ⟨_, _, h⟩ := mapError_eq_error.mp h
  cases h

theorem regular_bind {result : CoreResult α} {rest : α → CoreResult β} (h : Regular result)
    (hrest : ∀ a, result = .ok a → Regular (rest a)) : Regular (result >>= rest) := by
  intro detail herror
  rcases bind_eq_error.mp herror with herror | ⟨a, ha, herror⟩
  · exact h detail herror
  · exact hrest a ha detail herror

theorem regular_ensure {condition : Bool} {error : CoreError}
    (h : ∀ detail, error ≠ .invariant detail) : Regular (ensure condition error) :=
  fun detail herror => h detail (ensure_eq_error.mp herror).2

theorem regular_okOr {o : Option α} {error : CoreError} (h : ∀ detail, error ≠ .invariant detail) :
    Regular (okOr error o) :=
  fun detail herror => h detail (okOr_eq_error.mp herror).2

theorem regular_mapError {ε : Type} {result : Except ε α} {f : ε → CoreError}
    (h : ∀ error detail, f error ≠ .invariant detail) : Regular (result.mapError f) := by
  intro detail herror
  obtain ⟨error, _, heq⟩ := mapError_eq_error.mp herror
  exact h error detail heq

end Regular

theorem regular_normalize (request : PrepareWriteRequest) : Regular (normalize request) :=
  regular_bind (regular_ensure fun _ h => by cases h) fun _ _ =>
    regular_bind (regular_mapError fun _ _ h => by cases h) fun _ _ => regular_ok _

theorem regular_decidePolicy (X : External) (t : CoreTables) (task : TaskRecord)
    (input : PrepareWriteInput) : Regular (decidePolicy X t task input) := by
  refine regular_bind (regular_ensure fun _ h => by cases h) fun _ _ =>
    regular_bind (regular_fromStore _) fun policy _ =>
    regular_bind (regular_ensure fun _ h => by cases h) fun _ _ =>
    regular_bind (regular_ensure fun _ h => by cases h) fun _ _ => ?_
  split <;> exact regular_ok _

theorem regular_scopeReasons {context : PlanContext} {task : TaskRecord}
    {changeUnit : ChangeUnitRecord} {request : PrepareWriteRequest}
    (hunit : changeUnit.WellFormed) :
    Regular (scopeReasons context t task changeUnit request input) := by
  unfold scopeReasons
  cases hcontract : changeUnit.effectContract with
  | none => exact regular_bind (regular_ok _) fun _ _ => regular_ok _
  | some contract =>
    refine regular_bind ?_ fun _ _ => regular_ok _
    obtain ⟨paths, hpaths⟩ := hunit.contract contract hcontract
    intro detail herror
    obtain ⟨_, herror, _⟩ := mapError_eq_error.mp herror
    unfold productWriteViolations at herror
    split at herror
    · cases herror
    · dsimp only at herror
      split at herror
      · cases herror
      · simp [hpaths, pure, Except.pure] at herror

namespace Judged
variable {context : PlanContext} {taskId : String}
  {request : PrepareWriteRequest} (judged : Judged X context t taskId request)

def Stumbles : Prop :=
  TicketStumbles X judged.decision.policy context.now judged.input.intendedPaths judged.compatible
    judged.against

theorem plan_eq {ticketId : String} : PrepareWrite.plan X context t taskId request ticketId admitted
      = evaluateCandidates context t judged.decision.task judged.authorities judged.required
          judged.scope judged.requirement.isRequired >>= fun _ =>
        (judged.effect ticketId).map fun result =>
        { taskId := taskId, changeUnitId := some judged.changeUnit.changeUnitId
          eventKind := result.1, descriptor := some admitted.descriptor
          mutations := judged.decision.controlMutations ++ staleMutations judged.candidates
            ++ result.2 } := by
  simp only [PrepareWrite.plan, fromStore, judged.record, judged.unit, judged.authorityRead,
    judged.normalized, judged.decided, judged.reasoned, judged.pendingRead, judged.authoritiesRead,
    judged.progressable, Except.mapError, okOr, ensure, ok_bind, if_true,
    PrepareWriteInput.pathTexts, typedProductPaths_texts]
  change (evaluateCandidates context t judged.decision.task judged.authorities judged.required
    judged.scope judged.requirement.isRequired >>= _) = _
  cases hread : evaluateCandidates context t judged.decision.task judged.authorities
    judged.required judged.scope judged.requirement.isRequired with
  | error => rfl
  | ok candidates =>
    obtain rfl := judged.candidates_of_ok hread
    change (judged.effect ticketId >>= _) = _
    cases judged.effect ticketId <;> rfl

end Judged

section Effect
variable {context : PlanContext} {taskId ticketId : String}
  {request : PrepareWriteRequest}

/-- A stored ticket whose columns agree with its status enters the type-state family. -/
theorem exists_preEvaluated {ticket : StoredWriteTicket} (h : ticket.statusColumnsAreValid)
    (now : UtcTimestamp) : ∃ found, preEvaluateStoredWriteTicket ticket now = .ok found := by
  simp only [StoredWriteTicket.statusColumnsAreValid] at h
  simp only [preEvaluateStoredWriteTicket]
  cases hstatus : ticket.status <;>
    simp only [hstatus, Bool.and_eq_true, Option.isNone_iff_eq_none, Option.isSome_iff_exists,
      Bool.false_eq_true] at h
  case active =>
    rw [h.1.1, h.1.2]
    exact ⟨_, rfl⟩
  case consumed =>
    obtain ⟨runId, hrun⟩ := h.1.2
    rw [h.1.1, hrun]
    exact ⟨_, rfl⟩
  case invalidated =>
    obtain ⟨reason, hreason⟩ := h.1.1
    rw [hreason, h.1.2]
    exact ⟨_, rfl⟩

theorem judged_of_invariant {detail : String}
    (hunits : ∀ unit ∈ t.changeUnits.rows, unit.WellFormed)
    (htickets : ∀ ticket ∈ t.writeTickets.rows, ticket.statusColumnsAreValid)
    (h : plan X context t taskId request ticketId admitted = .error (.invariant detail)) :
    ∃ judged : Judged X context t taskId request, ∃ detail,
      judged.effect ticketId = .error (.invariant detail) := by
  by_contra hnone
  refine regular_bind (regular_fromStore _) (fun record hrecord =>
    regular_bind (regular_okOr fun _ h => by cases h) fun stored hstored =>
    regular_bind (regular_fromStore _) fun changeUnit hunit =>
    regular_bind (regular_fromStore _) fun authority hauthority =>
    regular_bind (regular_ensure fun _ h => by cases h) fun _ hprogress =>
    regular_bind (regular_normalize request) fun input hinput =>
    regular_bind (regular_okOr fun _ h => by cases h) fun unit hsome =>
    regular_bind (regular_decidePolicy X t stored input) fun decision hdecision =>
    regular_bind ?_ fun reasons hreasons =>
    regular_bind (by rw [PrepareWriteInput.pathTexts, typedProductPaths_texts]; exact regular_ok _)
      fun paths hpaths =>
    regular_bind (regular_fromStore _) fun pending hpending =>
    regular_bind (regular_fromStore _) fun authorities hauthorities => ?_) detail h
  all_goals
    obtain rfl := okOr_eq_ok.mp hstored
    obtain rfl := okOr_eq_ok.mp hsome
  · exact regular_scopeReasons (hunits unit
      (currentChangeUnit_mem (fromStore_eq_ok.mp hunit)).1)
  · obtain rfl := Except.ok.inj ((typedProductPaths_texts _).symm.trans hpaths)
    let judged : Judged X context t taskId request := ⟨stored, unit, authority, input, decision,
      reasons, pending, authorities, fromStore_eq_ok.mp hrecord, fromStore_eq_ok.mp hunit,
      fromStore_eq_ok.mp hauthority, ensure_eq_ok.mp hprogress, hinput, hdecision, hreasons,
      fromStore_eq_ok.mp hpending, fromStore_eq_ok.mp hauthorities⟩
    have hread := judged.candidates_eq fun ticket hticket =>
      exists_preEvaluated (htickets ticket (List.mem_of_mem_filter hticket)) context.now
    refine regular_bind (fun detail herror => by cases hread.symm.trans herror) fun _ hcandidates =>
      ?_
    obtain rfl := judged.candidates_of_ok hcandidates
    exact regular_bind (fun detail herror => hnone ⟨judged, detail, herror⟩) fun _ _ => regular_ok _

theorem pathScope_invariant_iff (allowed denied : List ProductRelativePath) :
    (∃ detail, pathScope allowed denied = .error (.invariant detail)) ↔
      ¬ (allowed.Nodup ∧ denied.Nodup ∧ pathScopesOverlap allowed denied = false) := by
  unfold pathScope WriteTicketPathScope.new
  by_cases hallowed : allowed.Nodup <;> by_cases hdenied : denied.Nodup <;>
    by_cases hdisjoint : pathScopesOverlap allowed denied = false <;>
    simp [hallowed, hdenied, hdisjoint, Except.mapError]

theorem decisionPaths_invariant_iff (reasons : List WriteTicketDecisionReason)
    (paths : List ProductRelativePath) :
    (∃ detail, pathScope (paths.filter (!(deniedPaths reasons paths).contains ·))
      (deniedPaths reasons paths) = .error (.invariant detail)) ↔ ¬ paths.Nodup := by
  rw [pathScope_invariant_iff]
  unfold deniedPaths
  split
  · have hnone : paths.filter (!paths.contains ·) = [] := by simp
    rw [hnone]
    simp [pathScopesOverlap]
  · simp [pathScopesOverlap]

theorem checkIdleTimeout_invariant_iff (now : UtcTimestamp) :
    (∃ detail, checkIdleTimeout X policy now = .error (.invariant detail)) ↔
      IdleOverflows policy := by
  unfold checkIdleTimeout IdleOverflows
  cases policy.settings.writeTicketIdleTimeoutMinutes with
  | none => simp
  | some minutes =>
    simp only [bind_eq_error, ensure_eq_error, ensure_eq_ok, Option.some.injEq, exists_eq_left']
    simp

theorem issue_invariant_iff (hfresh : t.writeTickets.find? ticketId = none)
    (hvalid : checkIdleTimeout X policy context.now = .ok () → ∀ paths,
      pathScope scope.intendedPaths [] = .ok paths → materialize X context
        (issuedTicket context ticketId required scope paths policy approval) = .ok ()) :
    (∃ detail, ticketEffect X context t ticketId required scope policy approval [] []
      = .error (.invariant detail)) ↔
      IdleOverflows policy ∨
        checkIdleTimeout X policy context.now = .ok () ∧ ¬ scope.intendedPaths.Nodup := by
  have hpaths := pathScope_invariant_iff scope.intendedPaths []
  simp only [List.nodup_nil, pathScopesOverlap, List.any_nil, List.any_eq_false,
    Bool.false_eq_true, not_false_eq_true, implies_true, and_true] at hpaths
  constructor
  · rintro ⟨detail, h⟩
    rcases bind_eq_error.mp h with h | ⟨_, hidle, h⟩
    · exact .inl ((checkIdleTimeout_invariant_iff _).mp ⟨detail, h⟩)
    · rcases bind_eq_error.mp h with h | ⟨paths, hscope, h⟩
      · exact .inr ⟨hidle, hpaths.mp ⟨detail, h⟩⟩
      · have hdone := hvalid hidle paths hscope
        simp [requireFresh, hfresh, hdone, ensure, pure, Except.pure] at h
  · rintro (hidle | ⟨hidle, hdup⟩)
    · obtain ⟨detail, h⟩ := (checkIdleTimeout_invariant_iff (X := X) context.now).mpr hidle
      exact ⟨detail, by simp only [ticketEffect, h, error_bind]⟩
    · obtain ⟨detail, h⟩ := hpaths.mpr hdup
      exact ⟨detail, by simp only [ticketEffect, hidle, ok_bind, h, error_bind]⟩

/-- A decision stumbles exactly if it should; a ticket that gets as far as its own checks passes
them. -/
theorem ticketEffect_invariant_iff
    {reasons : List WriteTicketDecisionReason} {compatible : List StoredWriteTicket}
    (hfresh : t.writeTickets.find? ticketId = none)
    (hvalid : reasons = [] → checkIdleTimeout X policy context.now = .ok () → ∀ paths,
      pathScope scope.intendedPaths [] = .ok paths → materialize X context
        (issuedTicket context ticketId required scope paths policy approval) = .ok ()) :
    (∃ detail, ticketEffect X context t ticketId required scope policy approval reasons compatible
      = .error (.invariant detail)) ↔
      TicketStumbles X policy context.now scope.intendedPaths compatible reasons := by
  have hdecision : (∃ detail, (do
      let _ ← pathScope (scope.intendedPaths.filter
        (!(deniedPaths reasons scope.intendedPaths).contains ·))
        (deniedPaths reasons scope.intendedPaths)
      return ("write_decision_recorded", ([] : List CoreStorageMutation)))
        = (.error (.invariant detail) : CoreResult _)) ↔ ¬ scope.intendedPaths.Nodup := by
    rw [← decisionPaths_invariant_iff reasons]
    refine exists_congr fun detail => ?_
    rw [bind_eq_error, or_iff_left]
    rintro ⟨_, _, h⟩
    cases h
  rcases compatible with _ | ⟨ticket, _ | ⟨other, rest⟩⟩
  · cases reasons with
    | nil => exact issue_invariant_iff hfresh (hvalid rfl)
    | cons => exact hdecision
  · cases reasons with
    | nil => exact iff_of_false (by rintro ⟨_, h⟩; cases h) id
    | cons => exact hdecision
  · cases reasons <;> exact hdecision

end Effect

/- The checks of an issued ticket. -/

theorem mem_dropWhile {α : Type} {p : α → Bool} {a : α} {l : List α} (h : a ∈ l)
    (ha : p a = false) : a ∈ l.dropWhile p := by
  induction l with
  | nil => cases h
  | cons b l ih =>
    rw [List.dropWhile_cons]
    split
    · rename_i hb
      rcases List.mem_cons.mp h with rfl | hl
      · simp [ha] at hb
      · exact ih hl
    · exact h

theorem trim_nonblank {text : String} (h : Text.isBlank text = false) :
    Text.isBlank (Text.trim text) = false := by
  simp only [Text.isBlank, List.all_eq_false] at h ⊢
  obtain ⟨c, hc, hspace⟩ := h
  refine ⟨c, ?_, hspace⟩
  have hspace : Text.isWhitespace c = false := by simpa using hspace
  simp only [Text.trim, String.toList_ofList, List.mem_reverse]
  exact mem_dropWhile (List.mem_reverse.mpr (mem_dropWhile hc hspace)) hspace

theorem decidePolicy_revision {task : TaskRecord} {decision : PrepareWritePolicyDecision}
    (h : decidePolicy X t task input = .ok decision) :
    decision.task.scopeRevision = task.scopeRevision := by
  simp only [decidePolicy, steps_ok, fromStore_eq_ok] at h
  obtain ⟨_, _, _, _, _, h⟩ := h
  split at h <;>
  · obtain rfl := pure_eq_ok.mp h
    rfl

section
variable (hsha : ∀ text, isCanonicalSha256Hex (X.sha256Hex text))
include hsha

theorem digest_canonical (value : Json) :
    isCanonicalSha256Digest (canonicalJsonSha256 X value) := by
  rw [isCanonicalSha256Digest, canonicalJsonSha256, Text.strip_append]
  exact hsha _

/-- A policy that can be read has a canonical fingerprint and no idle timeout of zero. -/
theorem projectWorkflowPolicy_sound (h : t.projectWorkflowPolicy X = .ok policy) :
    isCanonicalSha256Digest policy.writeAuthorityFingerprint ∧
      policy.settings.writeTicketIdleTimeoutMinutes ≠ some 0 := by
  simp only [projectWorkflowPolicy, currentWriteAuthorityFingerprint,
    steps_ok] at h
  obtain ⟨fingerprint, hfingerprint, rfl⟩ := h
  cases hstored : t.workflowPolicy with
  | none =>
    rw [hstored] at hfingerprint
    obtain rfl := Except.ok.inj hfingerprint
    exact ⟨digest_canonical hsha _, by simp [conservativeWorkflowSettings]⟩
  | some record =>
    simp only [hstored, Option.map_some, projectWriteAuthorityFingerprint, steps_ok, mapError_eq_ok,
      ProjectWorkflowPolicy.validate, decide_eq_true_eq] at hfingerprint
    obtain ⟨⟨_, _, _, _, _, _, _, hminutes⟩, rfl⟩ := hfingerprint
    exact ⟨digest_canonical hsha _, hminutes⟩

end

/-- What the state has to bring so that an issued ticket passes its own checks. -/
structure Judged.Sound {X : External} {context : PlanContext} {t : CoreTables} {taskId : String}
    {request : PrepareWriteRequest} (judged : Judged X context t taskId request) : Prop where
  project : Text.isBlank context.projectId = false
  task : Text.isBlank taskId = false
  unit : Text.isBlank judged.changeUnit.changeUnitId = false
  approval : judged.approval.all (!Text.isBlank ·)
  revised : judged.stored.scopeRevision ≠ 0
  revision : judged.stored.scopeRevision ≤ context.stateVersion + 1
  now : X.chrono.ensureCanonicalRfc3339Representable context.now

namespace Judged
variable {context : PlanContext} {taskId ticketId : String}
  {request : PrepareWriteRequest} {judged : Judged X context t taskId request}

theorem Sound.materializes (h : judged.Sound)
    (hsha : ∀ text, isCanonicalSha256Hex (X.sha256Hex text))
    (hid : Text.isBlank ticketId = false) (hclear : judged.against = [])
    (hidle : checkIdleTimeout X judged.decision.policy context.now = .ok ())
    (hpaths : pathScope judged.scope.intendedPaths [] = .ok paths) :
    materialize X context (issuedTicket context ticketId judged.required judged.scope paths
      judged.decision.policy judged.approval) = .ok () := by
  obtain ⟨hallowed, hdenied⟩ := WriteTicketPathScope.new_ok (mapError_eq_ok.mp hpaths)
  obtain ⟨hfingerprint, hminutes⟩ :=
    projectWorkflowPolicy_sound hsha (decidePolicy_policy judged.decided)
  have hreasons : judged.reasons = [] := by
    simp only [against, List.append_eq_nil_iff] at hclear
    exact hclear.1.1.1
  have hintent := (scopeReasons_nil (hreasons ▸ judged.reasoned)).intent
  have hrevision := decidePolicy_revision judged.decided
  have hoperation : Text.isBlank judged.input.intendedOperation = false := by
    have hnormal := judged.normalized
    simp only [normalize, steps_ok, mapError_eq_ok, Bool.not_eq_true'] at hnormal
    obtain ⟨hblank, _, _, hinput⟩ := hnormal
    rw [← hinput]
    exact trim_nonblank hblank
  have hworkspace : (workspaceContextSha256 X context.invocation.gitWorkspaceContext).all
      isCanonicalSha256Hex := by
    cases context.invocation.gitWorkspaceContext with
    | none => rfl
    | some workspace => exact hsha _
  have hexpires : (idleExpiresAt judged.decision.policy context.now).all (context.now < ·) = true ∧
      (idleExpiresAt judged.decision.policy context.now).all
        X.chrono.ensureCanonicalRfc3339Representable := by
    unfold checkIdleTimeout at hidle
    cases hset : judged.decision.policy.settings.writeTicketIdleTimeoutMinutes with
    | none => simp [idleExpiresAt, hset]
    | some minutes =>
      simp only [hset, steps_ok] at hidle
      refine ⟨?_, hidle.2.2⟩
      rw [hset] at hminutes
      have hpositive : minutes ≠ 0 := fun hzero => hminutes (congrArg some hzero)
      have hspan : (0 : Int) < minutes * (60 * 1000000000) :=
        Int.mul_pos (Int.natCast_pos.mpr (Nat.pos_of_ne_zero hpositive)) (by decide)
      simp only [idleExpiresAt, hset, Option.map_some, Option.all_some, decide_eq_true_eq]
      exact Int.lt_add_of_pos_right _ hspan
  refine mapError_eq_ok.mpr ?_
  simp only [validatePlanned, steps_ok, Bool.not_eq_true', decide_eq_true_eq, Bool.and_eq_true]
  refine ⟨h.project, h.task, h.unit, hid, h.approval, by omega, hrevision.trans_ne h.revised,
    hoperation, hfingerprint, hworkspace, rfl, rfl, hrevision.trans_le h.revision, rfl,
    ⟨⟨hexpires.1, h.now⟩, hexpires.2⟩, hallowed ▸ paths.allowedNodup, ?_, hintent⟩
  simp only [issuedTicket, List.all_eq_true, Bool.and_eq_true, List.any_eq_true, hallowed, hdenied]
  exact fun path hpath => ⟨⟨path, hpath, path.isWithin_refl⟩, rfl⟩

end Judged

theorem store_accepts {context : PlanContext} {ticketId : String} (h : materialize X context
      (issuedTicket context ticketId required scope paths policy approval) = .ok ()) :
    validateWriteTicketRecord X context.projectId
      ((issuedTicket context ticketId required scope paths policy approval).row
        (context.stateVersion + 1)) none = .ok () := by
  have hplanned := mapError_eq_ok.mp h
  simp only [validatePlanned, steps_ok, Bool.not_eq_true', decide_eq_true_eq,
    Bool.and_eq_true] at hplanned
  obtain ⟨_, _, _, _, happroval, hversion, hrevision, hoperation, hfingerprint, hworkspace, htask,
    hunit, hbound, hbaseline, ⟨⟨horder, hcreated⟩, hidle⟩, hnodup, hpaths, hintent⟩ := hplanned
  simp only [validateWriteTicketRecord, steps_ok, Bool.not_eq_true', decide_eq_true_eq,
    Bool.and_eq_true]
  refine ⟨hversion, hrevision, hoperation, ⟨hfingerprint, hworkspace⟩, hcreated, hidle, rfl,
    ⟨rfl, htask.symm⟩, ?_, ?_, ?_, ⟨rfl, hunit.symm⟩, hbound, hbaseline, ⟨horder, rfl⟩, hnodup,
    hpaths, hintent, rfl⟩
  · cases approval <;> simp [issuedTicket, WriteTicketInsert.row]
  · cases approval with
    | none => rfl
    | some id => simpa [issuedTicket, WriteTicketInsert.row] using happroval
  · cases approval <;> simp [issuedTicket, WriteTicketInsert.row]

theorem approval_nonblank {now : UtcTimestamp} {taskId : String}
    {authorities : List StoredUserActionRecordSet} {requirement : WriteTicketApprovalRequirement}
    (hids : ∀ row ∈ t.userActionResolutions.rows, Text.isBlank row.userActionResolutionId = false)
    (hread : t.resolvedSensitiveApprovals now taskId = .ok authorities) :
    (requirement.currentBasis authorities).all (!Text.isBlank ·) := by
  cases hbasis : requirement.currentBasis authorities with
  | none => rfl
  | some id =>
    have hmem : id ∈ requirement.resolutionIds authorities := List.mem_of_head? hbasis
    simp only [WriteTicketApprovalRequirement.resolutionIds, mem_sortDedup,
      List.mem_filterMap, List.mem_filter, Option.map_eq_some_iff] at hmem
    obtain ⟨record, ⟨hrecord, _⟩, resolution, hresolution, rfl⟩ := hmem
    simp only [resolvedSensitiveApprovals, userActionHistoryForTask,
      map_eq_ok] at hread
    obtain ⟨records, hrecords, rfl⟩ := hread
    obtain ⟨request, _, heffective⟩ := exists_of_forall₂ (mapM_eq_ok.mp hrecords) record
      (List.mem_of_mem_filter hrecord)
    have hown := (effectiveUserActionRecord_ok heffective).2.resolution
    rw [hresolution] at hown
    have hrow := List.mem_of_find?_eq_some hown.symm
    simpa using hids resolution hrow

theorem Judged.sound_of_plannable {context : PlanContext}
    {db : ProjectDb CoreTables} {taskId : String} {request : PrepareWriteRequest}
    (judged : Judged X context db.aggregates taskId request) (hdb : db.Plannable)
    (hproject : Text.isBlank context.projectId = false)
    (hversion : (context.stateVersion : Int) = db.stateVersion)
    (hnow : X.chrono.ensureCanonicalRfc3339Representable context.now) : judged.Sound := by
  obtain ⟨hunit, htask⟩ := currentChangeUnit_mem judged.unit
  have hrow := (taskRecord_ok judged.record).1
  obtain ⟨row, hrevisedRow, hrevised⟩ := hdb.revised _ hunit
  rw [htask, hrow] at hrevisedRow
  obtain rfl := Option.some.inj hrevisedRow
  have hrevision := hdb.revisions taskId _ hrow
  exact ⟨hproject, hdb.taskIds taskId _ hrow, (hdb.units _ hunit).id,
    approval_nonblank hdb.resolutionIds judged.authoritiesRead, hrevised, by omega, hnow⟩

end PrepareWrite

theorem isLowercaseHex_ascii {c : Char} (h : isLowercaseHex c) : c.val.toNat ≤ 127 := by
  simp only [isLowercaseHex, Bool.or_eq_true, Bool.and_eq_true, decide_eq_true_eq, Char.le_def,
    UInt32.le_iff_toNat_le] at h
  rcases h with ⟨_, h⟩ | ⟨_, h⟩
  · exact le_trans h (by decide)
  · exact le_trans h (by decide)

theorem hexDigits_length (width n : Nat) (digits : List Char) :
    (hexDigits width n digits).length = width + digits.length := by
  induction width generalizing n digits with
  | zero => rw [hexDigits, Nat.zero_add]
  | succ width ih => rw [hexDigits, ih, List.length_cons]; omega

theorem hexDigits_hex (width n : Nat) {digits : List Char} (h : digits.all isLowercaseHex) :
    (hexDigits width n digits).all isLowercaseHex := by
  induction width generalizing n digits with
  | zero => exact h
  | succ width ih =>
    have hdigit : ∀ digit < 16, isLowercaseHex (Nat.digitChar digit) := by decide
    exact ih _ (by rw [List.all_cons, hdigit _ (Nat.mod_lt _ (by decide)), h]; rfl)

theorem sampleDigest_canonical (text : String) :
    isCanonicalSha256Hex (sampleExternal.sha256Hex text) := by
  have hhex := hexDigits_hex 64
    (text.toByteArray.data.toList.foldl (fun n byte => n * 257 + byte.toNat) 1) List.all_nil
  have hsize := utf8ByteSize_ofList_ascii fun c hc =>
    isLowercaseHex_ascii (List.all_eq_true.mp hhex c hc)
  simp only [isCanonicalSha256Hex, sampleExternal, sampleDigest, hsize, hexDigits_length,
    String.toList_ofList, hhex]
  rfl

def plannedWrite : PrepareWriteRequest where
  envelope := sampleEnvelope (some "a") "write t" (some 2)
  taskId := some "a"
  changeUnitId := some "u"
  intendedOperation := "edit"
  intendedPaths := ["src/lib.rs"]
  productFileWriteIntended := true
  sensitiveCategories := []
  baselineRef := "base"

def plannedContext : PlanContext where
  projectId := "project"
  stateVersion := 2
  now := 1
  invocation := ⟨"project", .agentConnection "agent", .agentWorkflow, "basis", "level", none, none⟩
  intactArtifactIds := []

def plannedProject : CoreSystem Unit :=
  Transition.run (coreStep sampleExternal)
    (CoreSystem.initial "project" "x" fun _ => ⟨some "home", some "home", none⟩) scopedTask

/-- The plan of `plannedWrite` under the transition that is current for it. -/
def plannedTickets (t : CoreTables) :
    CoreResult (AdmittedTransition × OperationPlan × List WriteTicketInsert) := do
  let admitted ← currentTransitionAdmission sampleExternal plannedContext t "a"
    PrepareWrite.actionKey
  let plan ← PrepareWrite.plan sampleExternal plannedContext t "a" plannedWrite "t" admitted
  return (admitted, plan, plan.mutations.filterMap fun
    | .writeTicket (.insert ticket) => some ticket
    | _ => none)

def CoreAnswer.refusal : CoreAnswer → Option CoreError
  | .prepared (.error error) => some error
  | _ => none

end Volicord
