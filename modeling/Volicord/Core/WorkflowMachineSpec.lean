import Volicord.Core.WorkflowMachine

/-! What the workflow machine answers: on every snapshot an evaluation whose catalog is
acceptable, with the required transition left to the next actor, and empty for terminal Tasks
only. -/
namespace Volicord
open Result Sorted
variable {catalog : List TransitionDescriptor} {descriptor : TransitionDescriptor}

namespace WorkflowSnapshot

variable (snapshot : WorkflowSnapshot)

def Supports : MethodName → Prop
  | .finalizeAdvice | .advanceTask =>
    snapshot.checkpoint.isSome = true ∧ snapshot.currentChangeUnit.isSome = true
  | .prepareEvidenceCapture | .prepareWrite =>
    snapshot.currentChangeUnit.isSome = true ∧ snapshot.task.shaping.baselineRef.isSome = true
  | .recordRun => snapshot.currentChangeUnit.isSome = true ∧
    snapshot.task.shaping.baselineRef.isSome = true ∧ snapshot.task.mode ≠ .advisor
  | .resolveUserAction => snapshot.resolvableRefs ≠ []
  | _ => True

/-- What the coordinates of a transition say about its key and its snapshot. -/
structure CoordinatesOf (key : WorkflowActionKey)
    (coordinates : WorkflowActionAuthorityCoordinates) : Prop where
  variant : key.semanticVariant = coordinates.semanticVariant
  task : coordinates.taskId = snapshot.task.taskId
  operation : TransitionDescriptor.operationMatchesCurrent coordinates
  mode : ∀ taskId mode scopeRevision baselineRef unit refs operation, coordinates =
    .updateScope taskId mode scopeRevision baselineRef unit refs operation →
    mode = snapshot.task.mode
  userRefs : ∀ id refs, coordinates = .resolveUserAction id refs →
    key.method = .resolveUserAction ∧ refs = snapshot.resolvableRefs

variable {snapshot} {key : WorkflowActionKey}

theorem belongs_of_mem_semanticVariants
    (h : key.semanticVariant ∈ snapshot.semanticVariants key.method) : key.belongs := by
  obtain ⟨method, variant⟩ := key
  cases method with
  | recordShapingCheckpoint =>
    simp only [semanticVariants, recordShapingVariant, List.mem_singleton] at h
    subst h
    simp only [WorkflowActionKey.belongs, decide_eq_true_eq]
    split <;> rfl
  | updateScope =>
    simp only [semanticVariants] at h
    split at h
    · rw [List.mem_singleton.mp h]
      rfl
    · split at h
      · simp only [List.mem_cons, List.not_mem_nil, or_false] at h
        rcases h with rfl | rfl <;> rfl
      · rw [List.mem_singleton.mp h]
        rfl
  | intake | status | getOperationResult =>
    simp [semanticVariants, WorkflowActionSemanticVariant.forSingleVariantMethod] at h
  | _ =>
    simp only [semanticVariants, WorkflowActionSemanticVariant.forSingleVariantMethod,
      Option.toList_some, List.mem_singleton] at h
    rw [h]
    rfl

variable (transition : String)

theorem requireChangeUnit_of_isSome (h : snapshot.currentChangeUnit.isSome) : ∃ id,
    snapshot.requireChangeUnit transition = .ok id := by
  obtain ⟨row, hrow⟩ := Option.isSome_iff_exists.mp h
  exact ⟨row.changeUnitId, by simp [requireChangeUnit, hrow, okOr]⟩

theorem requireCheckpoint_of_isSome (h : snapshot.checkpoint.isSome) : ∃ id,
    snapshot.requireCheckpoint transition = .ok id := by
  obtain ⟨record, hrecord⟩ := Option.isSome_iff_exists.mp h
  exact ⟨record.row.shapingCheckpointId, by simp [requireCheckpoint, hrecord, okOr]⟩

theorem requireBaseline_of_isSome (h : snapshot.task.shaping.baselineRef.isSome) : ∃
    baseline, snapshot.requireBaseline transition = .ok baseline := by
  obtain ⟨baseline, hbaseline⟩ := Option.isSome_iff_exists.mp h
  exact ⟨baseline, by simp [requireBaseline, hbaseline, okOr]⟩

theorem exists_fixedAuthorityCoordinates
    (hkey : key.semanticVariant ∈ snapshot.semanticVariants key.method)
    (hsupports : snapshot.Supports key.method) :
    ∃ coordinates, snapshot.fixedAuthorityCoordinates key = .ok coordinates ∧
      snapshot.CoordinatesOf key coordinates := by
  obtain ⟨method, variant⟩ := key
  cases method with
  | intake | status | getOperationResult =>
    simp [semanticVariants, WorkflowActionSemanticVariant.forSingleVariantMethod] at hkey
  | recordShapingCheckpoint =>
    refine ⟨_, rfl, ?_, rfl, rfl, by simp, by simp⟩
    simp only [semanticVariants, recordShapingVariant, List.mem_singleton] at hkey
    rw [hkey]
    unfold checkpointCoordinates
    cases snapshot.checkpoint <;> rfl
  | updateScope =>
    have hoperation : ∃ operation, variant.changeUnitOperation = some operation ∧
        variant = .forChangeUnitOperation operation ∧
        (operation = .createCurrent → snapshot.currentChangeUnit = none) ∧
        (operation = .replaceCurrent → snapshot.currentChangeUnit.isSome) := by
      simp only [semanticVariants] at hkey
      cases hunit : snapshot.currentChangeUnit with
      | none =>
        simp only [hunit, Option.isNone_none, if_true, List.mem_singleton] at hkey
        subst hkey
        exact ⟨.createCurrent, rfl, rfl, by simp, by simp⟩
      | some unit =>
        simp only [hunit, Option.isNone_some, Bool.false_eq_true, if_false, List.mem_cons] at hkey
        rcases hkey with rfl | hreplace
        · exact ⟨.keepCurrent, rfl, rfl, by simp, by simp⟩
        · split at hreplace
          · rw [List.mem_singleton.mp hreplace]
            exact ⟨.replaceCurrent, rfl, rfl, by simp, by simp⟩
          · cases hreplace
    obtain ⟨operation, hsome, hvariant, hcreate, hreplace⟩ := hoperation
    refine ⟨.updateScope snapshot.task.taskId snapshot.task.mode snapshot.task.scopeRevision
      snapshot.task.shaping.baselineRef (snapshot.currentChangeUnit.map (·.changeUnitId))
      (snapshot.resolutionRefsFor .updateScope) operation, ?_, hvariant, rfl, ?_, ?_, by simp⟩
    · simp [fixedAuthorityCoordinates, hsome, okOr, pure, Except.pure]
    · cases operation with
      | keepCurrent => rfl
      | createCurrent => simp [TransitionDescriptor.operationMatchesCurrent, hcreate rfl]
      | replaceCurrent => simpa [TransitionDescriptor.operationMatchesCurrent] using hreplace rfl
    · intro taskId mode scopeRevision baselineRef unit refs operation' heq
      cases heq
      rfl
  | finalizeAdvice =>
    obtain ⟨checkpointId, hcheckpoint⟩ :=
      requireCheckpoint_of_isSome "advisor-finalization" hsupports.1
    obtain ⟨unitId, hunit⟩ := requireChangeUnit_of_isSome "advisor-finalization" hsupports.2
    refine ⟨_, by simp only [fixedAuthorityCoordinates, hcheckpoint, hunit, ok_bind]; rfl,
      ?_, rfl, rfl, by simp, by simp⟩
    exact List.mem_singleton.mp hkey
  | advanceTask =>
    obtain ⟨checkpointId, hcheckpoint⟩ := requireCheckpoint_of_isSome "advance" hsupports.1
    obtain ⟨unitId, hunit⟩ := requireChangeUnit_of_isSome "advance" hsupports.2
    refine ⟨_, by simp only [fixedAuthorityCoordinates, hcheckpoint, hunit, ok_bind]; rfl,
      ?_, rfl, rfl, by simp, by simp⟩
    exact List.mem_singleton.mp hkey
  | prepareEvidenceCapture =>
    obtain ⟨unitId, hunit⟩ := requireChangeUnit_of_isSome "evidence-capture" hsupports.1
    obtain ⟨baseline, hbaseline⟩ := requireBaseline_of_isSome "evidence-capture" hsupports.2
    refine ⟨_, by simp only [fixedAuthorityCoordinates, hunit, hbaseline, ok_bind]; rfl,
      ?_, rfl, rfl, by simp, by simp⟩
    exact List.mem_singleton.mp hkey
  | prepareWrite =>
    obtain ⟨unitId, hunit⟩ := requireChangeUnit_of_isSome "write-preparation" hsupports.1
    obtain ⟨baseline, hbaseline⟩ := requireBaseline_of_isSome "write-preparation" hsupports.2
    refine ⟨_, by simp only [fixedAuthorityCoordinates, hunit, hbaseline, ok_bind]; rfl,
      ?_, rfl, rfl, by simp, by simp⟩
    exact List.mem_singleton.mp hkey
  | recordRun =>
    obtain ⟨hunitSome, hbaselineSome, hmode⟩ := hsupports
    obtain ⟨unitId, hunit⟩ := requireChangeUnit_of_isSome "run-recording" hunitSome
    obtain ⟨baseline, hbaseline⟩ := requireBaseline_of_isSome "run-recording" hbaselineSome
    cases hm : snapshot.task.mode with
    | advisor => exact absurd hm hmode
    | direct | work =>
      refine ⟨_, by simp only [fixedAuthorityCoordinates, hunit, hbaseline, hm, ok_bind]; rfl,
        ?_, rfl, rfl, by simp, by simp⟩
      exact List.mem_singleton.mp hkey
  | resolveUserAction =>
    refine ⟨_, rfl, ?_, rfl, rfl, by simp, ?_⟩
    · exact List.mem_singleton.mp hkey
    · intro id refs heq
      cases heq
      exact ⟨rfl, rfl⟩
  | _ => exact ⟨_, rfl, List.mem_singleton.mp hkey, rfl, rfl, by simp, by simp⟩

theorem requiredRefs_pairwise : snapshot.requiredRefs.Pairwise (· < ·) := sortDedup_pairwise _

variable (method : MethodName) {methods : List MethodName}

theorem transitionRefs_pairwise : (snapshot.transitionRefs method).Pairwise (· < ·) := by
  unfold transitionRefs
  split
  · exact sortDedup_pairwise _
  · exact requiredRefs_pairwise

theorem resultStateMatches_expectedResultState : TransitionDescriptor.resultStateMatches method
    (snapshot.expectedResultState method) := by
  cases method with
  | checkClose | stageArtifact =>
    simp only [TransitionDescriptor.resultStateMatches, expectedResultState]
    split <;> rfl
  | _ => rfl

theorem exists_transitionDescriptor (role : WorkflowActionRole)
    (hkey : key.semanticVariant ∈ snapshot.semanticVariants key.method)
    (hsupports : snapshot.Supports key.method) :
    ∃ descriptor, snapshot.transitionDescriptor key role = .ok descriptor ∧
      descriptor.WellFormed snapshot.stateVersion snapshot.task.taskId ∧
      descriptor.actionKey = key ∧ descriptor.role = role := by
  obtain ⟨coordinates, hcoordinates, hof⟩ := exists_fixedAuthorityCoordinates hkey hsupports
  have hbelongs := belongs_of_mem_semanticVariants hkey
  refine ⟨_, by
    simp only [transitionDescriptor, hbelongs, hcoordinates, ensure, if_true, ok_bind]; rfl,
    ?_, rfl, rfl⟩
  refine
    { belongs := hbelongs
      actor := rfl
      variant := hof.variant
      contract :=
        WorkflowTransitionSubmissionContract.isWellFormedFor_forCurrentTransition _ _ hof.mode
      refs := transitionRefs_pairwise _
      effect := rfl
      result := resultStateMatches_expectedResultState _
      invalidation := ?_
      version := rfl
      task := hof.task
      operation := hof.operation
      userRefs := ?_ }
  · intro hforbidden
    simp only [Bool.and_eq_true, decide_eq_true_eq] at hforbidden
    exact WorkflowActionKey.ext hforbidden.1.1 hforbidden.1.2
  · rintro id refs hresolve
    obtain ⟨hmethod, rfl⟩ := hof.userRefs id refs hresolve
    refine ⟨?_, sortDedup_pairwise _, ?_⟩
    · rw [hmethod] at hsupports
      exact hsupports
    · intro reference href
      simp only [transitionRefs, hmethod, if_true, mem_sortDedup, List.mem_append]
      exact .inr href

/- Catalogs. -/

theorem mem_transitionKeys : key ∈ snapshot.transitionKeys methods ↔
      key.method ∈ methods ∧ key.semanticVariant ∈ snapshot.semanticVariants key.method := by
  simp only [transitionKeys, List.mem_insertionSort, List.mem_flatMap, List.mem_dedup, List.mem_map]
  constructor
  · rintro ⟨method, hmethod, variant, hvariant, rfl⟩
    exact ⟨hmethod, hvariant⟩
  · rintro ⟨hmethod, hvariant⟩
    exact ⟨key.method, hmethod, key.semanticVariant, hvariant, rfl⟩

theorem semanticVariants_nodup : (snapshot.semanticVariants method).Nodup := by
  cases method with
  | recordShapingCheckpoint => simp [semanticVariants]
  | updateScope =>
    simp only [semanticVariants]
    split
    · simp
    · split <;> simp
  | _ => simp [semanticVariants, WorkflowActionSemanticVariant.forSingleVariantMethod]

theorem rank_injective : Function.Injective WorkflowActionKey.rank := by
  rintro ⟨m, v⟩ ⟨m', v'⟩ h
  have hv := v.wireRank_lt
  have hv' := v'.wireRank_lt
  simp only [WorkflowActionKey.rank] at h
  have hmethods : m.wireRank = m'.wireRank := by omega
  have hvariants : v.wireRank = v'.wireRank := by omega
  have hm : m = m' := by
    revert hmethods
    cases m <;> cases m' <;> decide
  rw [hm, WorkflowActionSemanticVariant.wireRank_inj hvariants]

theorem transitionKeys_pairwise (methods : List MethodName) :
    (snapshot.transitionKeys methods).Pairwise fun a b => a.precedes b = true := by
  have hle : (snapshot.transitionKeys methods).Pairwise fun a b => a.rank ≤ b.rank :=
    List.pairwise_insertionSort (fun a b : WorkflowActionKey => a.rank ≤ b.rank) _
  have hnodup : (snapshot.transitionKeys methods).Nodup := by
    refine (List.perm_insertionSort _ _).nodup_iff.mpr ?_
    refine List.nodup_flatMap.mpr ⟨fun method _ => ?_, ?_⟩
    · exact (semanticVariants_nodup method).map fun a b h => by cases h; rfl
    · refine (List.nodup_dedup methods).imp fun {a b} hne => ?_
      intro k hk hk'
      obtain ⟨_, -, rfl⟩ := List.mem_map.mp hk
      obtain ⟨_, -, heq⟩ := List.mem_map.mp hk'
      exact hne (congrArg WorkflowActionKey.method heq).symm
  refine (hle.and hnodup).imp fun {a b} h => ?_
  apply WorkflowActionKey.precedes_of_rank_lt
  exact lt_of_le_of_ne h.1 fun heq => h.2 (rank_injective heq)

variable (requiredKey : Option WorkflowActionKey)

structure CatalogOf (methods : List MethodName) (catalog : List TransitionDescriptor) : Prop where
  accepted : WorkflowTransitionCatalog.new catalog = .ok catalog
  actionKeys : catalog.map (·.actionKey) = snapshot.transitionKeys methods
  actors : ∀ transition ∈ catalog,
    transition.actor = TransitionDescriptor.actorFor transition.actionKey.method
  roles : ∀ transition ∈ catalog,
    transition.role = .required ↔ requiredKey = some transition.actionKey

theorem countP_required_le_one {requiredKey : Option WorkflowActionKey}
    (hkeys : (catalog.map (·.actionKey)).Nodup)
    (hroles : ∀ transition ∈ catalog,
      transition.role = .required ↔ requiredKey = some transition.actionKey) :
    catalog.countP (·.role = .required) ≤ 1 := by
  induction catalog with
  | nil => simp
  | cons transition rest ih =>
    rw [List.map_cons, List.nodup_cons] at hkeys
    have hrest := fun d hd => hroles d (List.mem_cons_of_mem transition hd)
    by_cases hrole : transition.role = .required
    · have hnone : rest.countP (·.role = .required) = 0 := by
        refine List.countP_eq_zero.mpr fun d hd hd' => hkeys.1 ?_
        have hd'' := (hrest d hd).mp (by simpa using hd')
        have htransition := (hroles transition (List.mem_cons_self ..)).mp hrole
        rw [htransition] at hd''
        rw [Option.some.inj hd'']
        exact List.mem_map_of_mem hd
      simp [hrole, hnone]
    · simpa [List.countP_cons, hrole] using ih hkeys.2 hrest

theorem exists_transitionCatalog (methods : List MethodName)
    (hsupports : ∀ method ∈ methods, snapshot.Supports method)
    (hrequired : ∀ key, requiredKey = some key → key ∈ snapshot.transitionKeys methods) : ∃ catalog,
    snapshot.transitionCatalog requiredKey methods = .ok catalog ∧ snapshot.CatalogOf requiredKey
    methods catalog := by
  let role (key : WorkflowActionKey) : WorkflowActionRole :=
    if requiredKey = some key then .required else .allowed
  have hdescriptors : ∀ key ∈ snapshot.transitionKeys methods, ∃ descriptor,
      snapshot.transitionDescriptor key (role key) = .ok descriptor ∧
      descriptor.WellFormed snapshot.stateVersion snapshot.task.taskId ∧
      descriptor.actionKey = key ∧ descriptor.role = role key := by
    intro key hkey
    obtain ⟨hmethod, hvariant⟩ := mem_transitionKeys.mp hkey
    exact exists_transitionDescriptor _ hvariant (hsupports _ hmethod)
  obtain ⟨catalog, hcatalog, hrelated⟩ := exists_mapM_eq_ok hdescriptors
  have hkeys : catalog.map (·.actionKey) = snapshot.transitionKeys methods := by
    rw [eq_comm, ← List.forall₂_eq_eq_eq, List.forall₂_map_right_iff]
    exact hrelated.imp fun _ _ h => h.2.1.symm
  have hspec : ∀ transition ∈ catalog,
      transition.WellFormed snapshot.stateVersion snapshot.task.taskId ∧
      transition.role = role transition.actionKey := by
    intro transition htransition
    obtain ⟨key, -, hwell, rfl, hrole⟩ := exists_of_forall₂ hrelated transition htransition
    exact ⟨hwell, hrole⟩
  have hsorted : catalog.Pairwise fun a b => a.actionKey.precedes b.actionKey = true := by
    have hpairwise : (catalog.map (·.actionKey)).Pairwise fun a b => a.precedes b = true := by
      rw [hkeys]
      exact transitionKeys_pairwise methods
    exact List.pairwise_map.mp hpairwise
  have hroles : ∀ transition ∈ catalog,
      transition.role = .required ↔ requiredKey = some transition.actionKey := by
    intro transition htransition
    rw [(hspec transition htransition).2]
    by_cases h : requiredKey = some transition.actionKey <;> simp [role, h]
  have hnodup : (catalog.map (·.actionKey)).Nodup := by
    rw [List.nodup_iff_pairwise_ne, List.pairwise_map]
    refine hsorted.imp fun {a b} h heq => ?_
    simp [heq, WorkflowActionKey.precedes] at h
  have haccepted : WorkflowTransitionCatalog.new catalog = .ok catalog :=
    WorkflowTransitionCatalog.new_of_wellFormed (fun d hd => (hspec d hd).1) hsorted
      (countP_required_le_one hnodup hroles)
  refine ⟨catalog, ?_, haccepted, hkeys, fun d hd => (hspec d hd).1.actor, hroles⟩
  have hpresent : (requiredKey.isNone || catalog.any (·.role = .required)) = true := by
    cases hkey : requiredKey with
    | none => rfl
    | some key =>
      have hmem := hrequired key hkey
      rw [← hkeys] at hmem
      obtain ⟨transition, htransition, rfl⟩ := List.mem_map.mp hmem
      refine List.any_eq_true.mpr ⟨transition, htransition, ?_⟩
      simpa using (hroles transition htransition).mpr hkey
  simp only [role] at hcatalog
  simp only [transitionCatalog, hcatalog, ok_bind, haccepted, Except.mapError, hpresent, ensure,
    if_true]
  rfl

/- Evaluations. -/

/-- What an evaluation says; `actor` is about the required transition. -/
structure EvaluationOf (snapshot : WorkflowSnapshot) (kind : WorkflowStateKind)
    (nextActor : AuthorityNextActor) (evaluation : WorkflowEvaluation) : Prop where
  workflowKind : evaluation.workflowKind = kind
  actorEq : evaluation.nextActor = nextActor
  accepted : WorkflowTransitionCatalog.new evaluation.transitionCatalog =
    .ok evaluation.transitionCatalog
  actor : ∀ transition ∈ evaluation.transitionCatalog, transition.role = .required →
    nextActor.performs transition.actor
  empty : evaluation.transitionCatalog = [] ↔ kind = .terminal

variable {kind : WorkflowStateKind} {nextActor : AuthorityNextActor}
  {requiredKey} {allowed : List MethodName}
  {blockingReason : Option WorkflowBlockingReason} {evaluation : WorkflowEvaluation}

theorem evaluation_ok
    (h : snapshot.evaluation kind nextActor requiredKey allowed blockingReason = .ok evaluation) :
    snapshot.transitionCatalog requiredKey
    (snapshot.admittedMethods kind (requiredKey.map (·.method)) allowed) =
    .ok evaluation.transitionCatalog ∧ evaluation.workflowKind = kind ∧ evaluation.nextActor =
    nextActor ∧ (kind = .terminal → evaluation.transitionCatalog = []) := by
  simp only [WorkflowSnapshot.evaluation, steps_ok] at h
  obtain ⟨-, catalog, hcatalog, -, -, hterminal, -, -, rfl⟩ := h
  refine ⟨hcatalog, rfl, rfl, fun hkind => ?_⟩
  simpa [hkind] using hterminal

theorem supports_admittedMethods (kind : WorkflowStateKind) (required : Option MethodName)
    (hallowed : ∀ method ∈ allowed, snapshot.Supports method) :
    ∀ method ∈ snapshot.admittedMethods kind required allowed, snapshot.Supports method := by
  intro method hmethod
  simp only [admittedMethods, List.mem_append, List.mem_filter] at hmethod
  rcases hmethod with (⟨hmem, -⟩ | hlive) | hresolve
  · exact hallowed method hmem
  · split at hlive
    · simp only [List.mem_cons, List.not_mem_nil, or_false] at hlive
      rcases hlive with rfl | rfl | rfl | rfl <;> trivial
    · cases hlive
  · split at hresolve
    · rename_i hpending
      rw [List.mem_singleton.mp hresolve]
      simp only [Bool.and_eq_true, Bool.not_eq_true', List.isEmpty_eq_false_iff] at hpending
      obtain ⟨requestId, hrequest⟩ := List.exists_mem_of_ne_nil _ hpending.2
      apply List.ne_nil_of_mem (a := snapshot.recordRef .userActionRequest requestId)
      rw [resolvableRefs, mem_sortDedup]
      exact List.mem_map_of_mem (List.mem_append_left _ hrequest)
    · cases hresolve

theorem mem_admittedMethods_of_required (hkey : requiredKey = some key)
    (hmem : key.method ∈ allowed) :
    key.method ∈ snapshot.admittedMethods kind (requiredKey.map (·.method)) allowed := by
  simp only [admittedMethods, List.mem_append, List.mem_filter]
  left
  left
  exact ⟨hmem, by simp [hkey]⟩

theorem transitionKeys_ne_nil (hkind : kind ≠ .terminal) : snapshot.transitionKeys
      (snapshot.admittedMethods kind (requiredKey.map (·.method)) allowed) ≠ [] := by
  apply List.ne_nil_of_mem (a := (⟨.closeTask, .closeTask⟩ : WorkflowActionKey))
  refine mem_transitionKeys.mpr ⟨?_, List.mem_singleton_self _⟩
  simp [admittedMethods, hkind]

/-- The required transition is in the catalog exactly when a key is required. -/
theorem CatalogOf.isSome_find?_required (hof : snapshot.CatalogOf requiredKey methods catalog)
    (hrequired : ∀ key, requiredKey = some key → key ∈ snapshot.transitionKeys methods) :
    (catalog.find? (·.role = .required)).isSome = requiredKey.isSome := by
  cases hkey : requiredKey with
  | none =>
    rw [Option.isSome_none, Option.isSome_eq_false_iff, Option.isNone_iff_eq_none,
      List.find?_eq_none]
    intro transition htransition hrole
    have hsome := (hof.roles transition htransition).mp (by simpa using hrole)
    rw [hkey] at hsome
    cases hsome
  | some key =>
    have hmem : key ∈ catalog.map (·.actionKey) := by
      rw [hof.actionKeys]
      exact hrequired key hkey
    obtain ⟨transition, htransition, rfl⟩ := List.mem_map.mp hmem
    rw [Option.isSome_some, List.find?_isSome]
    exact ⟨transition, htransition, by simpa using (hof.roles transition htransition).mpr hkey⟩

def AnswersLive (result : CoreResult WorkflowEvaluation) : Prop :=
  ∃ evaluation kind nextActor, result = .ok evaluation ∧ kind ≠ .terminal ∧
    snapshot.EvaluationOf kind nextActor evaluation

theorem answersLive_evaluation (hkind : kind ≠ .terminal)
    (hallowed : ∀ method ∈ allowed, snapshot.Supports method)
    (hrequired : ∀ key, requiredKey = some key → key.method ∈ allowed ∧
      key.semanticVariant ∈ snapshot.semanticVariants key.method ∧
      nextActor.performs (TransitionDescriptor.actorFor key.method))
    (huser : nextActor = .user → requiredKey.isSome) :
    snapshot.AnswersLive
      (snapshot.evaluation kind nextActor requiredKey allowed blockingReason) := by
  have hkeys : ∀ key, requiredKey = some key → key ∈ snapshot.transitionKeys
      (snapshot.admittedMethods kind (requiredKey.map (·.method)) allowed) := by
    intro key hkey
    obtain ⟨hmethod, hvariant, -⟩ := hrequired key hkey
    exact mem_transitionKeys.mpr ⟨mem_admittedMethods_of_required hkey hmethod, hvariant⟩
  have hsupports := supports_admittedMethods kind (requiredKey.map (·.method)) hallowed
  obtain ⟨catalog, hcatalog, hof⟩ := exists_transitionCatalog requiredKey _ hsupports hkeys
  have hactor : ∀ transition ∈ catalog, transition.role = .required →
      nextActor.performs transition.actor := by
    intro transition htransition hrole
    have hkey := (hof.roles transition htransition).mp hrole
    rw [hof.actors transition htransition]
    exact (hrequired _ hkey).2.2
  have hne : catalog ≠ [] := by
    intro hnil
    apply transitionKeys_ne_nil hkind
    rw [← hof.actionKeys, hnil, List.map_nil]
  have hfound := hof.isSome_find?_required hkeys
  have hbelongs : requiredKey.all (·.belongs) := by
    cases hkey : requiredKey with
    | none => rfl
    | some key => exact belongs_of_mem_semanticVariants (hrequired key hkey).2.1
  have hperforms : (catalog.find? (·.role = .required)).all
      (fun transition => nextActor.performs transition.actor) = true := by
    cases hfind : catalog.find? (·.role = .required) with
    | none => rfl
    | some transition =>
      exact hactor transition (List.mem_of_find?_eq_some hfind)
        (by simpa using List.find?_some hfind)
  have hownedByUser : (decide (nextActor ≠ .user)
      || (catalog.find? (·.role = .required)).any (·.actor = .user)) = true := by
    cases hfind : catalog.find? (·.role = .required) with
    | none =>
      have hnone : requiredKey.isSome = false := by rw [← hfound, hfind]; rfl
      cases nextActor with
      | user => rw [huser rfl] at hnone; cases hnone
      | none | agent => rfl
    | some transition =>
      have hperform := hactor transition (List.mem_of_find?_eq_some hfind)
        (by simpa using List.find?_some hfind)
      revert hperform
      cases nextActor <;> cases htransition : transition.actor <;>
        simp [AuthorityNextActor.performs, htransition]
  refine ⟨⟨kind, nextActor, catalog, blockingReason⟩, kind, nextActor, ?_, hkind,
    rfl, rfl, hof.accepted, hactor, iff_of_false hne hkind⟩
  have hclosed : (decide (kind ≠ .terminal) || catalog.isEmpty) = true := by simp [hkind]
  have hlive : (decide (kind = .terminal) || decide (kind = .noActiveTask) || !catalog.isEmpty)
      = true := by simp [hne]
  simp only [WorkflowSnapshot.evaluation, hcatalog, hbelongs, hfound, hperforms, hclosed, hlive,
    hownedByUser, ensure, if_true, decide_true, ok_bind]
  rfl

theorem answersLive_agent {method : MethodName} {variant : WorkflowActionSemanticVariant}
    (hkind : kind ≠ .terminal) (hallowed : ∀ method ∈ allowed, snapshot.Supports method)
    (hmem : method ∈ allowed) (hvariant : variant ∈ snapshot.semanticVariants method)
    (hagent : TransitionDescriptor.actorFor method = .agent) : snapshot.AnswersLive
    (snapshot.evaluation kind .agent (some ⟨method, variant⟩) allowed blockingReason) := by
  refine answersLive_evaluation hkind hallowed ?_ (fun h => by cases h)
  rintro key hkey
  cases hkey
  exact ⟨hmem, hvariant, by rw [hagent]; rfl⟩

theorem answersLive_recordShaping (hkind : kind ≠ .terminal) :
    snapshot.AnswersLive (snapshot.evaluation kind .agent
      (some ⟨.recordShapingCheckpoint, snapshot.recordShapingVariant⟩) [.recordShapingCheckpoint]
      blockingReason) :=
  answersLive_agent hkind (by simp [Supports]) (by decide) (List.mem_singleton_self _) rfl

theorem updateScopeVariant_mem :
    snapshot.updateScopeVariant ∈ snapshot.semanticVariants .updateScope := by
  unfold updateScopeVariant semanticVariants
  cases snapshot.currentChangeUnit with
  | none => simp
  | some unit => simp

theorem resolvableRefs_ne_nil (h : snapshot.authority.progressionRequestIds ≠ []) :
    snapshot.resolvableRefs ≠ [] := by
  obtain ⟨requestId, hrequest⟩ := List.exists_mem_of_ne_nil _ h
  apply List.ne_nil_of_mem (a := snapshot.recordRef .userActionRequest requestId)
  rw [resolvableRefs, mem_sortDedup]
  exact List.mem_map_of_mem (List.mem_append_right _ hrequest)

theorem supports_implementationMethods :
    ∀ method ∈ snapshot.implementationMethods, snapshot.Supports method := by
  intro method hmethod
  have hcoordinates : snapshot.executionCoordinatesAvailable → snapshot.currentChangeUnit.isSome ∧
      snapshot.task.shaping.baselineRef.isSome := by
    intro h
    rw [executionCoordinatesAvailable, Bool.and_eq_true] at h
    refine ⟨?_, h.2⟩
    cases hunit : snapshot.currentChangeUnit with
    | none => simp [hunit] at h
    | some unit => rfl
  simp only [implementationMethods, List.mem_append] at hmethod
  rcases hmethod with (((hbase | hprepare) | hrun) | hresolve) | hrest
  · simp only [List.mem_cons, List.not_mem_nil, or_false] at hbase
    rcases hbase with rfl | rfl <;> trivial
  · split at hprepare
    · rename_i havailable
      simp only [List.mem_cons, List.not_mem_nil, or_false] at hprepare
      rcases hprepare with rfl | rfl <;> exact hcoordinates havailable
    · cases hprepare
  · split at hrun
    · rename_i havailable
      rw [Bool.and_eq_true, decide_eq_true_eq] at havailable
      rw [List.mem_singleton.mp hrun]
      obtain ⟨hunit, hbaseline⟩ := hcoordinates havailable.1
      exact ⟨hunit, hbaseline, havailable.2⟩
    · cases hrun
  · split at hresolve
    · rename_i hpending
      rw [List.mem_singleton.mp hresolve]
      exact resolvableRefs_ne_nil (by simpa using hpending)
    · cases hresolve
  · simp only [List.mem_cons, List.not_mem_nil, or_false] at hrest
    rcases hrest with rfl | rfl | rfl | rfl <;> trivial

theorem answersLive_evaluateCheckpoint {checkpoint : ShapingCheckpointRecord}
    (hcheckpoint : snapshot.checkpoint = some checkpoint) :
    snapshot.AnswersLive (snapshot.evaluateCheckpoint checkpoint) := by
  have hsome : snapshot.checkpoint.isSome := by rw [hcheckpoint]; rfl
  have hreadyForChangeUnit : snapshot.AnswersLive (snapshot.evaluation .readyForChangeUnit .agent
      (some ⟨.updateScope, snapshot.updateScopeVariant⟩)
      [.recordShapingCheckpoint, .updateScope] (some .changeUnitRequired)) :=
    answersLive_agent (by decide) (by simp [Supports]) (by decide) updateScopeVariant_mem rfl
  unfold evaluateCheckpoint
  split
  · exact answersLive_recordShaping (by decide)
  split
  · exact answersLive_agent (by decide) (by simp [Supports]) (by decide) updateScopeVariant_mem rfl
  split
  · exact answersLive_recordShaping (by decide)
  split
  · split
    · rename_i hbasis
      have hunit : snapshot.currentChangeUnit.isSome := by
        cases hunit : snapshot.currentChangeUnit with
        | none =>
          simp only [advisorBasisCurrent, hunit, Option.any_none, Bool.and_false] at hbasis
          cases hclose : snapshot.task.closeBasis <;> simp [hclose] at hbasis
        | some unit => rfl
      exact answersLive_agent (by decide) (by simp [Supports, hsome, hunit]) (by decide)
        (List.mem_singleton_self _) rfl
    · split
      · exact hreadyForChangeUnit
      · rename_i hunit
        have hunit : snapshot.currentChangeUnit.isSome := by
          simpa [Option.isSome_iff_ne_none] using hunit
        exact answersLive_agent (by decide) (by simp [Supports, hsome, hunit]) (by decide)
          (List.mem_singleton_self _) rfl
  split
  · exact hreadyForChangeUnit
  · rename_i hunit
    have hunit : snapshot.currentChangeUnit.isSome := by
      simpa [Option.isSome_iff_ne_none] using hunit
    exact answersLive_agent (by decide) (by simp [Supports, hsome, hunit]) (by decide)
      (List.mem_singleton_self _) rfl

theorem answersLive_evaluate (hlive : snapshot.task.lifecyclePhase.terminal = false) :
    snapshot.AnswersLive snapshot.evaluate := by
  rw [evaluate_eq]
  unfold evaluateProgression
  simp only [hlive, Bool.false_eq_true, if_false]
  split
  · exact answersLive_recordShaping (by decide)
  split
  · split
    · exact answersLive_recordShaping (by decide)
    · exact answersLive_agent (by decide) (by simp [Supports]) (by decide)
        (List.mem_singleton_self _) rfl
  split
  · exact answersLive_evaluation (by decide) supports_implementationMethods (by simp) (by simp)
  split
  · rename_i hpending
    have hresolvable : snapshot.resolvableRefs ≠ [] :=
      resolvableRefs_ne_nil (by simpa using hpending)
    refine answersLive_evaluation (by decide) ?_ ?_ (by simp)
    · intro method hmethod
      rcases List.mem_cons.mp hmethod with rfl | hscope
      · exact hresolvable
      · split at hscope
        · rw [List.mem_singleton.mp hscope]
          trivial
        · cases hscope
    · rintro key hkey
      cases hkey
      exact ⟨List.mem_cons_self .., List.mem_singleton_self _, rfl⟩
  cases hcheckpoint : snapshot.checkpoint with
  | none =>
    exact answersLive_agent (by decide) (by simp [Supports]) (by decide)
      (List.mem_singleton_self _) rfl
  | some checkpoint => exact answersLive_evaluateCheckpoint hcheckpoint

theorem evaluate_of_terminal (hterminal : snapshot.task.lifecyclePhase.terminal) :
    snapshot.evaluate = .ok ⟨.terminal, .none, [], none⟩ := by
  rw [evaluate_eq]
  unfold evaluateProgression
  simp only [hterminal, if_true]
  rfl

/- What is in a catalog. -/

theorem evaluate_cases (h : snapshot.evaluate = .ok evaluation) :
    ∃ kind nextActor requiredKey allowed blockingReason,
      snapshot.evaluation kind nextActor requiredKey allowed blockingReason = .ok evaluation := by
  rw [evaluate_eq] at h
  unfold evaluateProgression at h
  dsimp only at h
  split at h
  · exact ⟨_, _, _, _, _, h⟩
  split at h
  · exact ⟨_, _, _, _, _, h⟩
  split at h
  · split at h <;> exact ⟨_, _, _, _, _, h⟩
  split at h
  · exact ⟨_, _, _, _, _, h⟩
  split at h
  · exact ⟨_, _, _, _, _, h⟩
  split at h
  · exact ⟨_, _, _, _, _, h⟩
  · unfold evaluateCheckpoint at h
    dsimp only at h
    split at h
    · exact ⟨_, _, _, _, _, h⟩
    split at h
    · exact ⟨_, _, _, _, _, h⟩
    split at h
    · exact ⟨_, _, _, _, _, h⟩
    split at h
    · split at h
      · exact ⟨_, _, _, _, _, h⟩
      · split at h <;> exact ⟨_, _, _, _, _, h⟩
    · split at h <;> exact ⟨_, _, _, _, _, h⟩

theorem transitionDescriptor_ok {role : WorkflowActionRole}
    (h : snapshot.transitionDescriptor key role = .ok descriptor) :
    descriptor.actionKey = key ∧ descriptor.role = role ∧
      snapshot.fixedAuthorityCoordinates key = .ok descriptor.coordinates := by
  simp only [transitionDescriptor, steps_ok] at h
  obtain ⟨_, coordinates, hcoordinates, rfl⟩ := h
  exact ⟨rfl, rfl, hcoordinates⟩

theorem transitionDescriptor_of_mem (h : snapshot.evaluate = .ok evaluation)
    (hmem : descriptor ∈ evaluation.transitionCatalog) :
    snapshot.transitionDescriptor descriptor.actionKey descriptor.role = .ok descriptor := by
  obtain ⟨kind, nextActor, requiredKey, allowed, reason, hevaluation⟩ := evaluate_cases h
  obtain ⟨hcatalog, _⟩ := evaluation_ok hevaluation
  simp only [transitionCatalog, steps_ok] at hcatalog
  obtain ⟨transitions, htransitions, _, hnew, _, rfl⟩ := hcatalog
  have hsame : evaluation.transitionCatalog = transitions := by
    cases hvalid : WorkflowTransitionCatalog.new transitions with
    | error e => simp [hvalid, Except.mapError] at hnew
    | ok result =>
      rw [hvalid] at hnew
      exact (Except.ok.inj hnew).symm.trans (WorkflowTransitionCatalog.new_ok hvalid).1
  rw [hsame] at hmem
  obtain ⟨key, _, hdescriptor⟩ := exists_of_forall₂ (mapM_eq_ok.mp htransitions) descriptor hmem
  obtain ⟨hkey, hrole, _⟩ := transitionDescriptor_ok hdescriptor
  rw [hkey, hrole]
  exact hdescriptor

theorem coordinates_of_transition (h : snapshot.evaluate = .ok evaluation)
    (hlisted : evaluation.transition key = some descriptor) :
    snapshot.fixedAuthorityCoordinates key = .ok descriptor.coordinates := by
  have hkey : descriptor.actionKey = key := by simpa using List.find?_some hlisted
  have hdescriptor := transitionDescriptor_of_mem h (List.mem_of_find?_eq_some hlisted)
  rw [← hkey]
  exact (transitionDescriptor_ok hdescriptor).2.2

/- Admission. -/

/-- An admission answers with the descriptor of a key in the catalog; a rejection points to a
key in the catalog, if to any. -/
def AdmissionSound (catalog : List TransitionDescriptor) (key : WorkflowActionKey) :
    Except TransitionRejection TransitionDescriptor → Prop
  | .ok descriptor => descriptor ∈ catalog ∧ descriptor.actionKey = key
  | .error rejection => key ∉ catalog.map (·.actionKey) ∧
    ∀ recovery, rejection.recoveryActionKey = some recovery →
      recovery ∈ catalog.map (·.actionKey)

theorem mem_actionKeys_of_find? {p : TransitionDescriptor → Bool} {recovery : WorkflowActionKey}
    (h : (catalog.find? p).map (·.actionKey) = some recovery) :
    recovery ∈ catalog.map (·.actionKey) := by
  obtain ⟨transition, hfind, rfl⟩ := Option.map_eq_some_iff.mp h
  exact List.mem_map_of_mem (List.mem_of_find?_eq_some hfind)

theorem admissionSound_transitionAdmission (evaluation : WorkflowEvaluation)
    (key : WorkflowActionKey) : AdmissionSound evaluation.transitionCatalog key
    (snapshot.transitionAdmission evaluation key) := by
  unfold transitionAdmission
  cases htransition : evaluation.transition key with
  | some descriptor =>
    refine ⟨List.mem_of_find?_eq_some htransition, ?_⟩
    simpa using List.find?_some htransition
  | none =>
    have habsent : key ∉ evaluation.transitionCatalog.map (·.actionKey) := by
      intro hmem
      obtain ⟨transition, htransitions, rfl⟩ := List.mem_map.mp hmem
      have hne := List.find?_eq_none.mp htransition transition htransitions
      simp at hne
    dsimp only
    split
    · exact ⟨habsent, fun _ hrecovery => mem_actionKeys_of_find? hrecovery⟩
    · exact ⟨habsent, fun _ hrecovery => mem_actionKeys_of_find? hrecovery⟩

/-- The machine answers on every snapshot: its catalog is accepted, at most one transition is
required and left to the next actor, only a terminal Task has none, and the admission of any
key agrees with the catalog. -/
theorem evaluate_total (snapshot : WorkflowSnapshot) :
    ∃ evaluation, snapshot.evaluate = .ok evaluation ∧
      WorkflowTransitionCatalog.new evaluation.transitionCatalog =
        .ok evaluation.transitionCatalog ∧
      evaluation.transitionCatalog.countP (·.role = .required) ≤ 1 ∧
      (∀ transition ∈ evaluation.transitionCatalog, transition.role = .required →
        evaluation.nextActor.performs transition.actor = true) ∧
      (evaluation.transitionCatalog = [] ↔ snapshot.task.lifecyclePhase.terminal = true) ∧
      ∀ key, AdmissionSound evaluation.transitionCatalog key
        (snapshot.transitionAdmission evaluation key) := by
  cases hlifecycle : snapshot.task.lifecyclePhase.terminal with
  | true =>
    refine ⟨_, evaluate_of_terminal hlifecycle, rfl, by simp, by simp, by simp, ?_⟩
    exact admissionSound_transitionAdmission _
  | false =>
    obtain ⟨evaluation, kind, nextActor, hok, hkind, hof⟩ := answersLive_evaluate hlifecycle
    refine ⟨evaluation, hok, hof.accepted, (WorkflowTransitionCatalog.new_ok hof.accepted).2,
      ?_, ?_, admissionSound_transitionAdmission _⟩
    · rw [hof.actorEq]
      exact hof.actor
    · rw [hof.empty]
      exact iff_of_false hkind (by simp)

end WorkflowSnapshot

end Volicord
