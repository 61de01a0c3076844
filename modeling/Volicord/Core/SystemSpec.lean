import Volicord.Core.System
import Volicord.Store.Clock

/-! What one operation on the Core system does to the tables, and the two rules by which a fact
about every run follows from it. -/
namespace Volicord
open Result Transaction Relational Transition CoreSystem
variable {ι : Type} [DecidableEq ι]
variable {X : External} {draft : CoreDraft} {db db' : ProjectDb CoreTables} {projectId : String}
variable {projectId createdAt : String} {I : CoreTables → Prop} {handles : ι → StoreHandle}
  {s : CoreSystem ι} {C : CoreTables → CoreAnswer → Prop} {events : List CommittedEventRef}
  {context : VerifiedReplayContext} {current : ProjectStateHeader} {committedAt : UtcTimestamp}
  {snapshot t : CoreTables} {ops : List (CoreOp ι)} {basis committed : Nat}

/-- These tables, with the rows that change beside Core taken from `environment`. -/
def CoreTables.withEnvironment (t environment : CoreTables) : CoreTables :=
  { t with
    artifactStaging := environment.artifactStaging
    evidenceCaptureReceipts := environment.evidenceCaptureReceipts
    unrecordedChanges := environment.unrecordedChanges }

/-- The snapshot was read from these tables, up to what has changed beside Core since. -/
def CoreTables.ReadFrom (snapshot t : CoreTables) : Prop := t.withEnvironment snapshot = snapshot

/-- What does not read the environment is the same in the snapshot of a call. -/
theorem CoreTables.ReadFrom.read (h : snapshot.ReadFrom t) {β : Type}
    (read : CoreTables → β) (hread : ∀ t environment,
      read (t.withEnvironment environment) = read t) :
    read snapshot = read t := by
  rw [← h]
  exact hread t snapshot

theorem EnvironmentChange.readFrom_apply (change : EnvironmentChange)
    (h : snapshot.ReadFrom t) : snapshot.ReadFrom (change.apply t) := by
  cases change <;> exact h

structure CoreDraft.Prepared (X : External) (draft : CoreDraft) : Prop where
  validated : draft.submission.call.validateRequest = .ok ()
  envelope : validateCommittedEnvelope draft.submission.call = .ok ()
  invocation : deriveVerifiedInvocation draft.context.projectId
    draft.submission.call.envelope.projectId draft.submission.invocation
    (draft.submission.call.operationCategory draft.submission.invocation.operationCategory)
      = .ok draft.context.invocation
  planned : draft.submission.call.plan X draft.context draft.snapshot = .ok draft.plan

theorem prepareRequest_ok {db : ProjectDb CoreTables} {now : UtcTimestamp}
    {submission : CoreSubmission} (h : prepareRequest X db now submission = .ok draft) :
    draft.Prepared X ∧ draft.submission = submission ∧ draft.context.projectId = db.projectId ∧
    (draft.context.stateVersion : Int) = db.stateVersion ∧ draft.snapshot = db.aggregates := by
  simp only [prepareRequest, steps_ok, fromStore_eq_ok] at h
  obtain ⟨_, hvalidated, _, henvelope, header, hdecoded, invocation, hinvocation, _, plan,
    hplan, _, rfl⟩ := h
  exact ⟨⟨hvalidated, henvelope, hinvocation, hplan⟩, rfl, rfl,
    (decodeProjectState_ok hdecoded).1.symm, rfl⟩

/-- Every draft was prepared on what is still there, unless the version has moved on. -/
def CoreSystem.DraftsCurrent (X : External) (s : CoreSystem ι) : Prop :=
  ∀ draft ∈ s.drafts, draft.Prepared X ∧ draft.context.projectId = s.store.db.projectId ∧
    Optimistic.Current (fun db : ProjectDb CoreTables => db.stateVersion)
      (fun snapshot db => snapshot.ReadFrom db.aggregates) s.store.db
      draft.context.stateVersion draft.snapshot

/-- One commit of a draft: it was planned on these tables at this version, and its mutations
lead from `t` to `t'`. -/
structure CommittedDraft (X : External) (draft : CoreDraft) (committedAt : String)
    (t t' : CoreTables) : Prop where
  prepared : draft.Prepared X
  snapshot : draft.snapshot.ReadFrom t
  applied : applyMutations X ⟨draft.context.projectId, committedAt⟩
    (draft.context.stateVersion + 1) draft.plan.mutations t = .ok t'

inductive CoreEffect (X : External) (projectId : String) :
    CoreTables → CoreAnswer → CoreTables → Prop where
  | method {draft : CoreDraft} {t t' : CoreTables} {committedAt response : String}
      {events : List CommittedEventRef} (hproject : draft.context.projectId = projectId)
      (h : CommittedDraft X draft committedAt t t') :
      CoreEffect X projectId t (.commit draft (.ok (.committed response
        draft.context.stateVersion (draft.context.stateVersion + 1) events))) t'
  | policy {submission : PolicySubmission} {t t' : CoreTables} {committedAt : String}
      {outcome : MutationCommitOutcome}
      (h : t.applyProjectWorkflowPolicyMutation X ⟨projectId, committedAt⟩ submission.mutation
        = .ok t') : CoreEffect X projectId t (.policy submission (.ok outcome)) t'
  | environment {t : CoreTables} (change : EnvironmentChange) :
      CoreEffect X projectId t .done (change.apply t)
  | idle {t : CoreTables} {answer : CoreAnswer}
      (h : ∀ draft response basis committed events,
        answer ≠ .commit draft (.ok (.committed response basis committed events))) :
      CoreEffect X projectId t answer t

theorem CoreEffect.committedDraft {projectId response : String} {t t' : CoreTables}
    (h : CoreEffect X projectId t
      (.commit draft (.ok (.committed response basis committed events))) t') :
    draft.context.projectId = projectId ∧
      ∃ committedAt, CommittedDraft X draft committedAt t t' := by
  generalize hanswer : CoreAnswer.commit draft (.ok (.committed response basis committed events))
    = answer at h
  cases h with
  | method hproject hcommit =>
    obtain rfl := (CoreAnswer.commit.inj hanswer).1
    exact ⟨hproject, _, hcommit⟩
  | policy => cases hanswer
  | environment => cases hanswer
  | idle hidle => exact absurd hanswer.symm (hidle _ _ _ _ _)

/-- A commit on the store either has its whole effect or leaves the database alone. -/
theorem StoreSystem.commit_cases (X : External) (s : StoreSystem ι CoreTables) (i : ι)
    (call : CommitCall CoreTables) :
    (∃ context current committedAt response, (s.commit X i call).1 = .ok (.committed response
        current.stateVersion (current.stateVersion + 1) call.input.eventRefs) ∧
      (∀ floor ∈ call.input.clockFloor, floor ≤ committedAt) ∧
      CommitEffect X call context s.db (s.commit X i call).2.db current committedAt response) ∨
    ((∀ response basis committed events,
        (s.commit X i call).1 ≠ .ok (.committed response basis committed events)) ∧
      (s.commit X i call).2.db = s.db) := by
  rcases commitWith_cases X coreReaders (s.handles i) call s.db with
    ⟨context, current, committedAt, response, hresult, _, hfloors, heffect⟩ | ⟨hresult, _, hdb⟩
  · exact .inl ⟨context, current, committedAt, response, hresult, (le_laterOf hfloors).2, heffect⟩
  · exact .inr ⟨hresult, hdb⟩

/-- The commit of a current draft carries its plan out on the tables it was planned on. -/
theorem CommitEffect.committedDraft {session : SqliteSession} {response : String}
    (h : CommitEffect X (draft.commitCall X session) context db db' current committedAt response)
    (hprepared : draft.Prepared X) (hproject : draft.context.projectId = db.projectId)
    (hcurrent : Optimistic.Current (fun db : ProjectDb CoreTables => db.stateVersion)
      (fun snapshot db => snapshot.ReadFrom db.aggregates) db draft.context.stateVersion
      draft.snapshot) :
    draft.context.stateVersion = current.stateVersion ∧
      CommittedDraft X draft (X.chrono.toCanonicalString committedAt) db.aggregates
        db'.aggregates := by
  have hversion : draft.context.stateVersion = current.stateVersion := h.expected _ rfl
  have hbasis := (decodeProjectState_ok h.decoded).1
  have happlied := mutationClosure_ok.mp h.mutated
  refine ⟨hversion, hprepared, hcurrent.2 (hbasis.trans (congrArg _ hversion.symm)).symm, ?_⟩
  rw [hproject, hversion]
  exact happlied

/-- The floor of the project clock is the only thing its own operation moves, and never back. -/
theorem advanceProjectUtcFloor_ok {A : Type} {sample floor : UtcTimestamp}
    {db db' : ProjectDb A} (h : advanceProjectUtcFloor X sample db = .ok (floor, db')) :
    db' = { db with updatedAt := X.chrono.toCanonicalString floor } ∧
      ∀ t, db.UpdatedAt X t → db'.UpdatedAt X floor ∧ t ≤ floor := by
  simp only [advanceProjectUtcFloor, steps_ok, Prod.mk.injEq] at h
  obtain ⟨hsample, persisted, hread, rfl, rfl⟩ := h
  refine ⟨rfl, fun t ht => ?_⟩
  obtain rfl := ht.read hread
  refine ⟨⟨rfl, ?_⟩, le_max_left _ _⟩
  rcases max_choice persisted sample with hmax | hmax <;> rw [hmax]
  · exact ht.2
  · exact hsample

/-- The clock of a commit: not before the instant persisted, and persisted in turn. -/
structure CommitClock (X : External) (db db' : ProjectDb CoreTables) (committedAt : UtcTimestamp) :
    Prop where
  notBefore : ∀ t, db.UpdatedAt X t → t ≤ committedAt
  updated : db'.UpdatedAt X committedAt
  version : db'.stateVersion = db.stateVersion + 1

/-- What one operation does to the project: to its tables, its version and its clock. -/
inductive CoreEffectAt (X : External) (projectId : String) :
    ProjectDb CoreTables → CoreAnswer → ProjectDb CoreTables → Prop where
  | method {draft : CoreDraft} {db db' : ProjectDb CoreTables} {committedAt : UtcTimestamp}
      {response : String} {events : List CommittedEventRef}
      (hproject : draft.context.projectId = projectId)
      (h : CommittedDraft X draft (X.chrono.toCanonicalString committedAt) db.aggregates
        db'.aggregates)
      (hclock : CommitClock X db db' committedAt) (hnow : draft.context.now ≤ committedAt)
      (hactor : ActorSource.parse draft.context.invocation.actorSource.toCanonicalString
        = some draft.context.invocation.actorSource) :
      CoreEffectAt X projectId db (.commit draft (.ok (.committed response
        draft.context.stateVersion (draft.context.stateVersion + 1) events))) db'
  | policy {submission : PolicySubmission} {db db' : ProjectDb CoreTables}
      {committedAt : UtcTimestamp} {outcome : MutationCommitOutcome}
      (h : db.aggregates.applyProjectWorkflowPolicyMutation X
        ⟨projectId, X.chrono.toCanonicalString committedAt⟩ submission.mutation
          = .ok db'.aggregates)
      (hclock : CommitClock X db db' committedAt) :
      CoreEffectAt X projectId db (.policy submission (.ok outcome)) db'
  | environment {db : ProjectDb CoreTables} (change : EnvironmentChange) :
      CoreEffectAt X projectId db .done { db with aggregates := change.apply db.aggregates }
  | idle {db db' : ProjectDb CoreTables} {answer : CoreAnswer}
      (htables : db'.aggregates = db.aggregates)
      (hclock : ∀ t, db.UpdatedAt X t → ∃ t', db'.UpdatedAt X t' ∧ t ≤ t')
      (hversion : db'.stateVersion = db.stateVersion)
      (h : ∀ draft response basis committed events,
        answer ≠ .commit draft (.ok (.committed response basis committed events))) :
      CoreEffectAt X projectId db answer db'

theorem CoreEffectAt.effect {answer : CoreAnswer} (h : CoreEffectAt X projectId db answer db') :
    CoreEffect X projectId db.aggregates answer db'.aggregates := by
  cases h with
  | method hproject hcommit => exact .method hproject hcommit
  | policy happly => exact .policy happly
  | environment change => exact .environment change
  | idle htables _ _ hidle =>
    rw [htables]
    exact .idle hidle

theorem CoreEffectAt.committedDraft {projectId response : String} (h : CoreEffectAt X projectId db
      (.commit draft (.ok (.committed response basis committed events))) db') :
    ∃ committedAt, CommittedDraft X draft committedAt db.aggregates db'.aggregates :=
  h.effect.committedDraft.2

theorem CommitEffect.commitClock {call : CommitCall CoreTables} {response : String}
    (h : CommitEffect X call context db db' current committedAt response) :
    CommitClock X db db' committedAt := by
  refine ⟨fun t ht => ?_, ⟨h.updated, h.representable⟩, h.version⟩
  rw [← ht.read (decodeProjectState_ok h.decoded).2]
  exact h.not_before

theorem coreStep_effectAt (hs : s.DraftsCurrent X)
    (op : CoreOp ι) : CoreEffectAt X s.store.db.projectId s.store.db (coreStep X s op).1
      (coreStep X s op).2.store.db := by
  have hsame : ∀ t, s.store.db.UpdatedAt X t → ∃ t', s.store.db.UpdatedAt X t' ∧ t ≤ t' :=
    fun t ht => ⟨t, ht, le_rfl⟩
  cases op with
  | prepare i submission =>
    simp only [coreStep]
    split
    · exact .idle rfl hsame rfl (by simp)
    · split <;> exact .idle rfl hsame rfl (by simp)
  | commit i index session =>
    simp only [coreStep]
    cases hdraft : s.drafts[index]? with
    | none => exact .idle rfl hsame rfl (by simp)
    | some draft =>
      obtain ⟨hprepared, hproject, hcurrent⟩ := hs draft (List.mem_of_getElem? hdraft)
      rcases s.store.commit_cases X i (draft.commitCall X session) with
        ⟨context, current, committedAt, response, hresult, hfloors, heffect⟩ | ⟨hresult, hdb⟩
      · obtain ⟨hversion, hcommitted⟩ := heffect.committedDraft hprepared hproject hcurrent
        obtain rfl := Option.some.inj heffect.context_given
        dsimp only
        rw [hresult, ← hversion]
        exact .method hproject hcommitted heffect.commitClock (hfloors _ rfl)
          (VerifiedReplayContext.validate_actor heffect.context_valid)
      · refine .idle (congrArg _ hdb) ?_
          (congrArg _ hdb) fun d response basis committed events heq => ?_
        · dsimp only
          rw [hdb]
          exact hsame
        · exact hresult _ _ _ _ (CoreAnswer.commit.inj heq).2
  | applyPolicy i submission session =>
    simp only [coreStep]
    rcases s.store.commit_cases X i (submission.commitCall X s.store.db.projectId session) with
      ⟨context, current, committedAt, response, hresult, _, heffect⟩ | ⟨_, hdb⟩
    · rw [hresult]
      obtain ⟨t₁, happlied, hrest⟩ := applyMutations_cons.mp (mutationClosure_ok.mp heffect.mutated)
      refine .policy ?_ heffect.commitClock
      rw [applyMutations_nil.mp hrest]
      exact happlied
    · refine .idle (congrArg _ hdb) ?_ (congrArg _ hdb) (by simp)
      rw [hdb]
      exact hsame
  | advanceProjectUtcFloor sample =>
    simp only [coreStep]
    cases hadvance : advanceProjectUtcFloor X sample s.store.db with
    | error e => exact .idle rfl hsame rfl (by simp)
    | ok result =>
      obtain ⟨hdb, hclock⟩ := advanceProjectUtcFloor_ok hadvance
      exact .idle (by simp only [hdb]) (fun t ht => ⟨_, hclock t ht⟩) (by simp only [hdb]) (by simp)
  | environment change => exact .environment change

/- The drafts stay current. -/

omit [DecidableEq ι] in
theorem CoreSystem.DraftsCurrent.of_db {s s' : CoreSystem ι}
    (hs : s.DraftsCurrent X) (hdrafts : ∀ draft ∈ s'.drafts, draft ∈ s.drafts)
    (hproject : s'.store.db.projectId = s.store.db.projectId)
    (hversion : s.store.db.stateVersion ≤ s'.store.db.stateVersion)
    (hkeep : s.store.db.stateVersion = s'.store.db.stateVersion → ∀ snapshot : CoreTables,
      snapshot.ReadFrom s.tables → snapshot.ReadFrom s'.tables) : s'.DraftsCurrent X := by
  intro draft hdraft
  obtain ⟨hprepared, hown, hcurrent⟩ := hs draft (hdrafts draft hdraft)
  exact ⟨hprepared, hown.trans hproject.symm,
    hcurrent.step hversion fun hsame => hkeep hsame draft.snapshot⟩

theorem StoreSystem.commit_db (X : External) (s : StoreSystem ι CoreTables) (i : ι)
    (call : CommitCall CoreTables) : (s.commit X i call).2.db.projectId = s.db.projectId ∧
      (s.db.stateVersion < (s.commit X i call).2.db.stateVersion ∨
        (s.commit X i call).2.db = s.db) := by
  rcases s.commit_cases X i call with ⟨_, _, _, _, _, _, heffect⟩ | ⟨_, hdb⟩
  · refine ⟨heffect.project, .inl ?_⟩
    rw [heffect.version]
    omega
  · exact ⟨congrArg _ hdb, .inr hdb⟩

theorem CoreSystem.DraftsCurrent.of_commit
    (hs : s.DraftsCurrent X) (i : ι) (call : CommitCall CoreTables) {drafts : List CoreDraft}
    (hdrafts : ∀ draft ∈ drafts, draft ∈ s.drafts) :
    (⟨(s.store.commit X i call).2, drafts⟩ : CoreSystem ι).DraftsCurrent X := by
  obtain ⟨hproject, hlater | hdb⟩ := s.store.commit_db X i call
  · refine hs.of_db hdrafts hproject hlater.le fun hsame => ?_
    exact absurd hsame hlater.ne
  · refine hs.of_db hdrafts hproject (le_of_eq (congrArg _ hdb.symm)) fun _ snapshot h => ?_
    simpa only [tables, hdb] using h

theorem coreStep_draftsCurrent (hs : s.DraftsCurrent X)
    (op : CoreOp ι) : (coreStep X s op).2.DraftsCurrent X := by
  have hsame : ∀ store : StoreSystem ι CoreTables, store.db = s.store.db →
      (⟨store, s.drafts⟩ : CoreSystem ι).DraftsCurrent X := by
    intro store hdb
    refine hs.of_db (fun _ h => h) (congrArg _ hdb) (le_of_eq (congrArg _ hdb.symm)) ?_
    intro _ snapshot h
    simpa only [tables, hdb] using h
  cases op with
  | prepare i submission =>
    simp only [coreStep]
    split
    · exact hs
    · split
      · exact hsame _ rfl
      · rename_i draft hdraft
        obtain ⟨hprepared, _, hproject, hversion, hsnapshot⟩ := prepareRequest_ok hdraft
        intro other hother
        rcases List.mem_append.mp hother with hold | hnew
        · exact hsame _ rfl other hold
        · obtain rfl := List.mem_singleton.mp hnew
          refine ⟨hprepared, hproject, hversion.le, fun _ => ?_⟩
          rw [hsnapshot]
          rfl
  | commit i index session =>
    simp only [coreStep]
    split
    · exact hs
    · exact hs.of_commit i _ fun draft => List.mem_of_mem_eraseIdx
  | applyPolicy i submission session => exact hs.of_commit i _ fun _ h => h
  | advanceProjectUtcFloor sample =>
    simp only [coreStep]
    cases hadvance : advanceProjectUtcFloor X sample s.store.db with
    | error e => exact hs
    | ok result =>
      refine hs.of_db (fun _ h => h) ?_ ?_ ?_ <;>
        simp only [tables, (advanceProjectUtcFloor_ok hadvance).1, le_refl, imp_self,
          implies_true]
  | environment change =>
    exact hs.of_db (fun _ h => h) rfl le_rfl fun _ snapshot h => change.readFrom_apply h

theorem coreStep_projectId (X : External) (s : CoreSystem ι) (op : CoreOp ι) :
    (coreStep X s op).2.store.db.projectId = s.store.db.projectId := by
  cases op with
  | prepare i submission =>
    simp only [coreStep]
    split
    · rfl
    · split <;> rfl
  | commit i index session =>
    simp only [coreStep]
    split
    · rfl
    · exact (s.store.commit_db X i _).1
  | applyPolicy i submission session => exact (s.store.commit_db X i _).1
  | advanceProjectUtcFloor sample =>
    simp only [coreStep]
    cases hadvance : advanceProjectUtcFloor X sample s.store.db with
    | error e => rfl
    | ok result => simp only [(advanceProjectUtcFloor_ok hadvance).1]
  | environment change => rfl

/- Runs. -/

/-- A project nobody has worked on. -/
def CoreSystem.initial (projectId createdAt : String) (handles : ι → StoreHandle) :
    CoreSystem ι :=
  ⟨⟨⟨projectId, 0, createdAt, .empty, [], []⟩, handles⟩, []⟩

theorem sampleProject_eq :
    sampleProject = .initial "project" "x" fun _ => ⟨some "home", some "home", none⟩ := rfl

def CoreSystem.Sound (X : External) (projectId : String) (s : CoreSystem ι) : Prop :=
  s.DraftsCurrent X ∧ s.store.db.projectId = projectId

theorem coreStep_sound (s : CoreSystem ι) (op : CoreOp ι)
    (h : s.Sound X projectId) : (coreStep X s op).2.Sound X projectId :=
  ⟨coreStep_draftsCurrent h.1 op, (coreStep_projectId X s op).trans h.2⟩

theorem CoreSystem.Sound.effectAt (h : s.Sound X projectId) (op : CoreOp ι) :
    CoreEffectAt X projectId s.store.db (coreStep X s op).1 (coreStep X s op).2.store.db := by
  obtain ⟨hdrafts, rfl⟩ := h
  exact coreStep_effectAt hdrafts op

theorem CoreSystem.Sound.effect (h : s.Sound X projectId) (op : CoreOp ι) :
    CoreEffect X projectId s.tables (coreStep X s op).1 (coreStep X s op).2.tables :=
  (h.effectAt op).effect

omit [DecidableEq ι] in
theorem CoreSystem.sound_initial (X : External) (projectId createdAt : String)
    (handles : ι → StoreHandle) : (initial projectId createdAt handles).Sound X projectId :=
  ⟨fun _ h => absurd h List.not_mem_nil, rfl⟩

section
variable (hempty : I .empty)
  (hstep : ∀ t answer t', CoreEffect X projectId t answer t' → C t answer → I t → I t')
include hempty hstep

/-- A fact about the tables that every effect meeting `C` keeps holds at the end of every run
from an empty project all of whose steps meet `C`. -/
theorem coreRun_invariant (ops : List (CoreOp ι))
    (hops : ∀ e ∈ trace (coreStep X) (initial projectId createdAt handles)
      ops, C e.before.tables e.result) :
    I (run (coreStep X) (initial projectId createdAt handles) ops).tables := by
  have hinvariant := run_invariant_of_trace
    (I := fun s : CoreSystem ι => s.Sound X projectId ∧ I s.tables)
    (C := fun e => C e.before.tables e.result) ?_ _ ops
    ⟨sound_initial X projectId createdAt handles, hempty⟩ hops
  · exact hinvariant.2
  · rintro s op ⟨hsound, hI⟩ hC
    exact ⟨coreStep_sound s op hsound, hstep _ _ _ (hsound.effect op) hC hI⟩

theorem coreTrace_invariant
    (hops : ∀ e ∈ trace (coreStep X) (initial projectId createdAt handles)
      ops, C e.before.tables e.result) {e : CoreEvent ι}
    (he : e ∈ trace (coreStep X) (initial projectId createdAt handles) ops) :
    I e.before.tables ∧ CoreEffect X projectId e.before.tables e.result e.after.tables := by
  have hbefore := trace_invariant_of_trace
    (I := fun s : CoreSystem ι => s.Sound X projectId ∧ I s.tables)
    (C := fun e => C e.before.tables e.result)
    (fun s op h hC => ⟨coreStep_sound s op h.1, hstep _ _ _ (h.1.effect op) hC h.2⟩)
    ⟨sound_initial X projectId createdAt handles, hempty⟩ hops he
  have hfire := eq_fire_of_mem_trace he
  refine ⟨hbefore.2, ?_⟩
  rw [hfire]
  exact hbefore.1.effect e.op

end

theorem coreTrace_dbInvariant {I : ProjectDb CoreTables → Prop}
    (hempty : I (initial projectId createdAt handles).store.db)
    (hstep : ∀ db answer db', CoreEffectAt X projectId db answer db' → I db → I db')
    {e : CoreEvent ι} (he : e ∈ trace (coreStep X) (initial projectId createdAt handles) ops) :
    I e.before.store.db ∧ CoreEffectAt X projectId e.before.store.db e.result e.after.store.db := by
  have hbefore := trace_invariant
    (I := fun s : CoreSystem ι => s.Sound X projectId ∧ I s.store.db)
    (fun s op h => ⟨coreStep_sound s op h.1, hstep _ _ _ (h.1.effectAt op) h.2⟩)
    ⟨sound_initial X projectId createdAt handles, hempty⟩ he
  have hfire := eq_fire_of_mem_trace he
  refine ⟨hbefore.2, ?_⟩
  rw [hfire]
  exact hbefore.1.effectAt e.op

/-- Whatever a run leaves in the tables was put there by one of its events. -/
theorem coreRun_exists_event {α : Type} {H : CoreTables → α → Prop}
    {M : CoreTables → CoreAnswer → CoreTables → α → Prop} (hempty : I .empty)
    (hkeep : ∀ t answer t', CoreEffect X projectId t answer t' → I t → I t')
    (hnone : ∀ a, ¬ H .empty a)
    (hstep : ∀ t answer t' a, CoreEffect X projectId t answer t' → I t → H t' a →
      H t a ∨ M t answer t' a)
    (ops : List (CoreOp ι)) {a : α}
    (ha : H (run (coreStep X) (initial projectId createdAt handles)
      ops).tables a) :
    ∃ e ∈ trace (coreStep X) (initial projectId createdAt handles) ops,
      M e.before.tables e.result e.after.tables a := by
  have hrun := exists_event_of_run
    (I := fun s : CoreSystem ι => s.Sound X projectId ∧ I s.tables)
    (H := fun s a => H s.tables a) (M := fun e a => M e.before.tables e.result e.after.tables a)
    (fun s op h => ⟨coreStep_sound s op h.1, hkeep _ _ _ (h.1.effect op) h.2⟩)
    (fun s op a h => hstep _ _ _ a (h.1.effect op) h.2)
    ⟨sound_initial X projectId createdAt handles, hempty⟩ ha
  exact hrun.resolve_left (hnone a)

end Volicord
