import Volicord.Store.ArtifactBodies
import Volicord.Store.MutationSpec
import Volicord.Types.JsonText

/-! Body files over whole runs. A file is named after its handle and is written before, and
removed after, its row is known to be stored; so a call is harmless only while no earlier row has
its body under the same name. -/
namespace Volicord
open Result Relational Transition
variable {input : ArtifactStagingInsert} {op : ArtifactOp} {path : HomePath}
  {body : Option (List UInt8)} {committedAt : UtcTimestamp}

structure BodyRecord where
  path : Option HomePath
  sha256 : Option String
  sizeBytes : Option Nat

def StagedArtifactRow.bodyRecord (row : StagedArtifactRow) : BodyRecord :=
  ⟨row.tmpPath, row.sha256, row.sizeBytes⟩

def PromotedArtifactRow.bodyRecord (row : PromotedArtifactRow) : BodyRecord :=
  ⟨some (artifactsDir :: row.bodyPath), row.sha256, row.sizeBytes⟩

def ArtifactTables.bodyRecords (t : ArtifactTables) : List BodyRecord :=
  t.artifactStaging.rows.map (·.bodyRecord) ++ t.artifacts.rows.map (·.bodyRecord)

namespace BodyRecord
variable {X : BodyExternal} {record : BodyRecord}

/-- The digest and the size of a record are those of the bytes. -/
def Fits (X : BodyExternal) (record : BodyRecord) (bytes : List UInt8) : Prop :=
  record.sha256 = some (X.sha256Hex bytes) ∧ record.sizeBytes = some bytes.length

instance (X : BodyExternal) (record : BodyRecord) (bytes : List UInt8) :
    Decidable (record.Fits X bytes) :=
  inferInstanceAs (Decidable (_ ∧ _))

/-- The record has a body file, and its bytes are the recorded ones. -/
def Intact (X : BodyExternal) (files : HomePath → Option (List UInt8)) (record : BodyRecord) :
    Prop :=
  ∃ path bytes, record.path = some path ∧ files path = some bytes ∧ record.Fits X bytes

theorem intact_update {files : HomePath → Option (List UInt8)} (h : record.Intact X files) :
    record.Intact X (Function.update files path body) ↔
      (record.path = some path → ∃ bytes, body = some bytes ∧ record.Fits X bytes) := by
  obtain ⟨own, bytes, hown, hbytes, hfits⟩ := h
  by_cases hpath : own = path
  · subst hpath
    simp [Intact, hown]
  · have hother : record.path ≠ some path := fun h => hpath (Option.some.inj (hown.symm.trans h))
    simp only [hother, false_implies, iff_true]
    exact ⟨own, bytes, hown, by rw [Function.update_of_ne hpath, hbytes], hfits⟩

end BodyRecord

variable (X : BodyExternal) {outcome : StagingOutcome}

def ArtifactStore.Intact (s : ArtifactStore) : Prop :=
  ∀ record ∈ s.tables.bodyRecords, record.Intact X s.files

/-- No row of an earlier call is disturbed, and a call that fails leaves nothing new. -/
structure ArtifactEvent.Undisturbed (e : ArtifactEvent) : Prop where
  kept : ∀ record ∈ e.before.tables.bodyRecords, record ∈ e.after.tables.bodyRecords
  intact : e.after.Intact X
  clean : ∀ error, e.result = .error error → e.after.tables = e.before.tables ∧
    ∀ path, e.before.files path = none → e.after.files path = none

/-- What a staging call must not do to the file of its handle: leave a part of its bytes where no
file was or where a row has its body, remove the body of a row, or replace it by another. -/
def StagingOutcome.Harmless (s : ArtifactStore) (path : HomePath) (bytes : List UInt8) :
    StagingOutcome → Prop
  | .refused _ | .unwritten _ .unopened => True
  | .unwritten _ (.cut count) => (s.files path).isSome = true ∧
    ∀ record ∈ s.tables.bodyRecords, record.path = some path → record.Fits X (bytes.take count)
  | .withdrawn _ => ∀ record ∈ s.tables.bodyRecords, record.path ≠ some path
  | .committed _ => ∀ record ∈ s.tables.bodyRecords, record.path = some path →
    record.Fits X bytes

instance (X : BodyExternal) (s : ArtifactStore) (path : HomePath) (bytes : List UInt8)
    (outcome : StagingOutcome) : Decidable (outcome.Harmless X s path bytes) :=
  match outcome with
  | .refused _ | .unwritten _ .unopened => inferInstanceAs (Decidable True)
  | .unwritten _ (.cut _) => inferInstanceAs (Decidable (_ ∧ _))
  | .withdrawn _ => inferInstanceAs (Decidable (∀ _ ∈ _, _))
  | .committed _ => inferInstanceAs (Decidable (∀ _ ∈ _, _))

def ArtifactEvent.Harmless (e : ArtifactEvent) : Prop :=
  match e.op with
  | .createArtifactStaging input faults =>
    (e.before.tables.createArtifactStaging X.chrono faults input).Harmless X e.before
      (stagedBodyPath input.handleId) input.safeBytesOrNotice
  | .fulfillEvidenceCaptureSource input faults =>
    (e.before.tables.fulfillEvidenceCaptureSource X faults input).Harmless X e.before
      (stagedBodyPath (input.staging X).handleId) (input.staging X).safeBytesOrNotice
  | .recordRun .. => True

instance (X : BodyExternal) (e : ArtifactEvent) : Decidable (ArtifactEvent.Harmless X e) :=
  match e with
  | ⟨_, .createArtifactStaging .., _, _⟩ =>
    inferInstanceAs (Decidable (StagingOutcome.Harmless ..))
  | ⟨_, .fulfillEvidenceCaptureSource .., _, _⟩ =>
    inferInstanceAs (Decidable (StagingOutcome.Harmless ..))
  | ⟨_, .recordRun .., _, _⟩ => inferInstanceAs (Decidable True)

/-- The digest and the size the caller gives are those of the bytes. -/
def ArtifactStagingInsert.Honest (input : ArtifactStagingInsert) : Prop :=
  input.sha256 = X.sha256Hex input.safeBytesOrNotice ∧
    input.sizeBytes = input.safeBytesOrNotice.length

def ArtifactOp.Honest : ArtifactOp → Prop
  | .createArtifactStaging input _ => input.Honest X
  | _ => True

namespace ArtifactTables
variable {X} {t t' : ArtifactTables} {faults : StagingFaults}

/-- The tables have the bodies of the earlier ones and that of one new row. -/
def Stages (t : ArtifactTables) (input : ArtifactStagingInsert) (t' : ArtifactTables) : Prop :=
  ∀ record, record ∈ t'.bodyRecords ↔ record ∈ t.bodyRecords ∨ record = input.row.bodyRecord

theorem insertArtifactStaging_committed
    (h : t.insertArtifactStaging faults input = .committed t') : t.Stages input t' := by
  unfold insertArtifactStaging at h
  split at h
  · cases h
  split at h
  · cases h
  split at h
  · cases h
  · cases h
  · rename_i rows _ hinsert
    cases h
    have hrows := (Table.insert?_eq_some (CoreTables.insertRow_ok.mp hinsert).2).2
    intro record
    simp only [bodyRecords, hrows, List.map_append, List.mem_append, List.map_cons, List.map_nil,
      List.mem_singleton]
    tauto

theorem followedBy_committed {rest : ArtifactTables → StoreResult ArtifactTables}
    (h : followedBy outcome rest = .committed t') :
    ∃ between, outcome = .committed between ∧ rest between = .ok t' := by
  unfold followedBy at h
  split at h
  · split at h
    · cases h
    · rename_i hrest
      cases h
      exact ⟨_, rfl, hrest⟩
  · rename_i hnot
    exact absurd h (hnot t')

theorem createArtifactStaging_committed
    (h : t.createArtifactStaging X.chrono faults input = .committed t') : t.Stages input t' := by
  unfold createArtifactStaging at h
  split at h
  · cases h
  · cases h
  · obtain ⟨between, hinsert, hrest⟩ := followedBy_committed h
    simp only [steps_ok] at hrest
    obtain ⟨_, _, rfl⟩ := hrest
    exact insertArtifactStaging_committed hinsert

theorem insertSourceClaims_bodyRecords {claims : List String}
    (h : claims.foldlM insertSourceClaim t = .ok t') : t'.bodyRecords = t.bodyRecords := by
  induction claims generalizing t with
  | nil => rw [pure_eq_ok.mp h]
  | cons claim claims ih =>
    rw [List.foldlM_cons, bind_eq_ok] at h
    obtain ⟨between, hclaim, hrest⟩ := h
    simp only [insertSourceClaim, steps_ok] at hclaim
    obtain ⟨_, _, rfl⟩ := hclaim
    have hkept := ih hrest
    exact hkept

theorem fulfillEvidenceCaptureSource_committed {input : CaptureSourceInsert}
    (h : t.fulfillEvidenceCaptureSource X faults input = .committed t') :
    t.Stages (input.staging X) t' := by
  unfold fulfillEvidenceCaptureSource at h
  split at h
  · cases h
  · cases h
  · cases h
  · obtain ⟨between, hinsert, hrest⟩ := followedBy_committed h
    simp only [insertReceipt, steps_ok] at hrest
    obtain ⟨_, _, receipts, _, _, _, after, hclaims, _, _, rfl⟩ := hrest
    intro record
    rw [insertSourceClaims_bodyRecords hclaims]
    exact insertArtifactStaging_committed hinsert record

end ArtifactTables

namespace ArtifactStore
variable {X} {s s' : ArtifactStore} {promotions : List ArtifactPromotion}

theorem setFile_intact_iff (h : s.Intact X) :
    (s.setFile path body).Intact X ↔ ∀ record ∈ s.tables.bodyRecords, record.path = some path →
      ∃ bytes, body = some bytes ∧ record.Fits X bytes :=
  forall₂_congr fun record hrecord => BodyRecord.intact_update (h record hrecord)

/-- A failed call that changed one file disturbs nothing exactly if the file is no new one and
still is the body of the rows that name it. -/
theorem failed_undisturbed_iff {error : StoreError} (h : s.Intact X) :
    ArtifactEvent.Undisturbed X ⟨s, op, .error error, s.setFile path body⟩ ↔
      (s.files path = none → body = none) ∧ ∀ record ∈ s.tables.bodyRecords,
        record.path = some path → ∃ bytes, body = some bytes ∧ record.Fits X bytes := by
  constructor
  · intro hevent
    refine ⟨fun hnone => ?_, (setFile_intact_iff h).mp hevent.intact⟩
    have hclean := (hevent.clean error rfl).2 path hnone
    simpa [setFile] using hclean
  · rintro ⟨hnew, hrecords⟩
    refine ⟨fun _ hrecord => hrecord, (setFile_intact_iff h).mpr hrecords, fun _ _ =>
      ⟨rfl, fun other hother => ?_⟩⟩
    by_cases hpath : other = path
    · subst hpath
      simpa [setFile] using hnew hother
    · have hkept : (s.setFile path body).files other = s.files other :=
        Function.update_of_ne hpath _ _
      exact hkept.trans hother

theorem unchanged_undisturbed {error : StoreError} (h : s.Intact X) :
    ArtifactEvent.Undisturbed X ⟨s, op, .error error, s⟩ :=
  ⟨fun _ hrecord => hrecord, h, fun _ _ => ⟨rfl, fun _ hnone => hnone⟩⟩

theorem committed_undisturbed_iff {t' : ArtifactTables} (h : s.Intact X) (hhonest : input.Honest X)
    (hstages : s.tables.Stages input t') :
    ArtifactEvent.Undisturbed X ⟨s, op, .ok (),
        { s.setFile (stagedBodyPath input.handleId) (some input.safeBytesOrNotice) with
          tables := t' }⟩ ↔
      ∀ record ∈ s.tables.bodyRecords, record.path = some (stagedBodyPath input.handleId) →
        record.Fits X input.safeBytesOrNotice := by
  have hfile : ∀ record : BodyRecord,
      (∃ bytes, some input.safeBytesOrNotice = some bytes ∧ record.Fits X bytes) ↔
        record.Fits X input.safeBytesOrNotice := by
    simp
  constructor
  · intro hevent record hrecord hpath
    have hafter := hevent.intact record ((hstages record).mpr (.inl hrecord))
    exact (hfile record).mp ((BodyRecord.intact_update (h record hrecord)).mp hafter hpath)
  · intro hrecords
    refine ⟨fun record hrecord => (hstages record).mpr (.inl hrecord), fun record hrecord => ?_,
      fun _ herror => by cases herror⟩
    rcases (hstages record).mp hrecord with hold | rfl
    · exact (BodyRecord.intact_update (h record hold)).mpr fun hpath =>
        (hfile record).mpr (hrecords record hold hpath)
    · refine ⟨_, _, rfl, Function.update_self .., ?_, ?_⟩
      · exact congrArg some hhonest.1
      · exact congrArg some hhonest.2

theorem settle_undisturbed_iff (op : ArtifactOp) (h : s.Intact X) (hhonest : input.Honest X)
    (hstages : ∀ t', outcome = .committed t' → s.tables.Stages input t') :
    ArtifactEvent.Undisturbed X ⟨s, op,
        (s.settle (stagedBodyPath input.handleId) input.safeBytesOrNotice outcome).1,
        (s.settle (stagedBodyPath input.handleId) input.safeBytesOrNotice outcome).2⟩ ↔
      outcome.Harmless X s (stagedBodyPath input.handleId) input.safeBytesOrNotice := by
  match outcome, hstages with
  | .refused _, _ => exact iff_of_true (unchanged_undisturbed h) trivial
  | .unwritten _ .unopened, _ => exact iff_of_true (unchanged_undisturbed h) trivial
  | .unwritten _ (.cut count), _ =>
    refine (failed_undisturbed_iff h).trans (and_congr ?_ ?_)
    · cases s.files (stagedBodyPath input.handleId) <;> simp
    · simp
  | .withdrawn _, _ =>
    refine (failed_undisturbed_iff h).trans ?_
    simp [StagingOutcome.Harmless]
  | .committed t', hstages => exact committed_undisturbed_iff h hhonest (hstages t' rfl)

theorem bodyPath_of_persistentBodyPath {tmpPath bodyPath : HomePath}
    (h : persistentBodyPath tmpPath = .ok bodyPath) : artifactsDir :: bodyPath = tmpPath := by
  simp only [persistentBodyPath, steps_ok, normalRelativePathComponents,
    Option.ite_none_left_eq_some, decide_eq_true_eq] at h
  obtain ⟨_, ⟨_, hpath⟩, hhead, _, _, rfl⟩ := h
  obtain rfl := Option.some.inj hpath
  cases tmpPath with
  | nil => cases hhead
  | cons first rest =>
    obtain rfl := Option.some.inj hhead
    rfl

/-- The columns a promotion sets on the staging row say nothing about its body. -/
theorem update_bodyRecords (rows : Table (StagedArtifactRow.toArtifactStagingRecord · |>.handleId))
    (handleId : String) (f : StagedArtifactRow → StagedArtifactRow)
    (hf : ∀ row, (f row).handleId = row.handleId)
    (hbody : ∀ row, (f row).bodyRecord = row.bodyRecord) :
    (rows.update handleId f hf).rows.map (·.bodyRecord) = rows.rows.map (·.bodyRecord) := by
  simp only [Table.update, Table.updateWhere, List.map_map]
  refine List.map_congr_left fun row _ => ?_
  simp only [Function.comp_apply]
  split
  · exact hbody row
  · rfl

theorem promoteStagedArtifact_ok {input : ArtifactPromotion}
    (h : s.promoteStagedArtifact X committedAt input = .ok s') : s'.files = s.files ∧ ∃ promoted :
    BodyRecord, promoted.Intact X s.files ∧ ∀ record, record ∈ s'.tables.bodyRecords ↔
    record ∈ s.tables.bodyRecords ∨ record = promoted := by
  simp only [promoteStagedArtifact, steps_ok, CoreTables.insertRow_ok,
    verifyStagedArtifactBody, decide_eq_true_eq] at h
  obtain ⟨_, _, _, _, _, _, _, _, _, _, staging, _, _, _, tmpPath, _, bodyPath, hpath,
    ⟨bytes, hbytes, hsize, hsha⟩, artifacts, ⟨_, hinsert⟩, rfl⟩ := h
  refine ⟨rfl, ⟨some (artifactsDir :: bodyPath), some input.expectedSha256,
    some input.expectedSizeBytes⟩, ⟨tmpPath, bytes, ?_, hbytes, ?_, ?_⟩, fun record => ?_⟩
  · exact congrArg some (bodyPath_of_persistentBodyPath hpath)
  · exact congrArg some hsha.symm
  · exact congrArg some hsize.symm
  · simp only [ArtifactTables.bodyRecords]
    rw [update_bodyRecords, (Table.insert?_eq_some hinsert).2]
    · simp only [List.map_append, List.mem_append, List.map_cons, List.map_nil,
        List.mem_singleton, or_assoc]
      rfl
    · exact fun _ => rfl

theorem promotions_ok
    (h : promotions.foldlM (promoteStagedArtifact X committedAt) s = .ok s')
      (hintact : s.Intact X) :
    s'.Intact X ∧ ∀ record ∈ s.tables.bodyRecords, record ∈ s'.tables.bodyRecords := by
  induction promotions generalizing s with
  | nil =>
    obtain rfl := pure_eq_ok.mp h
    exact ⟨hintact, fun _ hrecord => hrecord⟩
  | cons input promotions ih =>
    rw [List.foldlM_cons, bind_eq_ok] at h
    obtain ⟨between, hinput, hrest⟩ := h
    obtain ⟨hfiles, promoted, hpromoted, hrecords⟩ := promoteStagedArtifact_ok hinput
    have hbetween : between.Intact X := by
      intro record hrecord
      rw [hfiles]
      rcases (hrecords record).mp hrecord with hold | rfl
      · exact hintact record hold
      · exact hpromoted
    obtain ⟨hafter, hkept⟩ := ih hrest hbetween
    exact ⟨hafter, fun record hrecord => hkept record ((hrecords record).mpr (.inl hrecord))⟩

theorem recordRun_undisturbed {fault : Option StoreError} (h : s.Intact X) :
    ArtifactEvent.Undisturbed X
      (fire (artifactStep X) s (.recordRun committedAt promotions fault)) := by
  cases hrun : s.recordRun X committedAt promotions fault with
  | error error =>
    simp only [fire, artifactStep, hrun]
    exact unchanged_undisturbed h
  | ok after =>
    simp only [fire, artifactStep, hrun]
    simp only [recordRun, steps_ok] at hrun
    obtain ⟨_, hpromotions, _, _, rfl⟩ := hrun
    obtain ⟨hafter, hkept⟩ := promotions_ok hpromotions h
    exact ⟨hkept, hafter, fun _ herror => by cases herror⟩

theorem step_undisturbed_iff (h : s.Intact X) (hop : op.Honest X) : ArtifactEvent.Undisturbed X
    (fire (artifactStep X) s op) ↔ ArtifactEvent.Harmless X (fire (artifactStep X) s op) := by
  cases op with
  | createArtifactStaging input faults =>
    exact settle_undisturbed_iff (.createArtifactStaging input faults) h hop fun _ =>
      ArtifactTables.createArtifactStaging_committed
  | fulfillEvidenceCaptureSource input faults =>
    have hhonest : (input.staging X).Honest X := ⟨rfl, rfl⟩
    exact settle_undisturbed_iff (.fulfillEvidenceCaptureSource input faults) h hhonest fun _ =>
      ArtifactTables.fulfillEvidenceCaptureSource_committed
  | recordRun committedAt promotions fault => exact iff_of_true (recordRun_undisturbed h) trivial

end ArtifactStore

/-- Along every run of stagings, source receipts and promotions, with whatever handles and
failures, no call disturbs a body or leaves something behind exactly if every staging call ends
harmlessly for the file its handle names. -/
theorem artifact_bodies_undisturbed_iff (X : BodyExternal) (s : ArtifactStore) (h : s.Intact X)
    (ops : List ArtifactOp) (hops : ∀ op ∈ ops, op.Honest X) :
    (∀ e ∈ trace (artifactStep X) s ops, ArtifactEvent.Undisturbed X e) ↔
      ∀ e ∈ trace (artifactStep X) s ops, ArtifactEvent.Harmless X e :=
  trace_forall_iff (I := ArtifactStore.Intact X) (O := ArtifactOp.Honest X)
    (fun _ _ hs ho => ArtifactStore.step_undisturbed_iff hs ho) (fun _ _ _ hevent => hevent.intact)
    h hops

/-- A digest that tells bodies apart by their length. -/
def sampleBodyExternal : BodyExternal where
  chrono := ClockText.chrono
  sha256Hex bytes := String.ofList
    (List.replicate bytes.length '1' ++ List.replicate (64 - bytes.length) '0')

def sampleStaging (handleId : String) (bytes : List UInt8) : ArtifactOp :=
  .createArtifactStaging
    { handleId := handleId, taskId := "T", createdByActorSource := .localUser, displayName := "d"
      contentType := "c", sha256 := sampleBodyExternal.sha256Hex bytes, sizeBytes := bytes.length
      redactionState := .none, safeBytesOrNotice := bytes, createdAt := 0, expiresAt := 1 }
    .none

/-- Two handles whose files differ do not disturb each other. -/
theorem artifact_bodies_undisturbed_sample :
    (∀ e ∈ trace (artifactStep sampleBodyExternal) .empty
        [sampleStaging "a" [1], sampleStaging "b" [2, 3]],
      ArtifactEvent.Harmless sampleBodyExternal e) ∧
    ∀ e ∈ trace (artifactStep sampleBodyExternal) .empty
        [sampleStaging "a" [1], sampleStaging "b" [2, 3]],
      ArtifactEvent.Undisturbed sampleBodyExternal e := by
  have hharmless : ∀ e ∈ trace (artifactStep sampleBodyExternal) .empty
      [sampleStaging "a" [1], sampleStaging "b" [2, 3]],
      ArtifactEvent.Harmless sampleBodyExternal e := by
    simp only [trace, List.forall_mem_cons, List.not_mem_nil, false_implies, implies_true, and_true]
    decide +kernel
  exact ⟨hharmless, (artifact_bodies_undisturbed_iff sampleBodyExternal .empty
    (fun _ h => by cases h) [sampleStaging "a" [1], sampleStaging "b" [2, 3]]
    (by simp [sampleStaging, ArtifactOp.Honest, ArtifactStagingInsert.Honest])).mpr hharmless⟩

/-- The second staging of a handle is refused by the key of the table, and takes the body of the
first one with it. -/
theorem staged_body_removed :
    let ops := [sampleStaging "a" [1], sampleStaging "a" [1]]
    let s := run (artifactStep sampleBodyExternal) .empty ops
    (∀ op ∈ ops, op.Honest sampleBodyExternal) ∧
      s.tables.bodyRecords.map (·.path) = [some (stagedBodyPath "a")] ∧
      s.files (stagedBodyPath "a") = none := by
  refine ⟨by simp [sampleStaging, ArtifactOp.Honest, ArtifactStagingInsert.Honest], ?_⟩
  decide +kernel

end Volicord
