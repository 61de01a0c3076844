import Volicord.Core.Control
import Volicord.Lib.Sorted
import Volicord.Store.System
import Volicord.Types.ProductPathComponents

/-! The write-authority fingerprint tells workflow settings apart exactly as far as Core's
decisions depend on them. -/
namespace Volicord
open Result Sorted

def CoreWorkflowPolicy.conservativeDefault (X : External) : StoreResult CoreWorkflowPolicy := do
  let fingerprint ← projectWriteAuthorityFingerprint X none
  let light : LightWorkflowPolicySettings :=
    { enabled := false, maxIntendedPaths := 3, allowedPathPatterns := [], deniedPathPatterns := []
      finalAcceptance := .policyDependent }
  return ⟨{ defaultDirectControl := .tracked, defaultWorkControl := .tracked, light := light
            writeTicketIdleTimeoutMinutes := none }, fingerprint⟩

/-- `project_workflow_policy` on the stored policy, if there is one. -/
def CoreWorkflowPolicy.ofStored (X : External) :
    Option ProjectWorkflowPolicy → StoreResult CoreWorkflowPolicy
  | none => conservativeDefault X
  | some policy => do
    let fingerprint ← projectWriteAuthorityFingerprint X (some policy)
    return ⟨policy.workflow, fingerprint⟩

/-- Equal but for the order and the repetition of path patterns. -/
structure SameWriteAuthority (a b : WorkflowPolicySettings) : Prop where
  direct : a.defaultDirectControl = b.defaultDirectControl
  work : a.defaultWorkControl = b.defaultWorkControl
  enabled : a.light.enabled = b.light.enabled
  maxPaths : a.light.maxIntendedPaths = b.light.maxIntendedPaths
  allowed : ∀ path, path ∈ a.light.allowedPathPatterns ↔ path ∈ b.light.allowedPathPatterns
  denied : ∀ path, path ∈ a.light.deniedPathPatterns ↔ path ∈ b.light.deniedPathPatterns
  acceptance : a.light.finalAcceptance = b.light.finalAcceptance
  timeout : a.writeTicketIdleTimeoutMinutes = b.writeTicketIdleTimeoutMinutes

/- The parts of the fingerprint's basis. -/

theorem patterns_eq_iff {a b : List ProductRelativePath} : sortDedup (a.map (·.text)) =
    sortDedup (b.map (·.text)) ↔ ∀ path, path ∈ a ↔ path ∈ b := by
  have htext : ∀ (paths : List ProductRelativePath) (path : ProductRelativePath),
      path.text ∈ paths.map (·.text) ↔ path ∈ paths := by
    intro paths path
    constructor
    · intro h
      obtain ⟨other, hother, heq⟩ := List.mem_map.mp h
      exact ProductRelativePath.text_injective heq ▸ hother
    · exact List.mem_map_of_mem
  constructor
  · intro h path
    rw [← htext a, ← mem_sortDedup, h, mem_sortDedup, htext b]
  · intro h
    refine sortDedup_congr fun text => ?_
    rw [List.mem_map, List.mem_map]
    simp only [h]

theorem textArray_injective : Function.Injective textArray := by
  intro a b h
  simp only [textArray, Json.arr.injEq] at h
  exact List.map_injective_iff.mpr (fun x y hxy => Json.str.inj hxy) h

theorem optionalNat_injective : Function.Injective optionalNat := by
  rintro (_ | m) (_ | n) h
  · rfl
  · cases h
  · cases h
  · have hcast : (m : Int) = n := Json.int.inj h
    exact congrArg some (Int.ofNat_inj.mp hcast)

theorem TaskControlLevel.asStr_injective : Function.Injective TaskControlLevel.asStr := by
  intro a b h
  cases a <;> cases b <;> first | rfl | exact absurd h (by decide)

theorem AcceptancePolicy.asStr_injective : Function.Injective AcceptancePolicy.asStr := by
  intro a b h
  cases a <;> cases b <;> first | rfl | exact absurd h (by decide)

theorem textArray_wellFormed (texts : List String) : (textArray texts).wellFormed := by
  rw [textArray, Json.wellFormed]
  induction texts with
  | nil => rfl
  | cons text texts ih => simpa [Json.itemsWellFormed, Json.wellFormed] using ih

theorem optionalNat_wellFormed (n : Option Nat) : (optionalNat n).wellFormed := by
  cases n <;> rfl

variable {X : External}

theorem canonicalJsonSha256_eq_iff (hjson : X.json.PrintsApart)
    (hsha : Function.Injective X.sha256Hex)
    {a b : Json} (ha : a.wellFormed) (hb : b.wellFormed) : canonicalJsonSha256 X a =
    canonicalJsonSha256 X b ↔ a = b := by
  constructor
  · intro h
    rw [canonicalJsonSha256, canonicalJsonSha256, String.append_right_inj] at h
    have hprint := hsha h
    rw [SerdeJson.canonicalJsonString, SerdeJson.canonicalJsonString, Json.sortJsonValue_eq a ha,
      Json.sortJsonValue_eq b hb] at hprint
    exact hjson a b ha hb hprint
  · intro h
    rw [h]

theorem basisKeys_increasing : ["default_direct_control", "default_work_control", "light", "schema",
    "write_ticket"].Pairwise (· < ·) := by decide +kernel

theorem lightKeys_increasing : ["allowed_path_patterns", "denied_path_patterns", "enabled",
    "final_acceptance", "max_intended_paths"].Pairwise (· < ·) := by decide +kernel

theorem writeAuthorityFingerprint_eq_iff (hjson : X.json.PrintsApart)
    (hsha : Function.Injective X.sha256Hex) {a b : WorkflowPolicySettings} :
    writeAuthorityFingerprint X a = writeAuthorityFingerprint X b ↔ SameWriteAuthority a b := by
  rw [writeAuthorityFingerprint, writeAuthorityFingerprint, canonicalJsonSha256_eq_iff hjson hsha]
  · simp only [Json.obj.injEq, Json.str.injEq, Json.bool.injEq, Json.int.injEq, List.cons.injEq,
      Prod.mk.injEq, true_and, and_true, TaskControlLevel.asStr_injective.eq_iff,
      AcceptancePolicy.asStr_injective.eq_iff, textArray_injective.eq_iff,
      optionalNat_injective.eq_iff, patterns_eq_iff, Int.natCast_inj]
    constructor
    · rintro ⟨hdirect, hwork, ⟨hallowed, hdenied, henabled, hacceptance, hmax⟩, htimeout⟩
      exact ⟨hdirect, hwork, henabled, hmax, hallowed, hdenied, hacceptance, htimeout⟩
    · intro h
      exact ⟨h.direct, h.work, ⟨h.allowed, h.denied, h.enabled, h.acceptance, h.maxPaths⟩,
        h.timeout⟩
  all_goals
    simp only [Json.wellFormed, Json.membersWellFormed, textArray_wellFormed,
      optionalNat_wellFormed, List.map_cons, List.map_nil, basisKeys_increasing,
      lightKeys_increasing, List.pairwise_singleton, decide_true, Bool.and_true]

/- What Core decides with settings that are the same. -/
section Decisions
variable {a b : CoreWorkflowPolicy} (h : SameWriteAuthority a.settings b.settings)
include h

theorem effectiveControlLevel_congr (mode : TaskMode) (requested : RequestedControlLevel) :
    effectiveControlLevel mode requested a = effectiveControlLevel mode requested b := by
  have hrequested : requestedLevel a.settings mode requested
      = requestedLevel b.settings mode requested := by
    cases requested <;> cases mode <;> simp [requestedLevel, h.direct, h.work]
  simp only [effectiveControlLevel, hrequested, h.direct, h.work, h.enabled]

theorem acceptancePolicyForControl_congr (control : TaskControlLevel) :
    acceptancePolicyForControl control a = acceptancePolicyForControl control b := by
  cases control <;> simp [acceptancePolicyForControl, h.acceptance]

theorem resolveTaskControlAuthority_congr (task : TaskRecord) :
    resolveTaskControlAuthority task a = resolveTaskControlAuthority task b := by
  simp only [resolveTaskControlAuthority, effectiveControlLevel_congr h,
    acceptancePolicyForControl_congr h]

theorem any_denied_congr (path : String) :
    (a.settings.light.deniedPathPatterns.any fun denied => pathIsWithin path denied.text)
      = b.settings.light.deniedPathPatterns.any fun denied => pathIsWithin path denied.text := by
  rw [Bool.eq_iff_iff, List.any_eq_true, List.any_eq_true]
  simp only [h.denied]

theorem any_allowed_congr (path : String) :
    (a.settings.light.allowedPathPatterns.any fun allowed => pathIsWithin path allowed.text)
      = b.settings.light.allowedPathPatterns.any fun allowed => pathIsWithin path allowed.text := by
  rw [Bool.eq_iff_iff, List.any_eq_true, List.any_eq_true]
  simp only [h.allowed]

theorem lightPathsAreAllowed_congr (paths : List String) :
    a.lightPathsAreAllowed paths = b.lightPathsAreAllowed paths := by
  simp only [CoreWorkflowPolicy.lightPathsAreAllowed, h.enabled, h.maxPaths, any_allowed_congr h,
    any_denied_congr h]

theorem hasDeniedPath_congr (paths : List String) :
    a.hasDeniedPath paths = b.hasDeniedPath paths := by
  simp only [CoreWorkflowPolicy.hasDeniedPath, any_denied_congr h]

end Decisions

/-- The settings of a stored policy, or the built-in ones. -/
def storedSettings (policy : Option ProjectWorkflowPolicy) : WorkflowPolicySettings :=
  policy.elim conservativeWorkflowSettings (·.workflow)

variable {policy : Option ProjectWorkflowPolicy}

section
variable (hpolicy : ∀ p ∈ policy, p.validate = .ok ())
include hpolicy

theorem projectWriteAuthorityFingerprint_ok : projectWriteAuthorityFingerprint X policy = .ok
    (writeAuthorityFingerprint X (storedSettings policy)) := by
  cases policy with
  | none => rfl
  | some p =>
    simp only [projectWriteAuthorityFingerprint, hpolicy p rfl, Except.mapError]
    rfl

theorem workflowPolicyOfStored_ok : CoreWorkflowPolicy.ofStored X policy = .ok
    ⟨storedSettings policy, writeAuthorityFingerprint X (storedSettings policy)⟩ := by
  have hfingerprint : projectWriteAuthorityFingerprint X policy
      = .ok (writeAuthorityFingerprint X (storedSettings policy)) :=
    projectWriteAuthorityFingerprint_ok hpolicy
  cases policy with
  | none =>
    simp only [CoreWorkflowPolicy.ofStored, CoreWorkflowPolicy.conservativeDefault, hfingerprint]
    rfl
  | some p =>
    simp only [CoreWorkflowPolicy.ofStored, hfingerprint]
    rfl

end

/-- Stored policies, or the absence of one, have one fingerprint exactly when their settings are the
same up to order and repetition of patterns; Core then decides everything alike. -/
theorem write_authority_fingerprint_exact (X : External) (hjson : X.json.PrintsApart)
    (hsha : Function.Injective X.sha256Hex) (p q : Option ProjectWorkflowPolicy)
    (hp : ∀ policy ∈ p, policy.validate = .ok ()) (hq : ∀ policy ∈ q, policy.validate = .ok ()) :
    (projectWriteAuthorityFingerprint X p = projectWriteAuthorityFingerprint X q ↔
      SameWriteAuthority (storedSettings p) (storedSettings q)) ∧
    ∃ a b, CoreWorkflowPolicy.ofStored X p = .ok a ∧ CoreWorkflowPolicy.ofStored X q = .ok b ∧
      (projectWriteAuthorityFingerprint X p = projectWriteAuthorityFingerprint X q →
        (∀ task, resolveTaskControlAuthority task a = resolveTaskControlAuthority task b) ∧
        (∀ mode requested,
          effectiveControlLevel mode requested a = effectiveControlLevel mode requested b) ∧
        (∀ control, acceptancePolicyForControl control a = acceptancePolicyForControl control b) ∧
        (∀ paths, a.lightPathsAreAllowed paths = b.lightPathsAreAllowed paths) ∧
        ∀ paths, a.hasDeniedPath paths = b.hasDeniedPath paths) := by
  have hiff : projectWriteAuthorityFingerprint X p = projectWriteAuthorityFingerprint X q ↔
      SameWriteAuthority (storedSettings p) (storedSettings q) := by
    rw [projectWriteAuthorityFingerprint_ok hp, projectWriteAuthorityFingerprint_ok hq,
      Except.ok.injEq, writeAuthorityFingerprint_eq_iff hjson hsha]
  refine ⟨hiff, _, _, workflowPolicyOfStored_ok hp, workflowPolicyOfStored_ok hq, ?_⟩
  intro h
  have hsame := hiff.mp h
  exact ⟨resolveTaskControlAuthority_congr hsame, effectiveControlLevel_congr hsame,
    acceptancePolicyForControl_congr hsame, lightPathsAreAllowed_congr hsame,
    hasDeniedPath_congr hsame⟩

/-- Repeated and reordered patterns leave the fingerprint as it is. -/
theorem write_authority_fingerprint_exact_sample :
    projectWriteAuthorityFingerprint plainExternal
        (some (sampleWorkflowPolicy [sourcePath, siblingPath, sourcePath]))
      = projectWriteAuthorityFingerprint plainExternal
        (some (sampleWorkflowPolicy [siblingPath, sourcePath])) := by
  refine (write_authority_fingerprint_exact plainExternal JsonText.serde_printsApart
    Function.injective_id _ _ ?_ ?_).1.mpr ?_
  · rintro _ ⟨⟩
    decide +kernel
  · rintro _ ⟨⟩
    decide +kernel
  · refine ⟨rfl, rfl, rfl, rfl, fun path => ?_, fun path => Iff.rfl, rfl, rfl⟩
    simp only [storedSettings, Option.elim_some, sampleWorkflowPolicy, List.mem_cons,
      List.not_mem_nil, or_false]
    tauto

end Volicord
