import Volicord.Store.RuntimeSessions

/-! The life of MCP runtime sessions. Every milestone is compared with the last observation as a
text and decoded as an instant; where the two orders agree the rows stay readable. -/
namespace Volicord
open Result Relational Sorted

namespace McpRuntimeSessionRecord
variable {X : External} {r : McpRuntimeSessionRecord} {observedAt : String}
  {earlier later value : Option String}

structure Shaped (r : McpRuntimeSessionRecord) : Prop where
  revision : isCanonicalSha256Digest r.connectionIntegrationRevision
  process : 0 < r.processId
  hostVersion : r.observedHostExecutableVersion.all (isBoundedText · maxDiagnosticFieldBytes)
  peer : r.validatePeer = .ok ()
  clientPaired : r.attemptedClientName.isSome = r.attemptedClientVersion.isSome
  selectedPaired : r.initializeCompletedAt.isSome = r.selectedProtocolVersion.isSome
  selectedPeer : r.selectedProtocolVersion.isSome →
    r.attemptedClientName.isSome ∧ r.requestedProtocolVersion.isSome
  negotiatedPaired : r.initializedNotificationAt.isSome = r.negotiatedProtocolVersion.isSome
  negotiated : r.negotiatedProtocolVersion = none ∨
    r.negotiatedProtocolVersion = r.selectedProtocolVersion
  listing : r.validateToolsList = .ok ()
  toolName : r.verificationToolName.all isMcpToolName
  toolPaired : r.verificationToolName.isSome = r.verificationToolObservedAt.isSome
  terminalId : r.terminalFindingId.all isStableIdentifier
  exclusive : r.terminalFindingId = none ∨ r.gracefulCloseAt = none

structure Timely (C : Chrono) (r : McpRuntimeSessionRecord) : Prop where
  last : C.Before r.processStartedAt r.lastObservedAt
  completed : ∀ a ∈ r.initializeCompletedAt,
    C.Before r.processStartedAt a ∧ C.Before a r.lastObservedAt
  initialized : ∀ a ∈ r.initializedNotificationAt,
    C.Before a r.lastObservedAt ∧ ∃ b ∈ r.initializeCompletedAt, C.Before b a
  tools : ∀ a ∈ r.toolsListObservedAt,
    C.Before a r.lastObservedAt ∧ ∃ b ∈ r.initializeCompletedAt, C.Before b a
  required : ∀ a ∈ r.requiredToolsValidatedAt,
    C.Before a r.lastObservedAt ∧ ∃ b ∈ r.toolsListObservedAt, C.Before b a
  verification : ∀ a ∈ r.verificationToolObservedAt, C.Before a r.lastObservedAt ∧
    (∃ b ∈ r.requiredToolsValidatedAt, C.Before b a) ∧
    ∃ b ∈ r.initializedNotificationAt, C.Before b a
  close : ∀ a ∈ r.gracefulCloseAt, C.Before r.processStartedAt a

/-- A row that passes the constraints of its table and its decoder. -/
structure Lawful (X : External) (r : McpRuntimeSessionRecord) : Prop where
  shaped : r.Shaped
  timely : r.Timely X.chrono

/-- A present text has a present one it does not precede. -/
def Follows (C : Chrono) (later earlier : Option String) : Prop :=
  ∀ a ∈ later, ∃ b ∈ earlier, C.Before b a

section
variable {C : Chrono} (h : Follows C later earlier)
include h

theorem Follows.notBefore : notBefore later earlier := by
  cases later with
  | none => rfl
  | some a =>
    obtain ⟨b, rfl, hle⟩ := h a rfl
    simpa [McpRuntimeSessionRecord.notBefore] using hle.text

theorem Follows.present : (later.isNone || earlier.isSome) = true := by
  cases later with
  | none => rfl
  | some a =>
    obtain ⟨b, rfl, _⟩ := h a rfl
    rfl

theorem Follows.instants : followsPresent (later.bind C.parse) (earlier.bind C.parse) := by
  cases later with
  | none => rfl
  | some a =>
    obtain ⟨b, rfl, hle⟩ := h a rfl
    obtain ⟨s, t, hs, ht, hst⟩ := hle.instant
    simpa [followsPresent, hs.parse, ht.parse] using hst

theorem Follows.stamped : ∀ a ∈ later, ∃ t, C.Stamp a t := by
  intro a ha
  obtain ⟨b, _, hle⟩ := h a ha
  exact hle.right

end

theorem bind_parse_isSome {C : Chrono}
    (h : ∀ a ∈ value, ∃ t, C.Stamp a t) : (value.bind C.parse).isSome = value.isSome := by
  cases value with
  | none => rfl
  | some a =>
    obtain ⟨t, ht⟩ := h a rfl
    simp [ht.parse]

theorem parseOptionalStoredTimestamp_of {field : String}
    (h : ∀ a ∈ value, ∃ t, X.chrono.Stamp a t) :
    r.parseOptionalStoredTimestamp X field value = .ok (value.bind X.chrono.parse) := by
  cases value with
  | none => rfl
  | some a =>
    obtain ⟨t, ht⟩ := h a rfl
    simp [parseOptionalStoredTimestamp, parseStoredTimestamp, ht.parse, okOr, Except.map]

theorem listing_cases (h : r.validateToolsList = .ok ()) :
    (r.toolsListObservedAt = none ∧ r.returnedToolIdentities = none ∧
      r.requiredToolsPresent = none ∧ r.requiredToolsValidatedAt = none) ∨
    ∃ a identities present, r.toolsListObservedAt = some a ∧
      r.returnedToolIdentities = some identities ∧ r.requiredToolsPresent = some present ∧
      r.requiredToolsValidatedAt.isSome = present := by
  unfold validateToolsList at h
  split at h
  case h_1 h₁ h₂ h₃ h₄ => exact .inl ⟨h₁, h₂, h₃, h₄⟩
  case h_2 a identities h₁ h₂ h₃ h₄ => exact .inr ⟨a, identities, false, h₁, h₂, h₃, by simp [h₄]⟩
  case h_3 a identities b h₁ h₂ h₃ h₄ => exact .inr ⟨a, identities, true, h₁, h₂, h₃, by simp [h₄]⟩
  case h_4 => cases h

theorem Shaped.toolsListColumnsAgree (h : r.Shaped) : r.toolsListColumnsAgree := by
  rcases listing_cases h.listing with ⟨h₁, h₂, h₃, h₄⟩ | ⟨a, identities, present, h₁, h₂, h₃, h₄⟩
  · simp [McpRuntimeSessionRecord.toolsListColumnsAgree, h₁, h₂, h₃, h₄]
  · cases present <;> simp [McpRuntimeSessionRecord.toolsListColumnsAgree, h₁, h₂, h₃, h₄,
      ← Option.not_isSome]

namespace Timely
variable {C : Chrono} (h : r.Timely C)
include h

theorem lastFollows : Follows C (some r.lastObservedAt) (some r.processStartedAt) := by
  rintro _ ⟨⟩
  exact ⟨_, rfl, h.last⟩

theorem completedFollows : Follows C r.initializeCompletedAt (some r.processStartedAt) :=
  fun a ha => ⟨_, rfl, (h.completed a ha).1⟩

theorem initializedFollows : Follows C r.initializedNotificationAt r.initializeCompletedAt :=
  fun a ha => (h.initialized a ha).2

theorem toolsFollow : Follows C r.toolsListObservedAt r.initializeCompletedAt :=
  fun a ha => (h.tools a ha).2

theorem requiredFollow : Follows C r.requiredToolsValidatedAt r.toolsListObservedAt :=
  fun a ha => (h.required a ha).2

theorem verificationFollowsRequired :
    Follows C r.verificationToolObservedAt r.requiredToolsValidatedAt :=
  fun a ha => (h.verification a ha).2.1

theorem verificationFollowsInitialized :
    Follows C r.verificationToolObservedAt r.initializedNotificationAt :=
  fun a ha => (h.verification a ha).2.2

theorem closeFollows : Follows C r.gracefulCloseAt (some r.processStartedAt) :=
  fun a ha => ⟨_, rfl, h.close a ha⟩

end Timely

theorem Shaped.selectedPresent (h : r.Shaped) :
    (r.selectedProtocolVersion.isNone || r.requestedProtocolVersion.isSome) = true ∧
      (r.selectedProtocolVersion.isNone || r.attemptedClientName.isSome) = true := by
  cases hselected : r.selectedProtocolVersion with
  | none => exact ⟨rfl, rfl⟩
  | some version =>
    obtain ⟨hname, hrequested⟩ := h.selectedPeer (by rw [hselected]; rfl)
    exact ⟨hrequested, hname⟩

theorem Lawful.checks (h : r.Lawful X) : r.checks := by
  have hs := h.shaped
  have ht := h.timely
  have hnegotiated : (r.negotiatedProtocolVersion.isNone || r.selectedProtocolVersion.isNone
      || decide (r.negotiatedProtocolVersion = r.selectedProtocolVersion)) = true := by
    rcases hs.negotiated with hnone | hsame
    · simp [hnone]
    · simp [hsame]
  have hexclusive : (r.terminalFindingId.isNone || r.gracefulCloseAt.isNone) = true := by
    rcases hs.exclusive with hnone | hnone <;> simp [hnone]
  have hselected := hs.selectedPresent
  have hprocess : decide (0 < r.processId) = true := decide_eq_true hs.process
  simp only [McpRuntimeSessionRecord.checks, Bool.and_eq_true, pairedColumns, beq_iff_eq]
  and_intros
  exacts [hs.revision, hprocess, hs.toolName, hs.clientPaired, hs.selectedPaired, hselected.1,
    hselected.2, hs.negotiatedPaired, hs.toolsListColumnsAgree, hs.toolPaired,
    ht.initializedFollows.present, hnegotiated, ht.toolsFollow.present,
    ht.requiredFollow.notBefore, ht.verificationFollowsRequired.present, hexclusive,
    ht.lastFollows.notBefore, ht.completedFollows.notBefore, ht.initializedFollows.notBefore,
    ht.toolsFollow.notBefore, ht.verificationFollowsInitialized.notBefore,
    ht.verificationFollowsRequired.notBefore, ht.closeFollows.notBefore]

theorem Timely.parseInstants (h : r.Timely X.chrono) :
    ∃ started last, X.chrono.Stamp r.processStartedAt started ∧
      X.chrono.Stamp r.lastObservedAt last ∧ started ≤ last ∧
      r.parseInstants X = .ok ⟨started, r.initializeCompletedAt.bind X.chrono.parse,
        r.initializedNotificationAt.bind X.chrono.parse,
        r.toolsListObservedAt.bind X.chrono.parse,
        r.requiredToolsValidatedAt.bind X.chrono.parse,
        r.verificationToolObservedAt.bind X.chrono.parse, last⟩ := by
  obtain ⟨started, last, hstarted, hlast, hle⟩ := h.last.instant
  refine ⟨started, last, hstarted, hlast, hle, ?_⟩
  simp only [McpRuntimeSessionRecord.parseInstants,
    parseOptionalStoredTimestamp_of h.completedFollows.stamped,
    parseOptionalStoredTimestamp_of h.initializedFollows.stamped,
    parseOptionalStoredTimestamp_of h.toolsFollow.stamped,
    parseOptionalStoredTimestamp_of h.requiredFollow.stamped,
    parseOptionalStoredTimestamp_of h.verificationFollowsRequired.stamped, parseStoredTimestamp,
    hstarted.parse, hlast.parse, okOr]
  rfl

theorem Timely.inOrder (h : r.Timely X.chrono) {started last : UtcTimestamp}
    (hstarted : X.chrono.Stamp r.processStartedAt started) (hle : started ≤ last) :
    McpSessionInstants.inOrder ⟨started, r.initializeCompletedAt.bind X.chrono.parse,
      r.initializedNotificationAt.bind X.chrono.parse, r.toolsListObservedAt.bind X.chrono.parse,
      r.requiredToolsValidatedAt.bind X.chrono.parse,
      r.verificationToolObservedAt.bind X.chrono.parse, last⟩ = true := by
  have hcompleted : (r.initializeCompletedAt.bind X.chrono.parse).all (started ≤ ·) = true := by
    have := h.completedFollows.instants
    simpa [followsPresent, hstarted.parse] using this
  simp only [McpSessionInstants.inOrder, Bool.and_eq_true, decide_eq_true_eq]
  and_intros
  exacts [hle, hcompleted, h.initializedFollows.instants, h.toolsFollow.instants,
    h.requiredFollow.instants, h.verificationFollowsRequired.instants,
    h.verificationFollowsInitialized.instants]

theorem Lawful.validate (h : r.Lawful X) : r.validate X = .ok () := by
  have hs := h.shaped
  have ht := h.timely
  obtain ⟨started, last, hstarted, hlast, hle, hinstants⟩ := ht.parseInstants
  have hcompleted := bind_parse_isSome ht.completedFollows.stamped
  have hinitialized := bind_parse_isSome ht.initializedFollows.stamped
  have htools := bind_parse_isSome ht.toolsFollow.stamped
  have hrequired := bind_parse_isSome ht.requiredFollow.stamped
  have hverification := bind_parse_isSome ht.verificationFollowsRequired.stamped
  have hclose : r.gracefulCloseAt.all (fun text => (X.chrono.parse text).isSome) = true := by
    rw [Option.all_eq_true]
    intro a ha
    obtain ⟨t, hstamp⟩ := ht.closeFollows.stamped a ha
    rw [hstamp.parse]
    rfl
  have hpeerPresent : (r.initializeCompletedAt.isNone || r.attemptedClientName.isSome) = true := by
    rw [← Option.not_isSome, hs.selectedPaired]
    cases hselected : r.selectedProtocolVersion with
    | none => rfl
    | some version => simp [(hs.selectedPeer (by rw [hselected]; rfl)).1]
  have hnegotiated : (decide (r.negotiatedProtocolVersion = r.selectedProtocolVersion)
      || r.negotiatedProtocolVersion.isNone) = true := by
    rcases hs.negotiated with hnone | hsame
    · simp [hnone]
    · simp [hsame]
  have hexclusive : (r.terminalFindingId.isNone || r.gracefulCloseAt.isNone) = true := by
    rcases hs.exclusive with hnone | hnone <;> simp [hnone]
  have hverified : (r.verificationToolName.isNone || r.requiredToolsValidatedAt.isSome) = true := by
    rw [← Option.not_isSome, hs.toolPaired, Option.not_isSome]
    exact ht.verificationFollowsRequired.present
  have hinitializedPresent := ht.initializedFollows.present
  have htoolsPresent := ht.toolsFollow.present
  simp only [← Option.not_isSome] at hpeerPresent hinitializedPresent htoolsPresent hverified
  simp only [← Option.not_isSome] at hnegotiated hexclusive
  simp only [McpRuntimeSessionRecord.validate, tryFromRecord, hinstants, steps_ok,
    hs.peer, hs.listing, pairedColumns, ← Option.not_isSome, Except.ok.injEq, exists_eq_left',
    hcompleted, hinitialized, htools, hrequired, hverification, Bool.and_eq_true, beq_iff_eq]
  exact ⟨_, ⟨hs.revision, trivial, ⟨hs.selectedPaired, hpeerPresent⟩,
    ⟨⟨hs.negotiatedPaired, hinitializedPresent⟩, hnegotiated⟩, trivial, htoolsPresent,
    ht.inOrder hstarted hle, hs.toolPaired, hs.toolName, hverified, hs.terminalId, rfl⟩,
    hs.hostVersion, hclose, hexclusive⟩

/- What one observation does to a row. -/

theorem Timely.last_refl {C : Chrono} (h : r.Timely C) :
    C.Before r.lastObservedAt r.lastObservedAt := by
  obtain ⟨last, hlast⟩ := h.last.right
  exact .refl hlast

theorem Timely.observe {C : Chrono} (h : r.Timely C) (hnow : C.Before r.lastObservedAt observedAt) :
    Timely C { r with lastObservedAt := observedAt } where
  last := h.last.trans hnow
  completed a ha := ⟨(h.completed a ha).1, (h.completed a ha).2.trans hnow⟩
  initialized a ha := ⟨(h.initialized a ha).1.trans hnow, (h.initialized a ha).2⟩
  tools a ha := ⟨(h.tools a ha).1.trans hnow, (h.tools a ha).2⟩
  required a ha := ⟨(h.required a ha).1.trans hnow, (h.required a ha).2⟩
  verification a ha := ⟨(h.verification a ha).1.trans hnow, (h.verification a ha).2⟩
  close := h.close

theorem Lawful.observe (h : r.Lawful X) (hnow : X.chrono.Before r.lastObservedAt observedAt) :
    Lawful X { r with lastObservedAt := observedAt } :=
  ⟨{ h.shaped with }, h.timely.observe hnow⟩

structure PeerColumns (r : McpRuntimeSessionRecord) (name version requested : String) : Prop where
  nameColumn : r.attemptedClientName = some name
  versionColumn : r.attemptedClientVersion = some version
  requestedColumn : r.requestedProtocolVersion = some requested
  client : (isManagedMcpClientInfoField name && isManagedMcpClientInfoField version) = true
  requestedBounded : isBoundedText requested maxProtocolFieldBytes
  selected : r.selectedProtocolVersion.all (isBoundedText · maxProtocolFieldBytes)
  negotiated : r.negotiatedProtocolVersion.all (isBoundedText · maxProtocolFieldBytes)

theorem PeerColumns.validatePeer {name version requested : String}
    (h : r.PeerColumns name version requested) : r.validatePeer = .ok () := by
  simp only [McpRuntimeSessionRecord.validatePeer, h.nameColumn, h.versionColumn, h.requestedColumn,
    steps_ok]
  exact ⟨h.client, h.requestedBounded, h.selected, h.negotiated⟩

theorem peerColumns_of (h : r.validatePeer = .ok ()) {name : String}
    (hname : r.attemptedClientName = some name) :
    ∃ version requested, r.PeerColumns name version requested := by
  unfold McpRuntimeSessionRecord.validatePeer at h
  split at h
  case h_1 h₁ h₂ h₃ =>
    rw [h₁] at hname
    cases hname
  case h_2 name' version requested h₁ h₂ h₃ =>
    simp only [steps_ok] at h
    obtain rfl := Option.some.inj (h₁.symm.trans hname)
    exact ⟨version, requested, h₁, h₂, h₃, h.1, h.2.1, h.2.2.1, h.2.2.2⟩
  case h_3 => cases h

theorem Shaped.selected_eq_none (h : r.Shaped) (hname : r.attemptedClientName = none) :
    r.selectedProtocolVersion = none := by
  rw [← Option.not_isSome_iff_eq_none]
  intro hselected
  simpa [hname] using (h.selectedPeer hselected).1

theorem Shaped.negotiated_eq_none (h : r.Shaped) (hselected : r.selectedProtocolVersion = none) :
    r.negotiatedProtocolVersion = none := by
  rcases h.negotiated with hnone | hsame
  · exact hnone
  · rw [hsame, hselected]

section
variable (h : r.Lawful X)
include h

theorem Lawful.attempt (client : ManagedMcpClientInfo) {requested : String}
    (hrequested : isBoundedText requested maxProtocolFieldBytes)
    (hname : r.attemptedClientName = none) :
    Lawful X { r with
      attemptedClientName := some client.name, attemptedClientVersion := some client.version
      requestedProtocolVersion := some requested } := by
  have hselected := h.shaped.selected_eq_none hname
  have hnegotiated := h.shaped.negotiated_eq_none hselected
  refine ⟨{ h.shaped with clientPaired := rfl, selectedPeer := fun _ => ⟨rfl, rfl⟩, peer := ?_ },
    { h.timely with }⟩
  refine PeerColumns.validatePeer ⟨rfl, rfl, rfl, ?_, hrequested, ?_, ?_⟩
  · simp [client.nameValid, client.versionValid]
  · simp [hselected]
  · simp [hnegotiated]

theorem Lawful.complete {selected : String}
    (hbounded : isBoundedText selected maxProtocolFieldBytes)
    (hname : r.attemptedClientName.isSome) (hcompleted : r.initializeCompletedAt = none) :
    Lawful X { r with
      selectedProtocolVersion := some selected
      initializeCompletedAt := some r.lastObservedAt } := by
  have hselected : r.selectedProtocolVersion = none := by
    have hpaired := h.shaped.selectedPaired
    rw [hcompleted] at hpaired
    simpa using hpaired.symm
  have hnegotiated := h.shaped.negotiated_eq_none hselected
  obtain ⟨name, hname⟩ := Option.isSome_iff_exists.mp hname
  obtain ⟨version, requested, hpeer⟩ := peerColumns_of h.shaped.peer hname
  have hnone : ∀ a, a ∉ r.initializedNotificationAt ∧ a ∉ r.toolsListObservedAt := by
    intro a
    refine ⟨fun ha => ?_, fun ha => ?_⟩
    · obtain ⟨b, hb, _⟩ := h.timely.initializedFollows a ha
      simp [hcompleted] at hb
    · obtain ⟨b, hb, _⟩ := h.timely.toolsFollow a ha
      simp [hcompleted] at hb
  refine ⟨{ h.shaped with
    selectedPaired := rfl
    selectedPeer := fun _ => ⟨by simp [hname], by simp [hpeer.requestedColumn]⟩
    negotiated := .inl hnegotiated
    peer := PeerColumns.validatePeer ⟨hpeer.nameColumn, hpeer.versionColumn,
      hpeer.requestedColumn, hpeer.client,
      hpeer.requestedBounded, by simpa using hbounded, hpeer.negotiated⟩ },
    { h.timely with
      completed := ?_
      initialized := fun a ha => absurd ha (hnone a).1
      tools := fun a ha => absurd ha (hnone a).2 }⟩
  rintro a ⟨⟩
  exact ⟨h.timely.last, h.timely.last_refl⟩

theorem Lawful.initialized {negotiated : String} (hcompleted : r.initializeCompletedAt.isSome)
    (hselected : r.selectedProtocolVersion = some negotiated) :
    Lawful X { r with
      negotiatedProtocolVersion := r.negotiatedProtocolVersion <|> some negotiated
      initializedNotificationAt := r.initializedNotificationAt <|> some r.lastObservedAt } := by
  obtain ⟨completed, hcompleted⟩ := Option.isSome_iff_exists.mp hcompleted
  cases hold : r.negotiatedProtocolVersion with
  | some old =>
    -- a repetition leaves both columns
    obtain ⟨notified, hnotified⟩ : ∃ a, r.initializedNotificationAt = some a := by
      rw [← Option.isSome_iff_exists, h.shaped.negotiatedPaired, hold]
      rfl
    have hrow : { r with
        negotiatedProtocolVersion := (some old <|> some negotiated : Option String)
        initializedNotificationAt :=
          r.initializedNotificationAt <|> some r.lastObservedAt } = r := by
      rw [hnotified]
      change { r with
        negotiatedProtocolVersion := some old, initializedNotificationAt := some notified } = r
      rw [← hold, ← hnotified]
    rwa [hrow]
  | none =>
    have hnotified : r.initializedNotificationAt = none := by
      have hpaired := h.shaped.negotiatedPaired
      simpa [hold] using hpaired
    obtain ⟨name, hname⟩ :=
      Option.isSome_iff_exists.mp (h.shaped.selectedPeer (by rw [hselected]; rfl)).1
    obtain ⟨version, requested, hpeer⟩ := peerColumns_of h.shaped.peer hname
    have hbounded := hpeer.selected
    rw [hselected] at hbounded
    rw [hnotified]
    refine ⟨{ h.shaped with
      negotiatedPaired := rfl
      negotiated := .inr hselected.symm
      peer := PeerColumns.validatePeer ⟨hpeer.nameColumn, hpeer.versionColumn,
        hpeer.requestedColumn, hpeer.client, hpeer.requestedBounded, hpeer.selected, hbounded⟩ },
      { h.timely with
        initialized := ?_
        verification := fun a ha => ?_ }⟩
    · rintro a ⟨⟩
      exact ⟨h.timely.last_refl, completed, hcompleted, (h.timely.completed _ hcompleted).2⟩
    · obtain ⟨b, hb, _⟩ := h.timely.verificationFollowsInitialized a ha
      simp [hnotified] at hb

theorem Lawful.listed {identities : List String} {present : Bool}
    (hidentities : returnedToolIdentitiesAreValid identities)
    (hcompleted : r.initializeCompletedAt.isSome)
    (hverification : ∀ a ∈ r.verificationToolObservedAt, present ∧ r.lastObservedAt ≤ a) :
    Lawful X { r with
      toolsListObservedAt := some r.lastObservedAt, returnedToolIdentities := some identities
      requiredToolsPresent := some present
      requiredToolsValidatedAt := if present then some r.lastObservedAt else none } := by
  obtain ⟨completed, hcompleted⟩ := Option.isSome_iff_exists.mp hcompleted
  have htools := (h.timely.completed _ hcompleted).2
  refine ⟨{ h.shaped with listing := ?_ }, { h.timely with
    tools := ?_, required := ?_, verification := fun a ha => ?_ }⟩
  · cases present <;>
      simp [validateToolsList, hidentities, ensure]
  · rintro a ⟨⟩
    exact ⟨h.timely.last_refl, completed, hcompleted, htools⟩
  · intro a ha
    cases present with
    | false => simp at ha
    | true =>
      obtain rfl : r.lastObservedAt = a := by simpa using ha
      exact ⟨h.timely.last_refl, _, rfl, h.timely.last_refl⟩
  · -- the verification was observed at this very instant
    obtain ⟨rfl, hle⟩ := hverification a ha
    obtain ⟨hbefore, _, hinitialized⟩ := h.timely.verification a ha
    obtain rfl := le_antisymm hle hbefore.text
    exact ⟨hbefore, ⟨_, rfl, hbefore⟩, hinitialized⟩

end

theorem managedHostRoundTripTool_isMcpToolName : isMcpToolName managedHostRoundTripTool := by decide

theorem Lawful.verified (h : r.Lawful X) (hinitialized : r.initializedNotificationAt.isSome)
    (hrequired : r.requiredToolsValidatedAt.isSome) :
    Lawful X { r with
      verificationToolName := some managedHostRoundTripTool
      verificationToolObservedAt := some r.lastObservedAt } := by
  obtain ⟨initialized, hinitialized⟩ := Option.isSome_iff_exists.mp hinitialized
  obtain ⟨required, hrequired⟩ := Option.isSome_iff_exists.mp hrequired
  refine ⟨{ h.shaped with toolName := managedHostRoundTripTool_isMcpToolName, toolPaired := rfl },
    { h.timely with verification := ?_ }⟩
  rintro a ⟨⟩
  exact ⟨h.timely.last_refl, ⟨required, hrequired, (h.timely.required _ hrequired).1⟩,
    initialized, hinitialized, (h.timely.initialized _ hinitialized).1⟩

theorem Lawful.closed (h : r.Lawful X) (hterminal : r.terminalFindingId = none) :
    Lawful X { r with gracefulCloseAt := r.gracefulCloseAt <|> some r.lastObservedAt } := by
  refine ⟨{ h.shaped with exclusive := .inl hterminal }, { h.timely with close := fun a ha => ?_ }⟩
  cases hclose : r.gracefulCloseAt with
  | none =>
    obtain rfl : r.lastObservedAt = a := by simpa [hclose] using ha
    exact h.timely.last
  | some old =>
    obtain rfl : old = a := by simpa [hclose] using ha
    exact h.timely.close old hclose

theorem Lawful.terminated (h : r.Lawful X) {findingId : String} (hid : isStableIdentifier findingId)
    (hclose : r.gracefulCloseAt = none) : Lawful X { r with terminalFindingId := some findingId } :=
  ⟨{ h.shaped with terminalId := by simpa using hid, exclusive := .inr hclose },
    { h.timely with }⟩

end McpRuntimeSessionRecord
end Volicord
