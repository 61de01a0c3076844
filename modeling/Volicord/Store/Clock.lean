import Volicord.Store.System

/-! The project clock. Two kinds of floor keep it from going back: the instant persisted in
`project_state.updated_at`, shared by all handles, and the last sample each handle has accepted. -/
namespace Volicord
open Result Transaction Transition
variable {ι A : Type} [DecidableEq ι] {persisted t : UtcTimestamp} {db : ProjectDb A} {X : External}

/-- The persisted text is the canonical one of an instant in the four-digit range. -/
def ProjectDb.UpdatedAt (X : External) (db : ProjectDb A) (t : UtcTimestamp) : Prop :=
  db.updatedAt = X.chrono.toCanonicalString t ∧
    X.chrono.ensureCanonicalRfc3339Representable t = true

theorem ProjectDb.UpdatedAt.parse
    (h : db.UpdatedAt X t) : X.chrono.parse db.updatedAt = some t := by
  rw [h.1]
  exact Chrono.parse_of_representable h.2

theorem ProjectDb.UpdatedAt.read (h : db.UpdatedAt X t)
    (hread : db.readUpdatedAt X = .ok persisted) : persisted = t := by
  have hparse := (parseRepresentable_ok hread).1
  rw [h.parse] at hparse
  exact (Option.some.inj hparse).symm

/-- A sample is kept or replaced by one that is not earlier. -/
def SampleAdvances (before after : Option UtcTimestamp) : Prop :=
  ∀ sample ∈ before, ∃ later ∈ after, sample ≤ later

theorem SampleAdvances.refl (sample : Option UtcTimestamp) : SampleAdvances sample sample :=
  fun t ht => ⟨t, ht, le_rfl⟩

theorem rememberClockSample_advances (handle : StoreHandle) (sample : UtcTimestamp) :
    SampleAdvances handle.lastClockSample (handle.rememberClockSample sample).lastClockSample := by
  intro t ht
  unfold StoreHandle.rememberClockSample
  split
  case isFalse => exact ⟨t, ht, le_rfl⟩
  case isTrue hlater =>
    rw [Option.mem_def.mp ht] at hlater
    exact ⟨sample, rfl, le_of_lt (by simpa using hlater)⟩

theorem projectCurrentUtcTimestamp_ok {now : String} {localFloor : Option UtcTimestamp}
    (h : projectCurrentUtcTimestamp X now db localFloor = .ok t) : ∃ persisted, db.readUpdatedAt X =
    .ok persisted ∧ persisted ≤ t ∧ ∀ floor ∈ localFloor, floor ≤ t := by
  obtain ⟨sqliteNow, _, h⟩ := bind_eq_ok.mp h
  obtain ⟨persisted, hread, h⟩ := bind_eq_ok.mp h
  obtain ⟨_, _, h⟩ := bind_eq_ok.mp h
  obtain rfl := Except.ok.inj h
  refine ⟨persisted, hread, ?_⟩
  cases localFloor with
  | none => exact ⟨le_max_right .., by simp⟩
  | some floor =>
    refine ⟨le_max_of_le_left (le_max_right ..), ?_⟩
    rintro _ ⟨⟩
    exact le_max_right ..

/-- What one operation answers about the clock, given the persisted floor in front of it. -/
def ClockAnswer (X : External) (persisted : UtcTimestamp) (e : StoreEvent ι A) : Prop :=
  match e.op, e.result with
  | .currentTimestamp i _, .timestamp (.ok t) =>
    persisted ≤ t ∧ (∀ sample ∈ (e.before.handles i).lastClockSample, sample ≤ t) ∧
      (e.after.handles i).lastClockSample = some t
  | .commit i call, .commit (.ok (.committed ..)) => ∃ committedAt,
    e.after.db.UpdatedAt X committedAt ∧
      (∀ row ∈ e.after.db.authorityEvents.drop e.before.db.authorityEvents.length,
        row.createdAt = X.chrono.toCanonicalString committedAt) ∧
      (e.after.handles i).lastClockSample = some committedAt ∧ persisted ≤ committedAt ∧
      (∀ sample ∈ (e.before.handles i).lastClockSample, sample ≤ committedAt) ∧
      ∀ floor ∈ call.input.clockFloor, floor ≤ committedAt
  | _, _ => True

structure ClockLaw (X : External) (e : StoreEvent ι A) : Prop where
  updatedAt : ∃ persisted persisted', e.before.db.UpdatedAt X persisted ∧
    e.after.db.UpdatedAt X persisted' ∧ persisted ≤ persisted' ∧ ClockAnswer X persisted e
  samples : ∀ i, SampleAdvances (e.before.handles i).lastClockSample
    (e.after.handles i).lastClockSample

theorem setHandle_advances {s : StoreSystem ι A} {i : ι} {handle : StoreHandle}
    (h : SampleAdvances (s.handles i).lastClockSample handle.lastClockSample) (j : ι) :
    SampleAdvances (s.handles j).lastClockSample
      ((s.setHandle i handle).handles j).lastClockSample := by
  by_cases hj : j = i
  · subst hj
    simpa [StoreSystem.setHandle] using h
  · simpa [StoreSystem.setHandle, hj] using SampleAdvances.refl (s.handles j).lastClockSample

/-- The step lemma: from a canonical floor on, every operation obeys the law. -/
theorem storeStep_clock (X : External) (R : AggregateReaders A) (s : StoreSystem ι A)
    (op : StoreOp ι A) (hs : s.db.UpdatedAt X persisted) :
    ClockLaw X (fire (storeStep X R) s op) := by
  cases op with
  | commit i call =>
    rcases commitWith_cases X R (s.handles i) call s.db with
      ⟨context, current, committedAt, response, hresult, hhandle, hfloors, heffect⟩
        | ⟨hresult, hhandle, hdb⟩
    · have hpersisted := hs.read (decodeProjectState_ok heffect.decoded).2
      have hbefore := heffect.not_before
      rw [hpersisted] at hbefore
      obtain ⟨hsample, hexplicit⟩ := le_laterOf hfloors
      have hadvances : SampleAdvances (s.handles i).lastClockSample
          (commitWith X R (s.handles i) call s.db).handle.lastClockSample := by
        rw [hhandle]
        exact fun sample hmem => ⟨committedAt, rfl, hsample sample hmem⟩
      refine ⟨⟨persisted, committedAt, hs, ⟨heffect.updated, heffect.representable⟩, hbefore, ?_⟩,
        setHandle_advances hadvances⟩
      obtain ⟨first, _, happended⟩ := heffect.appended
      simp only [ClockAnswer, fire, storeStep, hresult]
      refine ⟨committedAt, ⟨heffect.updated, heffect.representable⟩, fun row hrow => ?_, ?_,
        hbefore, hsample, hexplicit⟩
      · rw [happended, List.drop_left] at hrow
        exact (mem_eventRows hrow).2.1
      · simp [StoreSystem.setHandle, hhandle]
    · have hkept : (storeStep X R s (.commit i call)).2.db.UpdatedAt X persisted := by
        change (commitWith X R (s.handles i) call s.db).db.UpdatedAt X persisted
        rw [hdb]
        exact hs
      refine ⟨⟨persisted, persisted, hs, hkept, le_rfl, ?_⟩, setHandle_advances ?_⟩
      · simp only [ClockAnswer, fire, storeStep]
        split
        · simp_all
        · rename_i hcommitted
          exact absurd (StoreAnswer.commit.inj hcommitted) (hresult _ _ _ _)
        · trivial
      · rw [hhandle]
        exact SampleAdvances.refl _
  | currentTimestamp i now =>
    cases hnow : projectCurrentUtcTimestamp X now s.db (s.handles i).lastClockSample with
    | error error =>
      have hstep : storeStep X R s (.currentTimestamp i now) = (.timestamp (.error error), s) := by
        simp [storeStep, hnow]
      refine ⟨⟨persisted, persisted, hs, ?_, le_rfl, ?_⟩, fun j => ?_⟩
      · simpa [fire, hstep] using hs
      · simp [ClockAnswer, fire, hstep]
      · simpa [fire, hstep] using SampleAdvances.refl _
    | ok t =>
      obtain ⟨floor, hread, hfloor, hsample⟩ := projectCurrentUtcTimestamp_ok hnow
      rw [hs.read hread] at hfloor
      have hstep : storeStep X R s (.currentTimestamp i now) = (.timestamp (.ok t),
          s.setHandle i { s.handles i with lastClockSample := some t }) := by
        simp [storeStep, hnow]
      refine ⟨⟨persisted, persisted, hs, ?_, le_rfl, ?_⟩, fun j => ?_⟩
      · simpa [fire, hstep, StoreSystem.setHandle] using hs
      · simpa [ClockAnswer, fire, hstep, StoreSystem.setHandle] using ⟨hfloor, hsample⟩
      · have hadvances : SampleAdvances (s.handles i).lastClockSample (some t) :=
          fun sample hmem => ⟨t, rfl, hsample sample hmem⟩
        have hmoved : SampleAdvances (s.handles j).lastClockSample ((s.setHandle i
            { s.handles i with lastClockSample := some t }).handles j).lastClockSample :=
          setHandle_advances hadvances j
        simpa [fire, hstep] using hmoved
  | rememberClockSample i sample =>
    refine ⟨⟨persisted, persisted, hs, hs, le_rfl, trivial⟩, ?_⟩
    exact setHandle_advances (rememberClockSample_advances _ sample)
  | advanceProjectUtcFloor sample =>
    have hsamples : ∀ j, SampleAdvances (s.handles j).lastClockSample
        ((storeStep X R s (.advanceProjectUtcFloor sample)).2.handles j).lastClockSample := by
      intro j
      simp only [storeStep]
      split <;> exact SampleAdvances.refl _
    rcases storeStep_cases X R s (.advanceProjectUtcFloor sample) with
      ⟨_, _, _, _, _, _, hother, _⟩ | ⟨_, floor, ⟨⟩, hread, hrange, hdb⟩ | ⟨_, hdb⟩
    · cases hother
    · rw [hs.read hread] at hrange hdb
      refine ⟨⟨persisted, max persisted sample, hs, ?_, le_max_left .., trivial⟩, hsamples⟩
      exact ⟨congrArg ProjectDb.updatedAt hdb, hrange⟩
    · exact ⟨⟨persisted, persisted, hs, hdb.symm ▸ hs, le_rfl, trivial⟩, hsamples⟩

/-- In every interleaving of the handles of a project, neither the persisted instant nor a
handle's sample ever goes back, and every instant given out respects the floors in front of
it. -/
theorem project_clock_monotone (X : External) (R : AggregateReaders A) (s : StoreSystem ι A)
    (ops : List (StoreOp ι A)) (persisted : UtcTimestamp) (hs : s.db.UpdatedAt X persisted) :
    (∀ e ∈ Transition.trace (storeStep X R) s ops, ClockLaw X e) ∧
    (∃ persisted', (Transition.run (storeStep X R) s ops).db.UpdatedAt X persisted' ∧
      X.chrono.parse (Transition.run (storeStep X R) s ops).db.updatedAt = some persisted' ∧
      persisted ≤ persisted') ∧
    ∀ i, SampleAdvances (s.handles i).lastClockSample
      ((Transition.run (storeStep X R) s ops).handles i).lastClockSample := by
  induction ops generalizing s persisted with
  | nil =>
    exact ⟨by simp [Transition.trace], ⟨persisted, hs, hs.parse, le_rfl⟩,
      fun i => SampleAdvances.refl _⟩
  | cons op ops ih =>
    have hlaw := storeStep_clock X R s op hs
    obtain ⟨first, next, hfirst, hnext, hle, _⟩ := hlaw.updatedAt
    have hsame : first = persisted := Option.some.inj (hfirst.parse.symm.trans hs.parse)
    subst hsame
    obtain ⟨htrace, ⟨last, hlast, hparse, hnextle⟩, hrest⟩ := ih _ next hnext
    refine ⟨fun e he => ?_, ⟨last, hlast, hparse, le_trans hle hnextle⟩, fun i => ?_⟩
    · rcases List.mem_cons.mp he with rfl | he
      · exact hlaw
      · exact htrace e he
    · intro sample hsample
      obtain ⟨middle, hmiddle, hle₁⟩ := hlaw.samples i sample hsample
      obtain ⟨later, hlater, hle₂⟩ := hrest i middle hmiddle
      exact ⟨later, hlater, le_trans hle₁ hle₂⟩

/-- A commit behind a sample that went back. -/
theorem project_clock_monotone_intake :
    ∃ persisted, (Transition.run (storeStep plainExternal noAggregates) emptyProject
        [.rememberClockSample () 3, .rememberClockSample () 2, .commit () intakeCall]).db.UpdatedAt
          plainExternal persisted ∧ 1 ≤ persisted := by
  obtain ⟨_, ⟨persisted, hupdated, _, hle⟩, _⟩ :=
    project_clock_monotone plainExternal noAggregates emptyProject
      [.rememberClockSample () 3, .rememberClockSample () 2, .commit () intakeCall] 1
      ⟨rfl, by decide⟩
  exact ⟨persisted, hupdated, hle⟩

end Volicord
