import Volicord.Lib.HashChain
import Volicord.Store.System

/-! The authority event log as a hash chain: an invariant of every run from an empty log. -/
namespace Volicord
open Result Transaction HashChain
variable {ι A : Type} [DecidableEq ι] {X : External} {rows : List AuthorityEventRow}

abbrev LinkedEvents := Linked AuthorityEventRow.eventSeq AuthorityEventRow.previousEventHash
  AuthorityEventRow.eventHash

theorem eventRows_linked (X : External) (batch : EventBatch) (events : List PendingTaskEvent)
    (eventSeq : Int) (previous : Option String) :
    LinkedEvents eventSeq previous (eventRows X batch eventSeq previous events) := by
  induction events generalizing eventSeq previous with
  | nil => trivial
  | cons event events ih => exact ⟨rfl, rfl, ih _ _⟩

theorem latestEvent_of_linked {n : Int} {p : Option String}
    (h : LinkedEvents n p rows) : latestEvent rows = rows.getLast? := by
  induction rows generalizing n p with
  | nil => rfl
  | cons row rows ih =>
    have hrest := ih h.2.2
    cases rows with
    | nil => rfl
    | cons next rows =>
      have hlast : (next :: rows).getLast? = some ((next :: rows).getLast (by simp)) :=
        List.getLast?_eq_getLast_of_ne_nil (by simp)
      have hseq := h.2.2.seq_getElem rows.length (by simp)
      have hget : (next :: rows)[rows.length] = (next :: rows).getLast (by simp) := by
        simp [List.getLast_eq_getElem]
      rw [hget] at hseq
      have hn := h.1
      have hle : ¬ ((next :: rows).getLast (by simp)).eventSeq < row.eventSeq := by omega
      rw [latestEvent, hrest, hlast, List.getLast?_cons_cons, hlast]
      exact if_neg hle

theorem getLast_seq_of_linked (h : LinkedEvents 1 none rows) :
    ((latestEvent rows).map (·.eventSeq)).getD 0 = rows.length := by
  rw [latestEvent_of_linked h]
  cases rows with
  | nil => rfl
  | cons row rows =>
    have hseq := h.seq_getElem rows.length (by simp)
    have hget : (row :: rows)[rows.length] = (row :: rows).getLast (by simp) := by
      simp [List.getLast_eq_getElem]
    rw [hget] at hseq
    rw [List.getLast?_eq_getLast_of_ne_nil (by simp)]
    simp only [Option.map_some, Option.getD_some, hseq, List.length_cons]
    omega

/-- The stored instant `a` is not after the stored instant `b`. -/
def NotAfter (X : External) (a b : String) : Prop :=
  ∃ t u, X.chrono.parse a = some t ∧ X.chrono.parse b = some u ∧ t ≤ u

theorem NotAfter.trans {a b c : String} (hab : NotAfter X a b)
    (hbc : NotAfter X b c) : NotAfter X a c := by
  obtain ⟨t, u, ht, hu, htu⟩ := hab
  obtain ⟨u', v, hu', hv, huv⟩ := hbc
  obtain rfl : u = u' := Option.some.inj (hu.symm.trans hu')
  exact ⟨t, v, ht, hv, htu.trans huv⟩

/-- The log is one chain, bounded by the version and the clock of the project header. -/
structure ChainInv (X : External) (db : ProjectDb A) : Prop where
  linked : LinkedEvents 1 none db.authorityEvents
  hashed : ∀ row ∈ db.authorityEvents, row.eventHash = authorityEventHash X row
  versions : db.authorityEvents.Pairwise fun a b => a.stateVersion ≤ b.stateVersion
  version_le : ∀ row ∈ db.authorityEvents, row.stateVersion ≤ db.stateVersion
  instants : db.authorityEvents.Pairwise fun a b => NotAfter X a.createdAt b.createdAt
  instant_le : ∀ row ∈ db.authorityEvents, NotAfter X row.createdAt db.updatedAt

/-- A list all of whose entries share one bound and one column is pairwise ordered. -/
theorem pairwise_append_of_bound {α : Type} {r : α → α → Prop} {old new : List α}
    (hold : old.Pairwise r) (hcross : ∀ a ∈ old, ∀ b ∈ new, r a b)
    (hnew : ∀ a ∈ new, ∀ b ∈ new, r a b) : (old ++ new).Pairwise r :=
  List.pairwise_append.mpr ⟨hold, List.pairwise_of_forall_mem_list hnew, hcross⟩

theorem ChainInv.commit {call : CommitCall A} {context : VerifiedReplayContext}
    {db db' : ProjectDb A} {current : ProjectStateHeader} {committedAt : UtcTimestamp}
    {responseJson : String} (hinv : ChainInv X db)
    (h : CommitEffect X call context db db' current committedAt responseJson) : ChainInv X db' := by
  obtain ⟨first, hfirst, happended⟩ := h.appended
  have hversion := (decodeProjectState_ok h.decoded).1
  have hread := parseRepresentable_ok (decodeProjectState_ok h.decoded).2
  have hparse := Chrono.parse_of_representable h.representable
  have hfirst_eq : first = 1 + db.authorityEvents.length := by
    unfold nextEventSeq at hfirst
    simp only [getLast_seq_of_linked hinv.linked] at hfirst
    split at hfirst
    · have := Except.ok.inj hfirst
      omega
    · simp at hfirst
  have hprevious : previousEventHash db = lastHash (·.eventHash) none db.authorityEvents := by
    rw [lastHash_eq_getLast?, previousEventHash, latestEvent_of_linked hinv.linked, Option.or_none]
  have hnow : NotAfter X db.updatedAt (X.chrono.toCanonicalString committedAt) :=
    ⟨_, _, hread.1, hparse, h.not_before⟩
  have hsame : NotAfter X (X.chrono.toCanonicalString committedAt)
      (X.chrono.toCanonicalString committedAt) := ⟨_, _, hparse, hparse, le_rfl⟩
  -- every new row carries the committed version and the committed instant
  have hnew : ∀ row ∈ eventRows X (call.eventBatch X context db.projectId current committedAt)
      first (previousEventHash db) call.input.events,
      row.stateVersion = db.stateVersion + 1 ∧
      row.createdAt = X.chrono.toCanonicalString committedAt ∧
      row.eventHash = authorityEventHash X row := by
    intro row hrow
    obtain ⟨hv, ht, hh⟩ := mem_eventRows hrow
    exact ⟨by rw [hv, hversion]; rfl, ht, hh⟩
  rw [hprevious, hfirst_eq] at hnew
  constructor
  · rw [happended, hprevious, hfirst_eq]
    exact linked_append.mpr ⟨hinv.linked, eventRows_linked ..⟩
  all_goals rw [happended, hprevious, hfirst_eq]
  · intro row hrow
    rcases List.mem_append.mp hrow with ho | hn
    · exact hinv.hashed row ho
    · exact (hnew row hn).2.2
  · refine pairwise_append_of_bound hinv.versions (fun a ha b hb => ?_) (fun a ha b hb => ?_)
    · have := hinv.version_le a ha
      rw [(hnew b hb).1]
      omega
    · rw [(hnew a ha).1, (hnew b hb).1]
  · intro row hrow
    rw [h.version]
    rcases List.mem_append.mp hrow with ho | hn
    · have := hinv.version_le row ho
      omega
    · exact (hnew row hn).1.le
  · refine pairwise_append_of_bound hinv.instants (fun a ha b hb => ?_) (fun a ha b hb => ?_)
    · rw [(hnew b hb).2.1]
      exact (hinv.instant_le a ha).trans hnow
    · rw [(hnew a ha).2.1, (hnew b hb).2.1]
      exact hsame
  · intro row hrow
    rw [h.updated]
    rcases List.mem_append.mp hrow with ho | hn
    · exact (hinv.instant_le row ho).trans hnow
    · rw [(hnew row hn).2.1]
      exact hsame

theorem ChainInv.step {R : AggregateReaders A} {s : StoreSystem ι A}
    (op : StoreOp ι A) (hinv : ChainInv X s.db) : ChainInv X (storeStep X R s op).2.db := by
  rcases storeStep_cases X R s op with
    ⟨_, _, _, _, _, _, _, _, heffect⟩ | ⟨sample, persisted, _, hread, hrepr, hdb⟩ | ⟨_, hdb⟩
  · exact hinv.commit heffect
  · have hfloor : NotAfter X s.db.updatedAt (X.chrono.toCanonicalString (max persisted sample)) :=
      ⟨_, _, (parseRepresentable_ok hread).1, Chrono.parse_of_representable hrepr, le_max_left _ _⟩
    rw [hdb]
    exact { hinv with instant_le := fun row hrow => (hinv.instant_le row hrow).trans hfloor }
  · rwa [hdb]

def AuthorityEventRow.pending (row : AuthorityEventRow) : PendingTaskEvent :=
  ⟨row.eventId, row.taskId, row.changeUnitId, row.eventType, row.payloadJson⟩

theorem eventRows_pending (X : External) (batch : EventBatch) (events : List PendingTaskEvent)
    (eventSeq : Int) (previous : Option String) :
    (eventRows X batch eventSeq previous events).map (·.pending) = events := by
  induction events generalizing eventSeq previous with
  | nil => rfl
  | cons event events ih =>
    rw [eventRows, List.map_cons, ih]
    rfl

/-- One gap-free chain of events, position by position. -/
structure EventChain (X : External) (rows : List AuthorityEventRow) : Prop where
  sequence : ∀ i (h : i < rows.length), rows[i].eventSeq = i + 1
  first : ∀ row, rows[0]? = some row → row.previousEventHash = none
  linked : ∀ i row next, rows[i]? = some row → rows[i + 1]? = some next →
    next.previousEventHash = some row.eventHash
  hashed : ∀ row ∈ rows, row.eventHash = authorityEventHash X row
  versions : rows.Pairwise fun a b => a.stateVersion ≤ b.stateVersion
  instants : rows.Pairwise fun a b => NotAfter X a.createdAt b.createdAt

theorem ChainInv.eventChain {db : ProjectDb A} (h : ChainInv X db) :
    EventChain X db.authorityEvents where
  sequence i hi := by
    rw [h.linked.seq_getElem i hi]
    omega
  first row hrow := h.linked.prev_head hrow
  linked i row next hrow hnext := h.linked.prev_succ hrow hnext
  hashed := h.hashed
  versions := h.versions
  instants := h.instants

/-- From an empty log every run keeps the log one chain, and a commit appends exactly its
own events, in input order. -/
theorem authorityEvents_chain (X : External) (R : AggregateReaders A) (s : StoreSystem ι A)
    (hempty : s.db.authorityEvents = []) (ops : List (StoreOp ι A)) :
    EventChain X (Transition.run (storeStep X R) s ops).db.authorityEvents ∧
    ∀ e ∈ Transition.trace (storeStep X R) s ops, ∃ rows,
      e.after.db.authorityEvents = e.before.db.authorityEvents ++ rows ∧
      rows.map (·.pending) = match e.op, e.result with
        | .commit _ call, .commit (.ok (.committed ..)) => call.input.events
        | _, _ => [] := by
  constructor
  · refine (Transition.run_invariant (I := fun s => ChainInv X s.db)
      (fun _ op h => h.step op) s ops ?_).eventChain
    constructor <;> simp [hempty, Linked]
  · intro e he
    rw [Transition.eq_fire_of_mem_trace he]
    rcases storeStep_cases X R e.before e.op with
      ⟨i, call, _, _, _, _, hop, hresult, heffect⟩ | ⟨_, _, hop, _, _, hdb⟩ | ⟨hne, hdb⟩
    · obtain ⟨first, _, happended⟩ := heffect.appended
      refine ⟨_, happended, ?_⟩
      simp only [Transition.fire, hop] at hresult ⊢
      rw [hresult, eventRows_pending]
    · refine ⟨[], by simp [Transition.fire, hdb], ?_⟩
      simp [Transition.fire, hop]
    · refine ⟨[], by simp [Transition.fire, hdb], ?_⟩
      simp only [Transition.fire, List.map_nil]
      split
      · exact absurd ‹_› (hne _ _ _ _)
      · rfl

/-- A call after that intake, with two events. -/
def laterCall : CommitCall Unit :=
  { intakeCall with
    input := { intakeCall.input with
      idempotencyKey := some "l", expectedStateVersion := some 1
      events := [⟨"second", some "task", none, "scope_updated", "o)"⟩,
        ⟨"third", some "task", none, "task_updated", "o)"⟩] } }

theorem authorityEvents_chain_intake :
    (Transition.run (storeStep plainExternal noAggregates) emptyProject
      [.commit () intakeCall, .commit () laterCall]).db.authorityEvents.length = 3 ∧
    EventChain plainExternal (Transition.run (storeStep plainExternal noAggregates) emptyProject
      [.commit () intakeCall, .commit () laterCall]).db.authorityEvents :=
  ⟨by decide +kernel, (authorityEvents_chain plainExternal noAggregates emptyProject rfl _).1⟩

end Volicord
