import Mathlib.Data.List.Infix
import Mathlib.Data.List.Nodup
import Mathlib.Data.String.Basic

/-! Controlled values shared by the Store and Core: texts as Rust sees them, UTC
instants, method names, actor provenance and operation categories. -/
namespace Volicord
namespace Text

/-- The Unicode `White_Space` characters, which Rust's `str::trim` strips. -/
def isWhitespace (c : Char) : Bool :=
  (0x9 ≤ c.val && c.val ≤ 0xD) || c.val = 0x20 || c.val = 0x85 || c.val = 0xA0 ||
  c.val = 0x1680 || (0x2000 ≤ c.val && c.val ≤ 0x200A) || c.val = 0x2028 || c.val = 0x2029 ||
  c.val = 0x202F || c.val = 0x205F || c.val = 0x3000

/-- `text.trim().is_empty()`. -/
def isBlank (text : String) : Bool := text.toList.all isWhitespace

def trim (text : String) : String :=
  String.ofList (((text.toList.dropWhile isWhitespace).reverse.dropWhile isWhitespace).reverse)

/-- `text.trim() == text`. -/
def isTrimmed (text : String) : Bool :=
  !(text.toList.head?.any isWhitespace) && !(text.toList.getLast?.any isWhitespace)

def startsWith (text start : String) : Bool := start.toList.isPrefixOf text.toList

/-- `text.strip_prefix(start)`. -/
def strip (start text : String) : Option String :=
  if startsWith text start then some (String.ofList (text.toList.drop start.toList.length))
    else none

theorem strip_append (start rest : String) : strip start (start ++ rest) = some rest := by
  have h : start.toList.isPrefixOf (start.toList ++ rest.toList) := by simp
  simp [strip, startsWith, h]

theorem strip_eq_some {start text rest : String} (h : strip start text = some rest) :
    text = start ++ rest := by
  unfold strip at h
  split at h
  case isFalse => simp at h
  case isTrue hp =>
    obtain ⟨tail, htail⟩ := List.isPrefixOf_iff_prefix.mp hp
    have hrest : String.ofList tail = rest := by simpa [← htail] using h
    rw [← String.toList_inj]
    simp [← hrest, htail]

/-- There are always as many texts as an id generator needs that nobody uses yet. -/
theorem exists_fresh (used : List String) (count : Nat) : ∃ ids : List String, ids.length = count ∧
    ids.Nodup ∧ ∀ id ∈ ids, isBlank id = false ∧ id ∉ used := by
  let text (n : Nat) : String := String.ofList (List.replicate (n + 1) 'x')
  have hlength : ∀ n, (text n).length = n + 1 := fun n => by simp [text]
  -- texts longer than every one in use
  obtain ⟨bound, hbound⟩ : ∃ bound, ∀ id ∈ used, id.length ≤ bound := by
    induction used with
    | nil => exact ⟨0, by simp⟩
    | cons first rest ih =>
      obtain ⟨bound, hrest⟩ := ih
      refine ⟨max first.length bound, fun id hid => ?_⟩
      rcases List.mem_cons.mp hid with rfl | hid
      · exact le_max_left ..
      · exact le_trans (hrest id hid) (le_max_right ..)
  refine ⟨(List.range count).map fun i => text (bound + i), by simp, ?_, ?_⟩
  · refine List.Nodup.map (fun i j hij => ?_) List.nodup_range
    have hsame := congrArg String.length hij
    simp only [hlength] at hsame
    omega
  · intro id hid
    obtain ⟨i, _, rfl⟩ := List.mem_map.mp hid
    refine ⟨?_, fun hused => ?_⟩
    · simp [isBlank, text, List.replicate_succ, isWhitespace]
    · have hle := hbound _ hused
      rw [hlength] at hle
      omega

end Text

/-- A UTC instant in nanoseconds; `DateTime<Utc>` compares instants. -/
abbrev UtcTimestamp := Int

/-- The parts of `chrono` the code calls. -/
structure Chrono where
  year : UtcTimestamp → Int
  toCanonicalString : UtcTimestamp → String
  parse : String → Option UtcTimestamp

/-- The four-digit-year check with its own print and parse round trip. -/
def Chrono.ensureCanonicalRfc3339Representable (C : Chrono) (t : UtcTimestamp) : Bool :=
  decide (0 ≤ C.year t ∧ C.year t ≤ 9999) &&
  match C.parse (C.toCanonicalString t) with
  | none => false
  | some reparsed => reparsed == t && C.toCanonicalString reparsed == C.toCanonicalString t

theorem Chrono.parse_of_representable {C : Chrono} {t : UtcTimestamp}
    (h : C.ensureCanonicalRfc3339Representable t) : C.parse (C.toCanonicalString t) = some t := by
  unfold ensureCanonicalRfc3339Representable at h
  cases hp : C.parse (C.toCanonicalString t) with
  | none => simp [hp] at h
  | some reparsed =>
    simp only [hp, Bool.and_eq_true, beq_iff_eq] at h
    rw [h.2.1]

inductive MethodName where
  | intake | updateScope | recordShapingCheckpoint | finalizeAdvice | advanceTask | status
  | getOperationResult | checkClose | prepareEvidenceCapture | prepareWrite | stageArtifact
  | recordRun | requestUserAction | resolveUserAction | reconcileChanges | closeTask
deriving DecidableEq

namespace MethodName

def all : List MethodName :=
  [.intake, .updateScope, .recordShapingCheckpoint, .finalizeAdvice, .advanceTask, .status,
   .getOperationResult, .checkClose, .prepareEvidenceCapture, .prepareWrite, .stageArtifact,
   .recordRun, .requestUserAction, .resolveUserAction, .reconcileChanges, .closeTask]

def asStr : MethodName → String
  | .intake => "volicord.intake"
  | .updateScope => "volicord.update_scope"
  | .recordShapingCheckpoint => "volicord.record_shaping_checkpoint"
  | .finalizeAdvice => "volicord.finalize_advice"
  | .advanceTask => "volicord.advance_task"
  | .status => "volicord.status"
  | .getOperationResult => "volicord.get_operation_result"
  | .checkClose => "volicord.check_close"
  | .prepareEvidenceCapture => "volicord.prepare_evidence_capture"
  | .prepareWrite => "volicord.prepare_write"
  | .stageArtifact => "volicord.stage_artifact"
  | .recordRun => "volicord.record_run"
  | .requestUserAction => "volicord.request_user_action"
  | .resolveUserAction => "volicord.resolve_user_action"
  | .reconcileChanges => "volicord.reconcile_changes"
  | .closeTask => "volicord.close_task"

/-- `serde_json::from_value::<MethodName>` on a string. -/
def ofStr (text : String) : Option MethodName := all.find? fun m => m.asStr == text

theorem ofStr_asStr (m : MethodName) : ofStr m.asStr = some m := by
  cases m <;> decide

end MethodName

inductive OperationCategory where
  | read | agentWorkflow | userOnly | adminLocal | localRecovery
deriving DecidableEq

namespace OperationCategory

def all : List OperationCategory := [.read, .agentWorkflow, .userOnly, .adminLocal, .localRecovery]

def asStr : OperationCategory → String
  | .read => "read"
  | .agentWorkflow => "agent_workflow"
  | .userOnly => "user_only"
  | .adminLocal => "admin_local"
  | .localRecovery => "local_recovery"

def ofStr (text : String) : Option OperationCategory := all.find? fun c => c.asStr == text

@[simp] theorem ofStr_asStr (c : OperationCategory) : ofStr c.asStr = some c := by
  cases c <;> decide

end OperationCategory

/-- Durable actor provenance; an Agent Connection id is any text. -/
inductive ActorSource where
  | agentConnection (connectionId : String)
  | localUser
  | system
deriving DecidableEq

namespace ActorSource

def toCanonicalString : ActorSource → String
  | .agentConnection connectionId => "agent_connection:" ++ connectionId
  | .localUser => "local_user"
  | .system => "system"

def parse (raw : String) : Option ActorSource :=
  if raw = "local_user" then some .localUser
  else if raw = "system" then some .system
  else match Text.strip "agent_connection:" raw with
    | none => none
    | some connectionId => if connectionId = "" then none else some (.agentConnection connectionId)

def agentConnectionId : ActorSource → Option String
  | .agentConnection connectionId => some connectionId
  | .localUser | .system => none

theorem parse_of_ne {raw : String} (hu : raw ≠ "local_user") (hs : raw ≠ "system") :
    parse raw = (Text.strip "agent_connection:" raw).bind fun connectionId =>
      if connectionId = "" then none else some (.agentConnection connectionId) := by
  rw [parse, if_neg hu, if_neg hs]
  cases Text.strip "agent_connection:" raw <;> rfl

/-- Printing loses nothing unless the connection id is empty, and then nothing parses. -/
theorem parse_toCanonicalString {a b : ActorSource}
    (h : parse a.toCanonicalString = some b) : b = a := by
  cases a with
  | localUser =>
    have hp : parse "local_user" = some .localUser := by decide
    exact (Option.some.inj (hp.symm.trans h)).symm
  | system =>
    have hp : parse "system" = some .system := by decide
    exact (Option.some.inj (hp.symm.trans h)).symm
  | agentConnection connectionId =>
    have hu : "agent_connection:" ++ connectionId ≠ "local_user" := by
      intro he
      simpa using congrArg (fun s : String => s.toList.head?) he
    have hs : "agent_connection:" ++ connectionId ≠ "system" := by
      intro he
      simpa using congrArg (fun s : String => s.toList.head?) he
    change parse ("agent_connection:" ++ connectionId) = some b at h
    rw [parse_of_ne hu hs, Text.strip_append, Option.bind_some] at h
    split at h
    · simp at h
    · exact (Option.some.inj h).symm

end ActorSource
end Volicord
