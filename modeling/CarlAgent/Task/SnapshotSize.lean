import Mathlib.Algebra.Order.BigOperators.Group.List
import CarlAgent.Task.Effect
import CarlAgent.Task.Encoding

/-!
# How much an event adds to a snapshot

The column of a snapshot is bounded, so an event is refused when it makes the
JSON text too long.  The events that close the work of an epoch, and the one
that starts an epoch, add at most `eventBytes`.
-/

namespace CarlAgent.Task

open List Foundation Json OperationEvidenceState

variable {sequence : Nat} {state : TaskSnapshot}

def eventBytes : Nat := 256

def isSmallEvent : TaskEvent → Bool
  | .stateTransitioned _ _ _ => true
  | .epochStarted _ _ => true
  | .epochFinished _ _ => true
  | .operationTransitioned _ _ _ evidenceSequences =>
    decide (evidenceSequences.length ≤ 1)
  | .operationEvidenceRecorded _ _ => true
  | _ => false

theorem size_sequence_le (h : sequence < 10 ^ 19) : (nat sequence).size ≤ 19 :=
  size_nat_le (by omega) h

theorem TaskStatus.size_asStr_le (status : TaskStatus) : (str status.asStr).size ≤ 15 := by
  cases status <;> decide

theorem OperationStatus.size_asStr_le (status : OperationStatus) :
    (str status.asStr).size ≤ 17 := by
  cases status <;> decide

variable {evidence : OperationEvidenceState} {next : TaskSnapshot} {event : TaskEvent}
  {kind : IdKind}

theorem TypedId.length_text (id : TypedId kind) : id.text.toList.length = 36 := by
  have hlength : (Text.hexadecimal 32 id.uuid.toNat).length = 32 :=
    Text.length_hexadecimal (by omega) id.uuid.isLt
  simp only [TypedId.text, String.toList_ofList, length_append,
    length_cons, length_take, length_drop, hlength]
  omega

theorem TypedId.size_toJson_le (id : TypedId kind) : id.toJson.size ≤ 218 := by
  have hsize := size_str_le id.text
  rw [id.length_text] at hsize
  exact hsize

theorem OperationEvidenceState.size_record_le
    (hfresh : evidence.recordedSequences.contains sequence = false)
    (hsequence : sequence < 10 ^ 19) :
    ({ evidence with recordedSequences := evidence.recordedSequences.insert sequence () } :
        OperationEvidenceState).toJson.size ≤ evidence.toJson.size + 20 := by
  have hnone : evidence.recordedSequences.find? sequence = none := by
    simpa [OrderedMap.contains] using hfresh
  have hsum := OrderedMap.sum_entries_insert_of_new hnone () (fun entry => (nat entry.1).size + 1)
  simp only at hsum
  have hsize := size_sequence_le hsequence
  simp only [toJson, size_obj, size_list, OrderedMap.keys,
    map_map, map_cons, map_nil, sum_cons, sum_nil, Function.comp_def]
  omega

theorem OperationEvidenceState.size_consume_le {cited : List Nat} (hlength : cited.length ≤ 1)
    (hcited : ∀ sequence ∈ cited, sequence < 10 ^ 19) :
    ({ evidence with consumedSequences := evidence.consumedSequences ++ cited } :
        OperationEvidenceState).toJson.size ≤ evidence.toJson.size + 20 := by
  have hsum : (cited.map fun sequence =>
      (nat sequence).size + 1).sum ≤ 20 := by
    match cited with
    | [] => simp
    | [sequence] =>
      have hsize := size_sequence_le (hcited sequence (by simp))
      simp only [map_cons, map_nil, sum_cons, sum_nil]
      omega
    | _ :: _ :: _ => simp at hlength
  simp only [toJson, size_obj, size_list, map_append,
    sum_append, map_cons, map_nil, sum_cons, sum_nil]
  omega

variable {operationId : OperationId} {operation : OperationSnapshot}

theorem TaskSnapshot.size_setOperation {later : OperationSnapshot}
    (hfind : state.operations.find? operationId = some operation) :
    (state.setOperation operationId later).toJson.size +
        operation.toJson.size = state.toJson.size + later.toJson.size := by
  have hsum := OrderedMap.sum_entries_insert_of_found hfind later
    (fun entry => (str entry.1.text).size + entry.2.toJson.size + 2)
  have hentry := le_sum_of_mem (mem_map_of_mem
    (f := fun entry : OperationId × OperationSnapshot =>
      (str entry.1.text).size + entry.2.toJson.size + 2)
    (OrderedMap.find?_eq_some_iff.mp hfind))
  simp only at hsum hentry
  simp only [TaskSnapshot.setOperation, TaskSnapshot.toJson, size_obj, map_map,
    map_cons, map_nil, sum_cons, sum_nil, Function.comp_def]
  omega

theorem TaskSnapshot.size_revision_le {revision : Nat} (h : revision < 10 ^ 19) :
    ({ state with revision } : TaskSnapshot).toJson.size ≤ state.toJson.size + 19 := by
  have hsize := size_sequence_le h
  simp only [TaskSnapshot.toJson, size_obj, map_cons, map_nil, sum_cons, sum_nil]
  omega

theorem size_of_setOperation_le {later : OperationSnapshot} {added : Nat}
    (hoperation : ActiveOperation state operationId operation)
    (h : later.toJson.size ≤ operation.toJson.size + added) :
    (state.setOperation operationId later).toJson.size ≤ state.toJson.size + added := by
  have hsize := @TaskSnapshot.size_setOperation _ _ _ later hoperation.1
  omega

theorem Effect.size_le (h : Effect state sequence event next) (hsmall : isSmallEvent event = true)
    (hsequence : sequence < 10 ^ 19) : next.toJson.size ≤ state.toJson.size + 218 := by
  cases h with
  | @stateTransitioned source target reason hboundary hsource hedge =>
    have hstatus := target.size_asStr_le
    simp only [TaskSnapshot.toJson, size_obj, map_cons, map_nil, sum_cons, sum_nil]
    omega
  | @epochStarted epochId objective hidle hactive hpending =>
    have hid := epochId.size_toJson_le
    simp only [TaskSnapshot.toJson, size_obj, map_cons, map_nil, sum_cons, sum_nil, option]
    omega
  | @epochClosed event epochId hevent hepoch hflight =>
    have hnull : null.size = 4 := by decide
    simp only [TaskSnapshot.toJson, size_obj, map_cons, map_nil, sum_cons, sum_nil, option]
    omega
  | @operationTransitioned operationId source target evidenceSequences
    operation evidence hoperation hevidence =>
    obtain ⟨-, -, -, hcited, hnext⟩ := transition_eq_ok.mp hevidence
    have hlength : evidenceSequences.length ≤ 1 := by
      simpa [isSmallEvent] using hsmall
    have hsize : evidence.toJson.size ≤ operation.evidence.toJson.size + 20 := by
      rcases hnext with ⟨-, rfl⟩ | ⟨-, -, -, rfl⟩
      · omega
      · apply size_consume_le hlength
        intro cited hmem
        exact (hcited cited hmem).trans hsequence
    have hstatus := target.size_asStr_le
    have hnumber := size_sequence_le hsequence
    apply size_of_setOperation_le hoperation
    simp only [OperationSnapshot.toJson, size_obj, map_cons, map_nil, sum_cons, sum_nil]
    omega
  | @operationEvidenceRecorded operationId resultDigest operation evidence
    hoperation hevidence =>
    obtain ⟨-, -, hfresh, rfl⟩ := record_eq_ok.mp hevidence
    have hsize := size_record_le hfresh hsequence
    apply size_of_setOperation_le hoperation
    simp only [OperationSnapshot.toJson, size_obj, map_cons, map_nil, sum_cons, sum_nil]
    omega
  | @recordOnly event hevent =>
    omega
  | @observed event epochId hevent hepoch => omega
  | compactionCompleted _ _ => omega
  | _ => cases hsmall

theorem TaskStep.size_le
    (h : TaskStep state sequence event next) (hsmall : isSmallEvent event = true)
    (hsequence : sequence < 10 ^ 19) (hrevision : state.revision + 1 < 10 ^ 19) :
    next.toJson.size ≤ state.toJson.size + eventBytes := by
  obtain ⟨changed, heffect, rfl⟩ := h.effect
  have hchanged := heffect.size_le hsmall hsequence
  have hnext := @TaskSnapshot.size_revision_le changed _ hrevision
  unfold eventBytes
  omega

end CarlAgent.Task
