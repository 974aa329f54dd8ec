-- All that is pending is written in one transaction, whatever sessions the cues
-- are of: one cue whose session has no row keeps the cues of every other
-- session from being stored, and every session from being finished.
import OmniTranslate.CueIngress
import OmniTranslate.HistoryRows

namespace omni_translate.history

open runs

namespace CueWorker

variable {w : CueWorker}

def AllSessionsExist (w : CueWorker) : Prop :=
  ∀ queued ∈ values w.pending, w.repository.has_session queued.session_id = true

/-- No pending cue holds up another session: a pending cue whose session exists is stored by the next flush, in
its row or in a newer one, and a session that exists is finished. -/
structure NoneHeldUp (w : CueWorker) : Prop where
  stored : ∀ hash updated_at_ms, ∀ queued ∈ values w.pending, w.repository.has_session queued.session_id = true →
    ∃ row, (w.flush_pending_cues hash updated_at_ms none).2.repository.find_cue queued.session_id queued.cue.cue_id =
      some row ∧ Database.pair_ge row.order queued.write.order = true
  finished : ∀ hash session_id ended_at_ms updated_at_ms audio, w.repository.has_session session_id = true →
    (w.finish_session hash session_id ended_at_ms updated_at_ms none audio none).1 = .ok ()

/-- No I/O fails. -/
def NoFailure (_ : CueWorker) : CueStep → Prop
  | .flush_pending_cues _ _ failure => failure = none
  | .finish_session _ _ _ _ failure _ _ => failure = none
  | _ => True

/-! ## What a flush does -/

theorem mem_batch (hash : HashOrder) (queued : QueuedCue) : queued ∈ w.batch hash ↔ queued ∈ values w.pending := by
  unfold batch
  rw [List.mem_insertionSort, (hash.perm _).mem_iff]

theorem pending_empty : w.pending.entries.isEmpty = true ↔ values w.pending = [] := by
  simp [values]

/-- The flush of a repository that is there, without an error of its own. -/
theorem flush_cases (hash : HashOrder) (updated_at_ms : Int) (havailable : w.unavailable_reason = none) :
    (values w.pending = [] ∧ w.flush_pending_cues hash updated_at_ms none = (.ok (), w)) ∨
      (values w.pending ≠ [] ∧
        ((∃ repository, w.repository.upsert_cues_batch ((w.batch hash).map (·.write)) updated_at_ms = some repository ∧
            w.flush_pending_cues hash updated_at_ms none =
              (.ok (), { w with repository := repository, pending := ∅ })) ∨
          (w.repository.upsert_cues_batch ((w.batch hash).map (·.write)) updated_at_ms = none ∧
            w.flush_pending_cues hash updated_at_ms none = (.error FOREIGN_KEY_ERROR, w)))) := by
  have hkept : w.flush_failed FOREIGN_KEY_ERROR = w := by
    have hrecoverable : is_unrecoverable_database_error FOREIGN_KEY_ERROR = false := by decide +kernel
    simp [flush_failed, disable_history_after_unrecoverable_error, hrecoverable, havailable]
  unfold flush_pending_cues
  by_cases hempty : w.pending.entries.isEmpty = true
  · rw [if_pos hempty]
    exact .inl ⟨pending_empty.mp hempty, rfl⟩
  · rw [if_neg hempty]
    refine .inr ⟨fun h => hempty (pending_empty.mpr h), ?_⟩
    unfold write_batch
    rw [havailable]
    cases w.repository.upsert_cues_batch ((w.batch hash).map (·.write)) updated_at_ms with
    | none => exact .inr ⟨rfl, congrArg (Prod.mk _) hkept⟩
    | some repository => exact .inl ⟨repository, rfl, rfl⟩

theorem batch_exists_iff (hash : HashOrder) :
    (((w.batch hash).map (·.write)).all fun cue => w.repository.has_session cue.session_id) = true ↔
      w.AllSessionsExist := by
  simp only [List.all_map, List.all_eq_true, mem_batch]
  rfl

/-- What every run without I/O failures keeps. -/
structure Running (w : CueWorker) : Prop where
  available : w.unavailable_reason = none
  sound : w.repository.Sound
  keyed : w.repository.Keyed

section

variable (h : w.Running)

include h

theorem Running.flush_ok (hash : HashOrder) (updated_at_ms : Int) (hall : w.AllSessionsExist) :
    (w.flush_pending_cues hash updated_at_ms none).1 = .ok () := by
  rcases flush_cases hash updated_at_ms h.available with ⟨-, hflush⟩ | ⟨-, ⟨_, -, hflush⟩ | ⟨hbatch, -⟩⟩
  · rw [hflush]
  · rw [hflush]
  · have hsome := Database.batch_isSome_iff h.sound ((w.batch hash).map (·.write)) updated_at_ms
    rw [hbatch, (batch_exists_iff hash).mpr hall] at hsome
    cases hsome

theorem Running.all_of_flush_ok {hash : HashOrder} {updated_at_ms : Int}
    (hok : (w.flush_pending_cues hash updated_at_ms none).1 = .ok ()) : w.AllSessionsExist := by
  rcases flush_cases hash updated_at_ms h.available with ⟨hempty, -⟩ | ⟨-, ⟨_, hbatch, -⟩ | ⟨-, hflush⟩⟩
  · intro queued hqueued
    rw [hempty] at hqueued
    cases hqueued
  · rw [← batch_exists_iff hash, ← Database.batch_isSome_iff h.sound _ updated_at_ms, hbatch]
    rfl
  · rw [hflush] at hok
    cases hok

theorem Running.stored {hash : HashOrder} {updated_at_ms : Int}
    (hok : (w.flush_pending_cues hash updated_at_ms none).1 = .ok ()) {queued : QueuedCue}
    (hqueued : queued ∈ values w.pending) :
    ∃ row, (w.flush_pending_cues hash updated_at_ms none).2.repository.find_cue queued.session_id queued.cue.cue_id =
      some row ∧ Database.pair_ge row.order queued.write.order = true := by
  rcases flush_cases hash updated_at_ms h.available with ⟨hempty, -⟩ | ⟨-, ⟨repository, hbatch, hflush⟩ | ⟨-, hflush⟩⟩
  · rw [hempty] at hqueued
    cases hqueued
  · rw [hflush]
    exact (Database.batch_row h.keyed hbatch _ _).1 queued.write
      (List.mem_map_of_mem ((mem_batch hash queued).mpr hqueued)) rfl rfl
  · rw [hflush] at hok
    cases hok

theorem Running.flush (hash : HashOrder) (updated_at_ms : Int) :
    (w.flush_pending_cues hash updated_at_ms none).2.Running := by
  rcases flush_cases hash updated_at_ms h.available with ⟨-, hflush⟩ | ⟨-, ⟨_, hbatch, hflush⟩ | ⟨-, hflush⟩⟩
  · rwa [hflush]
  · rw [hflush]
    exact {
      available := h.available
      sound := Database.batch_keeps (fun _ _ _ h hupsert => h.upsert hupsert) h.sound hbatch
      keyed := Database.batch_keeps (fun _ _ _ h hupsert => h.upsert hupsert) h.keyed hbatch }
  · rwa [hflush]

/-- Nothing is held up exactly when the session of each pending cue exists, or when there is no session at all. -/
theorem Running.none_held_up_iff :
    w.NoneHeldUp ↔ w.AllSessionsExist ∨ w.repository.sessions = [] := by
  have hfinish (hash session_id ended_at_ms updated_at_ms) (audio : List Op) :
      (w.finish_session hash session_id ended_at_ms updated_at_ms none audio none).1 = .ok () ↔
        (w.flush_pending_cues hash updated_at_ms none).1 = .ok () := by
    have havailable := (h.flush hash updated_at_ms).available
    unfold finish_session
    dsimp only
    split
    · next hflush => simp [hflush]
    · next hreason => simp [havailable] at hreason
    · next hflush _ => simp [hflush]
  constructor
  · intro hnone
    rcases hsessions : w.repository.sessions with _ | ⟨s, _⟩
    · exact .inr rfl
    · have hexists : w.repository.has_session s.id = true := by simp [Database.has_session, hsessions]
      have hok := hnone.finished ⟨id, List.Perm.refl⟩ s.id 0 0 [] hexists
      exact .inl (h.all_of_flush_ok ((hfinish _ _ _ _ _).mp hok))
  · rintro (hall | hempty)
    · exact {
        stored := fun hash updated_at_ms queued hqueued _ => h.stored (h.flush_ok hash updated_at_ms hall) hqueued
        finished := fun hash _ _ updated_at_ms _ _ => (hfinish _ _ _ _ _).mpr (h.flush_ok hash updated_at_ms hall) }
    · have hnone (id : String) : w.repository.has_session id = false := by simp [Database.has_session, hempty]
      exact {
        stored := fun _ _ queued _ hexists => absurd hexists (by simp [hnone])
        finished := fun _ id _ _ _ hexists => absurd hexists (by simp [hnone]) }

/-! ## Every step -/

theorem Running.repository (ops : List Op) :
    Running { w with repository := run Database.step w.repository ops } where
  available := h.available
  sound := run_keeps _ _ (fun _ op h => h.step op) h.sound ops
  keyed := run_keeps _ _ (fun _ op h => h.step op) h.keyed ops

theorem Running.step (op : CueStep) (hok : w.NoFailure op) : (w.step op).Running := by
  cases op with
  | send_cue _ =>
    dsimp only [CueWorker.step, send_cue]
    split <;> exact ⟨h.available, h.sound, h.keyed⟩
  | receive_cue =>
    dsimp only [CueWorker.step, receive_cue]
    split <;> exact ⟨h.available, h.sound, h.keyed⟩
  | drain_cue_overflow | drain_latest_cues | discard_overflow => exact ⟨h.available, h.sound, h.keyed⟩
  | flush_pending_cues hash updated_at_ms failure =>
    obtain rfl : failure = none := hok
    exact h.flush hash updated_at_ms
  | finish_session hash session_id ended_at_ms updated_at_ms failure audio audio_error =>
    obtain rfl : failure = none := hok
    have hflushed := h.flush hash updated_at_ms
    dsimp only [CueWorker.step, finish_session]
    split
    · exact hflushed
    · exact hflushed
    · cases audio_error with
      | some _ => exact hflushed.repository audio
      | none =>
        have hended := hflushed.repository (audio ++ [.end_session session_id ended_at_ms])
        rwa [run_snoc] at hended
  | discard_queued_cue hash session_id cue_id =>
    have hdeleted := h.repository [.delete_cue session_id cue_id]
    have havailable : w.unavailable_reason.isSome = false := by simp [h.available]
    dsimp only [CueWorker.step, discard_queued_cue]
    rw [havailable]
    exact ⟨h.available, hdeleted.sound, hdeleted.keyed⟩
  | repository op =>
    dsimp only [CueWorker.step]
    split
    · exact h
    · exact h.repository [op]

end

theorem running_run {steps : List CueStep} (hok : Along CueWorker.step CueWorker.NoFailure {} steps) :
    (run CueWorker.step {} steps).Running :=
  hok.keeps Running (fun _ op h hok => h.step op hok) ⟨rfl, Database.sound_empty, Database.keyed_empty⟩

end CueWorker

/-- In every state of a run without I/O failures, a pending cue whose session exists is stored by the next flush
and a session that exists is finished exactly when the sessions of all pending cues exist, or none does. -/
theorem flush_stores_each_session_iff {steps : List CueStep} (hok : Along CueWorker.step CueWorker.NoFailure {} steps) :
    (run CueWorker.step {} steps).NoneHeldUp ↔
      (run CueWorker.step {} steps).AllSessionsExist ∨ (run CueWorker.step {} steps).repository.sessions = [] :=
  (CueWorker.running_run hok).none_held_up_iff

/-! ## A cue that comes late -/

def sample_cue (session_id cue_id : String) (revision : Nat) : QueuedCue where
  session_id := session_id
  updated_at_ms := 1000
  cue := {
    cue_id := cue_id
    sequence := some 1
    revision := some revision
    route_direction := "inbound"
    source_text := "source"
    translated_text := "translated"
    committed := true
    translation_committed := true
    started_at := "unix-ms:1000"
    ended_at := "unix-ms:2000" }

/-- The cue of a session comes after the session was deleted, and a cue of the next session after it. -/
def late_cue : List CueStep :=
  [.repository (.create_session "session-a" 1000), .repository (.end_session "session-a" 2000),
    .repository (.delete_session "session-a" fun _ => true), .repository (.create_session "session-b" 3000),
    .send_cue (sample_cue "session-a" "cue-a" 1), .receive_cue, .send_cue (sample_cue "session-b" "cue-b" 1),
    .receive_cue]

theorem late_cue_holds_up_the_next_session :
    Along CueWorker.step CueWorker.NoFailure {} late_cue ∧ ¬ (run CueWorker.step {} late_cue).NoneHeldUp := by
  have hok : Along CueWorker.step CueWorker.NoFailure {} late_cue :=
    ⟨trivial, trivial, trivial, trivial, trivial, trivial, trivial, trivial, trivial⟩
  refine ⟨hok, fun h => ?_⟩
  rcases (CueWorker.running_run hok).none_held_up_iff.mp h with hall | hempty
  · exact absurd (hall (sample_cue "session-a" "cue-a" 1) (by decide +kernel)) (by decide +kernel)
  · exact absurd hempty (by decide +kernel)

def cue_in_time : List CueStep :=
  [.repository (.create_session "session-b" 3000), .send_cue (sample_cue "session-b" "cue-b" 1), .receive_cue]

/-- A cue of a session that exists is stored. -/
theorem cue_in_time_is_stored :
    (run CueWorker.step {} cue_in_time).NoneHeldUp ∧
      values (run CueWorker.step {} cue_in_time).pending = [sample_cue "session-b" "cue-b" 1] := by
  have hpending : values (run CueWorker.step {} cue_in_time).pending = [sample_cue "session-b" "cue-b" 1] := by
    decide +kernel
  have hok : Along CueWorker.step CueWorker.NoFailure {} cue_in_time := ⟨trivial, trivial, trivial, trivial⟩
  refine ⟨(flush_stores_each_session_iff hok).mpr (.inl ?_), hpending⟩
  intro queued hqueued
  rw [hpending, List.mem_singleton] at hqueued
  rw [hqueued]
  decide +kernel

end omni_translate.history
