-- Translation playback in the Bridge: the frame handlers of
-- `windows/audio_client.rs`, the queue, the ledger and the stop of
-- `windows/translation.rs`, and the playback worker of `windows/playback.rs`.
-- The worker reads a playback channel and a control channel and, under a lock,
-- the queue of complete cues, so each of these reads is a step of its own.
import Mathlib.Data.List.AList
import OmniTranslate.BridgeStatus

namespace omni_translate.playback

open runs
open bridge_playback_ack (TranslationPlaybackStatusKind)

variable {S : Type}

def INTERNAL_SAMPLE_RATE_HZ : Nat := 48000
def INTERNAL_CHANNEL_COUNT : Nat := 2
def TRANSLATION_MAX_PROJECTED_LATENCY_MS : Nat := 5000
def TRANSLATION_PLAYBACK_QUEUE_CAPACITY : Nat := 128
def PLAYBACK_CHANNEL_CAPACITY : Nat := 128
def PHYSICAL_TRANSLATION_STREAM_STARTUP_BUFFER_MS : Nat := 4000
def PHYSICAL_TRANSLATION_STREAM_STARTUP_MAX_WAIT_MS : Nat := 4500

/-- `saturating_add` of a `u64`. -/
def saturating_add (a b : Nat) : Nat := min (a + b) (2 ^ 64 - 1)

/-! ## Jobs and commands -/

inductive TranslationStreamState
  | Start
  | Chunk
  | End
  | Abort
deriving DecidableEq

structure PlaybackJob (S : Type) where
  samples : List S
  device_id : String
  cue_id : Option String
  created_at_ms : Nat
  playback_duration_ms : Nat
  translation_generation : Nat
  translation_arrival_sequence : Nat

structure PhysicalTranslationStreamCommand (S : Type) where
  job : PlaybackJob S
  state : TranslationStreamState

inductive PlaybackCommand (S : Type)
  | Play (device_id : String)
  | TranslationQueued
  | TranslationStream (command : PhysicalTranslationStreamCommand S)
  | FlushSource

structure PlaybackStopRequest where
  recreate_output : Bool
  stop_through_generation : Nat

inductive PlaybackControlCommand
  | StopAll (request : PlaybackStopRequest)
  | RebindPhysicalOutput (device_id : String)
  | TerminateTranslationStream (cue_id : String)

/-- The frames of samples for all channels. -/
def frames_of (samples : List S) : Nat := samples.length / INTERNAL_CHANNEL_COUNT

def duration_ms (frames : Nat) : Nat :=
  (min (frames * 1000) (2 ^ 64 - 1) + (INTERNAL_SAMPLE_RATE_HZ - 1)) / INTERNAL_SAMPLE_RATE_HZ

/-! ## The queue of complete cues -/

structure ActiveTranslationPlayback where
  cue_id : Option String
  expected_end_ms : Nat

structure TranslationPlaybackQueue (S : Type) where
  pending : List (PlaybackJob S)
  active : Option ActiveTranslationPlayback

inductive TranslationEnqueueFailureReason
  | QueueFull
  | RealtimeBudget

def translation_would_miss_realtime_budget (created_at_ms projected_start_ms : Nat) : Bool :=
  projected_start_ms - created_at_ms > TRANSLATION_MAX_PROJECTED_LATENCY_MS

namespace TranslationPlaybackQueue

variable (queue : TranslationPlaybackQueue S)

def active_end_ms (now_ms : Nat) : Nat :=
  max ((queue.active.map (·.expected_end_ms)).getD now_ms) now_ms

def projected_start_ms (now_ms : Nat) : Nat :=
  queue.pending.foldl (fun start_ms job => saturating_add start_ms job.playback_duration_ms)
    (queue.active_end_ms now_ms)

/-- The loop of `drain_expired_pending`: the jobs that stay and the jobs that are dropped. -/
def drain_jobs : Nat → List (PlaybackJob S) → List (PlaybackJob S) × List (PlaybackJob S)
  | _, [] => ([], [])
  | projected_start_ms, job :: jobs =>
    if translation_would_miss_realtime_budget job.created_at_ms projected_start_ms then
      let (retained, dropped) := drain_jobs projected_start_ms jobs
      (retained, job :: dropped)
    else
      let (retained, dropped) :=
        drain_jobs (saturating_add projected_start_ms job.playback_duration_ms) jobs
      (job :: retained, dropped)

def drain_expired_pending (now_ms : Nat) : TranslationPlaybackQueue S × List (PlaybackJob S) :=
  let (retained, dropped) := drain_jobs (queue.active_end_ms now_ms) queue.pending
  ({ queue with pending := retained }, dropped)

theorem drain_jobs_retained (projected_start_ms : Nat) (jobs : List (PlaybackJob S)) :
    (drain_jobs projected_start_ms jobs).1 ⊆ jobs := by
  induction jobs generalizing projected_start_ms with
  | nil => exact List.Subset.refl _
  | cons job jobs ih =>
    unfold drain_jobs
    split
    · exact List.subset_cons_of_subset job (ih _)
    · exact List.cons_subset_cons job (ih _)

theorem mem_drain_jobs (projected_start_ms : Nat) {jobs : List (PlaybackJob S)}
    {job : PlaybackJob S} (h : job ∈ jobs) :
    job ∈ (drain_jobs projected_start_ms jobs).1 ∨ job ∈ (drain_jobs projected_start_ms jobs).2 := by
  induction jobs generalizing projected_start_ms with
  | nil => cases h
  | cons first jobs ih =>
    unfold drain_jobs
    split
    · obtain rfl | hmem := List.mem_cons.mp h
      · exact Or.inr List.mem_cons_self
      · exact (ih _ hmem).imp id (List.mem_cons_of_mem first)
    · obtain rfl | hmem := List.mem_cons.mp h
      · exact Or.inl List.mem_cons_self
      · exact (ih _ hmem).imp (List.mem_cons_of_mem first) id

/-- The queue, the jobs dropped on the way, and the reason of a refusal. -/
def enqueue (job : PlaybackJob S) (now_ms : Nat) :
    TranslationPlaybackQueue S × List (PlaybackJob S) × Option TranslationEnqueueFailureReason :=
  let (queue, dropped) := queue.drain_expired_pending now_ms
  if queue.pending.length ≥ TRANSLATION_PLAYBACK_QUEUE_CAPACITY then
    (queue, dropped, some .QueueFull)
  else if translation_would_miss_realtime_budget job.created_at_ms
      (queue.projected_start_ms now_ms) then
    (queue, dropped, some .RealtimeBudget)
  else ({ queue with pending := queue.pending ++ [job] }, dropped, none)

/-- The queue, the job to start, and the jobs dropped on the way. -/
def start_next (now_ms : Nat) :
    TranslationPlaybackQueue S × Option (PlaybackJob S) × List (PlaybackJob S) :=
  if queue.active.isSome then (queue, none, [])
  else
    let (queue, dropped) := queue.drain_expired_pending now_ms
    match queue.pending with
    | [] => (queue, none, dropped)
    | job :: pending =>
      (⟨pending, some ⟨job.cue_id, saturating_add now_ms job.playback_duration_ms⟩⟩, some job,
        dropped)

theorem enqueue_pending (job : PlaybackJob S) (now_ms : Nat) :
    (queue.enqueue job now_ms).1.pending ⊆ queue.pending ++ [job] := by
  have hdrain : (drain_jobs (queue.active_end_ms now_ms) queue.pending).1 ⊆ queue.pending :=
    drain_jobs_retained _ _
  unfold enqueue drain_expired_pending
  dsimp only
  split
  · exact List.subset_append_of_subset_left _ hdrain
  split
  · exact List.subset_append_of_subset_left _ hdrain
  · exact List.append_subset.mpr ⟨List.subset_append_of_subset_left _ hdrain,
      List.subset_append_right _ _⟩

theorem start_next_pending (now_ms : Nat) :
    (queue.start_next now_ms).1.pending ⊆ queue.pending ∧
      ∀ job ∈ (queue.start_next now_ms).2.1, job ∈ queue.pending := by
  have hdrain : (drain_jobs (queue.active_end_ms now_ms) queue.pending).1 ⊆ queue.pending :=
    drain_jobs_retained _ _
  unfold start_next drain_expired_pending
  dsimp only
  split
  · exact ⟨List.Subset.refl _, fun _ hj => by cases hj⟩
  · split
    · rename_i hnil
      refine ⟨?_, fun _ hj => by cases hj⟩
      rw [hnil]
      exact List.nil_subset _
    · rename_i job pending hcons
      rw [hcons] at hdrain
      refine ⟨fun _ hx => hdrain (List.mem_cons_of_mem job hx), ?_⟩
      intro job' hj
      cases hj
      exact hdrain List.mem_cons_self

end TranslationPlaybackQueue

/-! ## The ledger of streams -/

inductive PhysicalStreamAdmission
  | Start
  | Chunk
  | End
  | Duplicate
deriving DecidableEq

structure PhysicalTranslationStreamCursor where
  next_chunk_index : Nat
  ended : Bool
  translation_generation : Nat

structure PhysicalTranslationStreamLedger where
  active : AList fun _ : String => PhysicalTranslationStreamCursor
  completed : Finset (String × Nat)

namespace PhysicalTranslationStreamLedger

def new : PhysicalTranslationStreamLedger := ⟨∅, ∅⟩

/-- `none` is a refusal. An aborted stream stays active until its terminal is claimed. -/
def admit_frame (ledger : PhysicalTranslationStreamLedger) (cue_id : String) (chunk_index : Nat)
    (state : TranslationStreamState) (translation_generation : Nat) :
    Option (PhysicalTranslationStreamLedger × PhysicalStreamAdmission) :=
  if (cue_id, translation_generation) ∈ ledger.completed then some (ledger, .Duplicate)
  else
    match state, ledger.active.lookup cue_id with
    | .Start, none =>
      if chunk_index ≠ 0 then none
      else some ({ ledger with
        active := ledger.active.insert cue_id ⟨1, false, translation_generation⟩ }, .Start)
    | .Start, some active =>
      if chunk_index ≠ 0 then none
      else if active.translation_generation = translation_generation then some (ledger, .Duplicate)
      else none
    | .Chunk, some next =>
      if next.translation_generation ≠ translation_generation then none
      else if next.ended then none
      else if chunk_index < next.next_chunk_index then some (ledger, .Duplicate)
      else if chunk_index ≠ next.next_chunk_index then none
      else some ({ ledger with
        active := ledger.active.insert cue_id { next with
          next_chunk_index := min (next.next_chunk_index + 1) (2 ^ 32 - 1) } }, .Chunk)
    | .End, some next =>
      if next.translation_generation ≠ translation_generation then none
      else if next.ended ∧ chunk_index = next.next_chunk_index then some (ledger, .Duplicate)
      else if chunk_index ≠ next.next_chunk_index then none
      else some ({ ledger with
        active := ledger.active.insert cue_id { next with ended := true } }, .End)
    | .Abort, some active =>
      if active.translation_generation ≠ translation_generation then none
      else some (ledger, .End)
    | _, none => none

def claim_terminal (ledger : PhysicalTranslationStreamLedger) (cue_id : String)
    (translation_generation : Nat) : PhysicalTranslationStreamLedger × Bool :=
  if (ledger.active.lookup cue_id).any (·.translation_generation = translation_generation) then
    (⟨ledger.active.erase cue_id, insert (cue_id, translation_generation) ledger.completed⟩, true)
  else (ledger, false)

end PhysicalTranslationStreamLedger

/-! ## The Bridge -/

/-- A status that the Bridge emits. -/
structure TranslationStatus where
  cue_id : Option String
  status : TranslationPlaybackStatusKind
  reason : String
deriving DecidableEq

structure BridgeState where
  translation_generation : Nat
  physical_translation_stream_ledger : PhysicalTranslationStreamLedger
  translation_arrival_sequence : Nat
  physical_playback_device_id : String
  statuses : List TranslationStatus

namespace BridgeState

variable (state : BridgeState)

def emit_translation_status (cue_id : Option String) (status : TranslationPlaybackStatusKind)
    (reason : String) : BridgeState :=
  { state with statuses := state.statuses ++ [⟨cue_id, status, reason⟩] }

/-- A status only for the stream whose terminal is claimed. -/
def claim_terminal_status (cue_id : String) (translation_generation : Nat)
    (status : TranslationPlaybackStatusKind) (reason : String) : BridgeState :=
  let (ledger, claimed) :=
    state.physical_translation_stream_ledger.claim_terminal cue_id translation_generation
  let state := { state with physical_translation_stream_ledger := ledger }
  if claimed then state.emit_translation_status (some cue_id) status reason else state

theorem emit_all (cues : List (Option String)) (status : TranslationPlaybackStatusKind)
    (reason : String) :
    cues.foldl (fun state cue_id => state.emit_translation_status cue_id status reason) state =
      { state with statuses := state.statuses ++ cues.map fun cue_id => ⟨cue_id, status, reason⟩ } := by
  induction cues generalizing state with
  | nil => simp
  | cons cue_id cues ih =>
    rw [List.foldl_cons, ih]
    simp [emit_translation_status]

@[simp] theorem claim_terminal_status_generation (cue_id : String) (translation_generation : Nat)
    (status : TranslationPlaybackStatusKind) (reason : String) :
    (state.claim_terminal_status cue_id translation_generation status
      reason).translation_generation = state.translation_generation := by
  unfold claim_terminal_status
  dsimp only
  split <;> rfl

@[simp] theorem claim_terminal_status_sequence (cue_id : String) (translation_generation : Nat)
    (status : TranslationPlaybackStatusKind) (reason : String) :
    (state.claim_terminal_status cue_id translation_generation status
      reason).translation_arrival_sequence = state.translation_arrival_sequence := by
  unfold claim_terminal_status
  dsimp only
  split <;> rfl

end BridgeState

/-- All that the worker does to the state while it plays: it emits statuses, and claims terminals for
those that end a stream. -/
inductive Reports (b : BridgeState) : BridgeState → Prop
  | nothing : Reports b b
  | emit {b' : BridgeState} (h : Reports b b') (cue_id : Option String)
      (status : TranslationPlaybackStatusKind) (reason : String) :
      Reports b (b'.emit_translation_status cue_id status reason)
  | claim {b' : BridgeState} (h : Reports b b') (cue_id : String) (translation_generation : Nat)
      {status : TranslationPlaybackStatusKind} (hterminal : status.is_terminal = true)
      (reason : String) :
      Reports b (b'.claim_terminal_status cue_id translation_generation status reason)

namespace Reports

variable {b b' b'' : BridgeState}

theorem trans (h : Reports b b') (h' : Reports b' b'') : Reports b b'' := by
  induction h' with
  | nothing => exact h
  | emit _ cue_id status reason ih => exact ih.emit cue_id status reason
  | claim _ cue_id generation hterminal reason ih =>
    exact ih.claim cue_id generation hterminal reason

theorem generation (h : Reports b b') : b'.translation_generation = b.translation_generation := by
  induction h with
  | nothing => rfl
  | emit _ _ _ _ ih => exact ih
  | claim _ _ generation _ _ ih => rw [BridgeState.claim_terminal_status_generation, ih]

theorem sequence (h : Reports b b') :
    b'.translation_arrival_sequence = b.translation_arrival_sequence := by
  induction h with
  | nothing => rfl
  | emit _ _ _ _ ih => exact ih
  | claim _ _ _ _ _ ih => rw [BridgeState.claim_terminal_status_sequence, ih]

end Reports

structure ActivePhysicalTranslationStream where
  cue_id : String
  playback_frames : Nat
  translation_generation : Nat
  playback_started : Bool
  ended : Bool

/-- The output with the audio appended to its translation player since it was last cleared. -/
structure PlaybackOutput (S : Type) where
  device_id : String
  translation_generation : Option Nat
  translation_player : List (List S)

/-- The places of the worker's loop at which it reads what others write. -/
inductive Place
  | control
  | start_stream
  | finish_stream
  | finish_translation
  | take
  | receive
  | control_again
  | check_complete
  | start_next
deriving DecidableEq

/-- The worker, with a record of the commands that reached `play_physical_translation_stream` and
one of the stream audio that was appended to the translation player. -/
structure PlaybackWorker (S : Type) where
  place : Place
  output : Option (PlaybackOutput S)
  physical_stream : Option ActivePhysicalTranslationStream
  cancelled_physical_streams : Finset String
  pending_physical_streams : List (PhysicalTranslationStreamCommand S)
  played : List (PhysicalTranslationStreamCommand S)
  appended : List (String × List S)

/-- What the worker finds outside at a step: whether the player has run empty, the error of a device
that does not open, how long a stream has been buffered, and the clock. -/
structure Outside where
  player_empty : Bool
  open_error : Option String
  buffered_for : Nat
  now_ms : Nat

namespace PlaybackWorker

variable (w : PlaybackWorker S) (b : BridgeState)

/-! ## Streams -/

def physical_stream_ready_to_start (playback_frames : Nat) (ended : Bool) (buffered_for : Nat) :
    Bool :=
  ended ∨
    playback_frames ≥
      INTERNAL_SAMPLE_RATE_HZ * PHYSICAL_TRANSLATION_STREAM_STARTUP_BUFFER_MS / 1000 ∨
    buffered_for ≥ PHYSICAL_TRANSLATION_STREAM_STARTUP_MAX_WAIT_MS

def start_buffered_physical_stream_if_ready (e : Outside) : PlaybackWorker S × BridgeState :=
  match w.physical_stream, w.output with
  | some stream, some _ =>
    if stream.playback_started ∨
        ¬ physical_stream_ready_to_start stream.playback_frames stream.ended e.buffered_for then
      (w, b)
    else
      ({ w with physical_stream := some { stream with playback_started := true } },
        b.emit_translation_status (some stream.cue_id) .Started "physical-playback-stream-started")
  | _, _ => (w, b)

theorem start_buffered_cases (e : Outside) :
    w.start_buffered_physical_stream_if_ready b e = (w, b) ∨
      ∃ stream, w.physical_stream = some stream ∧
        w.start_buffered_physical_stream_if_ready b e =
          ({ w with physical_stream := some { stream with playback_started := true } },
            b.emit_translation_status (some stream.cue_id) .Started
              "physical-playback-stream-started") := by
  unfold start_buffered_physical_stream_if_ready
  split
  · rename_i stream _ hstream _
    split
    · exact Or.inl rfl
    · exact Or.inr ⟨stream, hstream, rfl⟩
  · exact Or.inl rfl

/-- What the worker leaves alone while it plays: its place and the commands that it holds and has
played. -/
structure Serves (w : PlaybackWorker S) (b : BridgeState) (r : PlaybackWorker S × BridgeState) :
    Prop where
  place : r.1.place = w.place
  pending : r.1.pending_physical_streams = w.pending_physical_streams
  played : r.1.played = w.played
  state : Reports b r.2

theorem Serves.trans {w w' : PlaybackWorker S} {b b' : BridgeState}
    {r : PlaybackWorker S × BridgeState} (h : Serves w b (w', b')) (h' : Serves w' b' r) :
    Serves w b r where
  place := h'.place.trans h.place
  pending := h'.pending.trans h.pending
  played := h'.played.trans h.played
  state := h.state.trans h'.state

theorem start_buffered_serves (e : Outside) :
    Serves w b (w.start_buffered_physical_stream_if_ready b e) := by
  obtain heq | ⟨_, _, heq⟩ := w.start_buffered_cases b e
  · rw [heq]
    exact ⟨rfl, rfl, rfl, .nothing⟩
  · rw [heq]
    exact ⟨rfl, rfl, rfl, .emit .nothing _ _ _⟩

@[simp] theorem start_buffered_generation (e : Outside) :
    (w.start_buffered_physical_stream_if_ready b e).2.translation_generation =
      b.translation_generation := (w.start_buffered_serves b e).state.generation

@[simp] theorem start_buffered_place (e : Outside) :
    (w.start_buffered_physical_stream_if_ready b e).1.place = w.place :=
  (w.start_buffered_serves b e).place

def finish_completed_physical_stream (e : Outside) : PlaybackWorker S × BridgeState :=
  match w.physical_stream with
  | none => (w, b)
  | some stream =>
    if ¬ stream.ended ∨ (w.output.isSome ∧ ¬ e.player_empty) then (w, b)
    else
      ({ w with
        physical_stream := none
        output := w.output.map fun output => { output with translation_generation := none } },
        b.claim_terminal_status stream.cue_id stream.translation_generation .Completed
          "physical-playback-stream-completed")

def open_playback_output (device_id : String) (e : Outside) : Except String (PlaybackOutput S) :=
  match e.open_error with
  | none => .ok ⟨device_id, none, []⟩
  | some error => .error error

/-- The output for a device: the one that is open, or a new one. -/
def output_for (device_id : String) (e : Outside) : Except String (PlaybackOutput S) :=
  match w.output with
  | some output =>
    if output.device_id = device_id then .ok output else open_playback_output device_id e
  | none => open_playback_output device_id e

theorem output_for_cases {device_id : String} {e : Outside} {output : PlaybackOutput S}
    (h : w.output_for device_id e = .ok output) :
    w.output = some output ∨ output = ⟨device_id, none, []⟩ := by
  have hopen : open_playback_output device_id e = .ok output → output = ⟨device_id, none, []⟩ := by
    intro h
    unfold open_playback_output at h
    split at h
    · exact (Except.ok.inj h).symm
    · cases h
  unfold output_for at h
  split at h
  · rename_i _ hcurrent
    split at h
    · rw [hcurrent, Except.ok.inj h]
      exact Or.inl rfl
    · exact Or.inr (hopen h)
  · exact Or.inr (hopen h)

theorem output_for_opened {e : Outside} (he : e.open_error = none) (device_id : String) :
    ∃ output, w.output_for device_id e = .ok output := by
  unfold output_for open_playback_output
  rw [he]
  split
  · split
    · exact ⟨_, rfl⟩
    · exact ⟨_, rfl⟩
  · exact ⟨_, rfl⟩

variable (job : PlaybackJob S)

/-- The part of `play_physical_translation_stream` that appends audio to the active stream. -/
def append_stream_audio (cue_id : String) (e : Outside) : PlaybackWorker S × BridgeState :=
  match w.physical_stream, w.output with
  | some stream, some output =>
    if stream.cue_id = cue_id ∧ stream.translation_generation = job.translation_generation then
      start_buffered_physical_stream_if_ready
        { w with
          physical_stream := some { stream with
            playback_frames := saturating_add stream.playback_frames (frames_of job.samples) }
          output := some { output with
            translation_generation := some job.translation_generation
            translation_player := output.translation_player ++ [job.samples] }
          appended := w.appended ++ [(cue_id, job.samples)] } b e
    else (w, b)
  | _, _ => (w, b)

theorem append_stream_audio_serves (cue_id : String) (e : Outside) :
    Serves w b (w.append_stream_audio b job cue_id e) := by
  unfold append_stream_audio
  split
  · split
    · refine Serves.trans ?_ (start_buffered_serves _ b e)
      exact ⟨rfl, rfl, rfl, .nothing⟩
    · exact ⟨rfl, rfl, rfl, .nothing⟩
  · exact ⟨rfl, rfl, rfl, .nothing⟩

/-- The part of `play_physical_translation_stream` for a start. -/
def start_physical_stream (cue_id : String) (e : Outside) : PlaybackWorker S × BridgeState :=
  if w.physical_stream.isSome then
    (w, b.claim_terminal_status cue_id job.translation_generation .RouteFailed
      "physical-stream-overlap")
  else
    match w.output_for job.device_id e with
    | .error error => (w, b.claim_terminal_status cue_id job.translation_generation .RouteFailed
        ("physical-output-open-failed:" ++ error))
    | .ok output =>
      append_stream_audio
        { w with
          output := some output
          physical_stream := some ⟨cue_id, 0, job.translation_generation, false, false⟩ }
        (b.emit_translation_status (some cue_id) .Queued "accepted-stream") job cue_id e

/-- The part of `play_physical_translation_stream` for an abort. -/
def abort_physical_stream (cue_id : String) : PlaybackWorker S × BridgeState :=
  if w.physical_stream.any (·.cue_id = cue_id) then
    ({ w with
      physical_stream := none
      output := w.output.map fun output => { output with translation_player := [] } },
      b.claim_terminal_status cue_id job.translation_generation .RouteFailed
        "physical-playback-stream-aborted")
  else (w, b)

/-- The part of `play_physical_translation_stream` for an end. -/
def end_physical_stream (cue_id : String) (e : Outside) : PlaybackWorker S × BridgeState :=
  start_buffered_physical_stream_if_ready
    { w with
      physical_stream := w.physical_stream.map fun stream =>
        if stream.cue_id = cue_id then { stream with ended := true } else stream } b e

variable (command : PhysicalTranslationStreamCommand S)

def play_command (e : Outside) : PlaybackWorker S × BridgeState :=
  let job := command.job
  let cue_id := job.cue_id.getD ""
  if job.translation_generation ≠ b.translation_generation then (w, b)
  else if cue_id ∈ w.cancelled_physical_streams then
    (if command.state = .End ∨ command.state = .Abort then
        { w with cancelled_physical_streams := w.cancelled_physical_streams.erase cue_id }
      else w, b)
  else
    match command.state with
    | .Abort => w.abort_physical_stream b job cue_id
    | .End => w.end_physical_stream b cue_id e
    | .Start => w.start_physical_stream b job cue_id e
    | .Chunk => w.append_stream_audio b job cue_id e

def play_physical_translation_stream (e : Outside) : PlaybackWorker S × BridgeState :=
  play_command { w with played := w.played ++ [command] } b command e

theorem play_serves (e : Outside) :
    Serves { w with played := w.played ++ [command] } b
      (w.play_physical_translation_stream b command e) := by
  unfold play_physical_translation_stream play_command
  dsimp only
  split
  · exact ⟨rfl, rfl, rfl, .nothing⟩
  split
  · split
    · exact ⟨rfl, rfl, rfl, .nothing⟩
    · exact ⟨rfl, rfl, rfl, .nothing⟩
  cases command.state with
  | Abort =>
    dsimp only
    unfold abort_physical_stream
    split
    · exact ⟨rfl, rfl, rfl, .claim .nothing _ _ rfl _⟩
    · exact ⟨rfl, rfl, rfl, .nothing⟩
  | End =>
    refine Serves.trans ?_ (start_buffered_serves _ b e)
    exact ⟨rfl, rfl, rfl, .nothing⟩
  | Start =>
    dsimp only
    unfold start_physical_stream
    split
    · exact ⟨rfl, rfl, rfl, .claim .nothing _ _ rfl _⟩
    split
    · exact ⟨rfl, rfl, rfl, .claim .nothing _ _ rfl _⟩
    · refine Serves.trans ?_ (append_stream_audio_serves _ _ _ _ e)
      exact ⟨rfl, rfl, rfl, .emit .nothing _ _ _⟩
  | Chunk => apply append_stream_audio_serves

@[simp] theorem play_generation (e : Outside) :
    (w.play_physical_translation_stream b command e).2.translation_generation =
      b.translation_generation := (w.play_serves b command e).state.generation

@[simp] theorem play_pending (e : Outside) :
    (w.play_physical_translation_stream b command e).1.pending_physical_streams =
      w.pending_physical_streams := (w.play_serves b command e).pending

theorem finish_stream_serves (e : Outside) :
    Serves w b (w.finish_completed_physical_stream b e) := by
  unfold finish_completed_physical_stream
  split
  · exact ⟨rfl, rfl, rfl, .nothing⟩
  split
  · exact ⟨rfl, rfl, rfl, .nothing⟩
  · exact ⟨rfl, rfl, rfl, .claim .nothing _ _ rfl _⟩

@[simp] theorem finish_stream_generation (e : Outside) :
    (w.finish_completed_physical_stream b e).2.translation_generation =
      b.translation_generation := (w.finish_stream_serves b e).state.generation

@[simp] theorem finish_stream_pending (e : Outside) :
    (w.finish_completed_physical_stream b e).1.pending_physical_streams =
      w.pending_physical_streams := (w.finish_stream_serves b e).pending

/-! ## What is ready -/

def pending_physical_stream_command_is_ready (active_cue_id : Option String)
    (pending_command : Option (PhysicalTranslationStreamCommand S)) (complete_playback_active : Bool)
    (pending_complete_sequence : Option Nat) : Bool :=
  match pending_command with
  | none => false
  | some pending_command =>
    match active_cue_id with
    | some active_cue_id => active_cue_id = pending_command.job.cue_id.getD ""
    | none => ¬ complete_playback_active ∧ pending_complete_sequence.all fun complete_sequence =>
        pending_command.job.translation_arrival_sequence < complete_sequence

/-- The command that can be played now, and the commands that go on waiting. -/
def take_ready_physical_stream_command (active_cue_id : Option String)
    (pending_commands : List (PhysicalTranslationStreamCommand S)) (complete_playback_active : Bool)
    (pending_complete_sequence : Option Nat) :
    Option (PhysicalTranslationStreamCommand S × List (PhysicalTranslationStreamCommand S)) :=
  match active_cue_id with
  | some active_cue_id =>
    match pending_commands.find? (·.job.cue_id = some active_cue_id) with
    | none => none
    | some command =>
      some (command, pending_commands.eraseP (·.job.cue_id = some active_cue_id))
  | none =>
    match pending_commands with
    | [] => none
    | command :: rest =>
      if pending_physical_stream_command_is_ready none (some command) complete_playback_active
          pending_complete_sequence then some (command, rest)
      else none

def complete_translation_command_is_ready (physical_stream_active complete_playback_active : Bool)
    (pending_complete_sequence pending_stream_sequence : Option Nat) : Bool :=
  if physical_stream_active ∨ complete_playback_active then false
  else
    match pending_complete_sequence with
    | none => false
    | some pending_complete_sequence => pending_stream_sequence.all fun stream_sequence =>
        pending_complete_sequence < stream_sequence

/-! ## Control commands -/

/-- A request to stop. The worker drops its stream and all buffered commands; the player is cleared
only if it plays a stopped generation. -/
def stop_all (request : PlaybackStopRequest) : PlaybackWorker S :=
  let output := w.output.map fun output =>
    if (output.translation_generation.map
        (decide <| · ≤ request.stop_through_generation)).getD true then
      { output with translation_player := [], translation_generation := none }
    else output
  { w with
    output := if request.recreate_output then none else output
    physical_stream := none
    cancelled_physical_streams := ∅
    pending_physical_streams := [] }

def rebind_physical_output (device_id : String) (e : Outside) : PlaybackWorker S :=
  { w with
    output := (open_playback_output device_id e).toOption
    physical_stream := none
    cancelled_physical_streams := ∅
    pending_physical_streams := [] }

def terminate_translation_stream (cue_id : String) : PlaybackWorker S :=
  let w := if w.physical_stream.any (·.cue_id = cue_id) then
      { w with
        physical_stream := none
        output := w.output.map fun output => { output with translation_player := [] } }
    else w
  { w with
    pending_physical_streams := w.pending_physical_streams.filter (·.job.cue_id ≠ some cue_id)
    cancelled_physical_streams := insert cue_id w.cancelled_physical_streams }

end PlaybackWorker

/-- The Bridge: its state, the queue, both channels and the worker, with a record of the stream
commands that were admitted, each with the chunk index of its frame. -/
structure Bridge (S : Type) where
  state : BridgeState
  translation_queue : TranslationPlaybackQueue S
  commands : List (PlaybackCommand S)
  controls : List PlaybackControlCommand
  worker : PlaybackWorker S
  admitted : List (PhysicalTranslationStreamCommand S × Nat)

/-- A translation frame for the physical output, with the settings that its handler finds. -/
structure TranslationFrame (S : Type) where
  cue_id : Option String
  monitor_samples : List S
  created_at_ms : Option Nat
  stream_state : Option TranslationStreamState
  chunk_index : Option Nat
  translation_playback_enabled : Bool
  translated_audio_enabled : Bool
  physical_playback_ready : Bool

/-- What the threads of the Bridge do: an audio client, the capture, a control client and the
worker. `bridge.init` drops the state before it sends the rebind, so it is two operations. -/
inductive Op (S : Type)
  | translation_frame (frame : TranslationFrame S) (now_ms : Nat)
  | source_frame
  | flush_source
  | request_playback_stop (reason : String) (error_code : Option String)
  | bridge_shutdown
  | bridge_init (device_id : String) (reconfiguration_reason : Option String)
      (reset_physical_stream_ledger : Bool)
  | rebind (device_id : String)
  | work (e : Outside)

namespace Bridge

variable (s : Bridge S)

def new (device_id : String) : Bridge S where
  state := ⟨0, .new, 0, device_id, []⟩
  translation_queue := ⟨[], none⟩
  commands := []
  controls := []
  worker := ⟨.control, none, none, ∅, [], [], []⟩
  admitted := []

/-! ## The handlers -/

/-- `try_send`, which refuses when the channel is full. -/
def try_send (command : PlaybackCommand S) : Option (Bridge S) :=
  if s.commands.length < PLAYBACK_CHANNEL_CAPACITY then
    some { s with commands := s.commands ++ [command] }
  else none

variable (frame : TranslationFrame S)

/-- The job of a frame. The arrival sequence is taken before. -/
def job_of (now_ms : Nat) : PlaybackJob S where
  samples := frame.monitor_samples
  device_id := s.state.physical_playback_device_id
  cue_id := frame.cue_id
  created_at_ms := frame.created_at_ms.getD now_ms
  playback_duration_ms := duration_ms (frames_of frame.monitor_samples)
  translation_generation := s.state.translation_generation
  translation_arrival_sequence := s.state.translation_arrival_sequence + 1

def next_arrival : Bridge S :=
  { s with state := { s.state with
      translation_arrival_sequence := s.state.translation_arrival_sequence + 1 } }

/-- The part of `handle_physical_translation_stream_frame` after the checks of the frame. -/
def admit_stream_frame (cue_id : String) (chunk_index : Nat)
    (stream_state : TranslationStreamState) (now_ms : Nat) : Bridge S :=
  match s.state.physical_translation_stream_ledger.admit_frame cue_id chunk_index stream_state
      s.state.translation_generation with
  | none => s
  | some (_, .Duplicate) => s
  | some (next_ledger, _) =>
    if stream_state = .Abort then
      { s with
        controls := s.controls ++ [.TerminateTranslationStream cue_id]
        state := s.state.claim_terminal_status cue_id s.state.translation_generation .RouteFailed
          "physical-playback-stream-aborted" }
    else
      let command := ⟨s.job_of frame now_ms, stream_state⟩
      match s.next_arrival.try_send (.TranslationStream command) with
      | none => s.next_arrival
      | some s =>
        { s with
          state := { s.state with physical_translation_stream_ledger := next_ledger }
          admitted := s.admitted ++ [(command, chunk_index)] }

def translation_non_playback_reason (playback_enabled translated_audio_enabled
    monitor_samples_empty : Bool) : Option String :=
  if ¬ playback_enabled then some "translation-playback-disabled"
  else if monitor_samples_empty ∧ ¬ translated_audio_enabled then some "translated-audio-muted"
  else if monitor_samples_empty then some "empty-translation-audio"
  else none

/-- An end or an abort carries no audio, a start or a chunk does. -/
def carries_audio (stream_state : TranslationStreamState) : Bool :=
  stream_state ≠ .End ∧ stream_state ≠ .Abort

def handle_physical_translation_stream_frame (stream_state : TranslationStreamState)
    (now_ms : Nat) : Bridge S :=
  match frame.cue_id, frame.chunk_index with
  | some cue_id, some chunk_index =>
    if text.trim cue_id.toList = [] then s
    else if ¬ carries_audio stream_state ∧ ¬ frame.monitor_samples.isEmpty then s
    else if carries_audio stream_state ∧ frame.monitor_samples.isEmpty then s
    else if (translation_non_playback_reason frame.translation_playback_enabled
        frame.translated_audio_enabled
        (carries_audio stream_state ∧ frame.monitor_samples.isEmpty)).isSome then s
    else s.admit_stream_frame frame cue_id chunk_index stream_state now_ms
  | _, _ => s

variable (jobs : List (PlaybackJob S)) (status : TranslationPlaybackStatusKind)

/-- The statuses of jobs that leave the queue. -/
def drop_jobs (reason : String) : Bridge S :=
  let emit := fun (state : BridgeState) (job : PlaybackJob S) =>
    state.emit_translation_status job.cue_id status reason
  { s with state := jobs.foldl emit s.state }

theorem drop_jobs_eq (reason : String) :
    s.drop_jobs jobs status reason = { s with state := { s.state with
      statuses := s.state.statuses ++ jobs.map fun job => ⟨job.cue_id, status, reason⟩ } } := by
  unfold drop_jobs
  dsimp only
  rw [← List.foldl_map (f := PlaybackJob.cue_id)
    (g := fun state cue_id => BridgeState.emit_translation_status state cue_id status reason),
    BridgeState.emit_all, List.map_map]
  rfl

@[simp] theorem drop_jobs_generation (reason : String) :
    (s.drop_jobs jobs status reason).state.translation_generation =
      s.state.translation_generation := by
  rw [drop_jobs_eq]

/-- The part of `handle_physical_translation_frame` for a complete cue. -/
def handle_complete_frame (now_ms : Nat) : Bridge S :=
  match translation_non_playback_reason frame.translation_playback_enabled
      frame.translated_audio_enabled frame.monitor_samples.isEmpty with
  | some reason =>
    { s with state := s.state.emit_translation_status frame.cue_id .StaleDropped reason }
  | none =>
    let job := s.job_of frame now_ms
    let s := s.next_arrival
    let (translation_queue, dropped, failure) := s.translation_queue.enqueue job now_ms
    let s := drop_jobs { s with translation_queue } dropped .StaleDropped "realtime-budget"
    match failure with
    | some _ =>
      { s with state := s.state.emit_translation_status job.cue_id .RouteFailed "queue-overflow" }
    | none =>
      let s := (s.try_send .TranslationQueued).getD s
      { s with state := s.state.emit_translation_status frame.cue_id .Queued "accepted" }

def handle_physical_translation_frame (now_ms : Nat) : Bridge S :=
  if frame.translation_playback_enabled ∧ frame.translated_audio_enabled ∧
      ¬ frame.physical_playback_ready then s
  else
    match frame.stream_state with
    | some stream_state => s.handle_physical_translation_stream_frame frame stream_state now_ms
    | none => s.handle_complete_frame frame now_ms

def translation_terminal_status (error_code : Option String) : TranslationPlaybackStatusKind :=
  if error_code.isSome then .RouteFailed else .StaleDropped

/-- The stop ends every cue with a status, begins a new generation and sends the stop of the old
ones over the control channel. -/
def request_playback_stop (reason : String) (error_code : Option String) : Bridge S :=
  let status := translation_terminal_status error_code
  let cues := (s.translation_queue.active.map (·.cue_id)).toList ++
    s.translation_queue.pending.map (·.cue_id) ++
    s.state.physical_translation_stream_ledger.active.keys.map some
  let state := cues.foldl
    (fun state cue_id => state.emit_translation_status cue_id status reason) s.state
  { s with
    state := { state with
      translation_generation := (s.state.translation_generation + 1) % 2 ^ 64
      physical_translation_stream_ledger := .new }
    translation_queue := ⟨[], none⟩
    controls := s.controls ++ [.StopAll
      ⟨reason = "physical-playback-device-changed", s.state.translation_generation⟩] }

/-- `reset_translation_cue_ledgers`, for the streams. -/
def reset_streams : Bridge S :=
  { s with state := { s.state with physical_translation_stream_ledger := .new } }

def handle_bridge_shutdown : Bridge S := s.reset_streams.request_playback_stop "bridge-shutdown" none

def accepted_translation_work : Bool :=
  ¬ s.state.physical_translation_stream_ledger.active.keys.isEmpty ∨
    s.translation_queue.active.isSome ∨ ¬ s.translation_queue.pending.isEmpty

/-- The part of `bridge.init` that holds the state. -/
def handle_bridge_init (device_id : String) (reconfiguration_reason : Option String)
    (reset_physical_stream_ledger : Bool) : Bridge S :=
  let s := { s with state := { s.state with physical_playback_device_id := device_id } }
  if s.accepted_translation_work then
    s.request_playback_stop (reconfiguration_reason.getD "bridge-init-owner-change") none
  else if reset_physical_stream_ledger then s.reset_streams
  else s

/-! ## The loop of the worker -/

def goto (place : Place) : Bridge S := { s with worker := { s.worker with place } }

/-- The bridge after the worker has changed itself and the state. -/
def with_worker (r : PlaybackWorker S × BridgeState) : Bridge S :=
  { s with worker := r.1, state := r.2 }

def apply_playback_control_command (command : PlaybackControlCommand) (e : Outside) : Bridge S :=
  match command with
  | .StopAll request => { s with worker := s.worker.stop_all request }
  | .RebindPhysicalOutput device_id =>
    { s with
      worker := s.worker.rebind_physical_output device_id e
      translation_queue := ⟨[], none⟩ }
  | .TerminateTranslationStream cue_id =>
    { s with worker := s.worker.terminate_translation_stream cue_id }

variable (e : Outside)

/-- One turn of the loop of `apply_playback_control_commands`. -/
def apply_playback_control_commands (next : Place) : Bridge S :=
  match s.controls with
  | [] => s.goto next
  | command :: controls => apply_playback_control_command { s with controls } command e

def finish_completed_translation : Bridge S :=
  if s.worker.output.isSome ∧ ¬ e.player_empty then s
  else
    match s.translation_queue.active with
    | none => s
    | some completed =>
      { s with
        translation_queue := { s.translation_queue with active := none }
        state := s.state.emit_translation_status completed.cue_id .Completed
          "physical-playback-completed" }

/-- The arrival sequence of the first complete cue that waits. -/
def pending_complete_sequence : Option Nat :=
  s.translation_queue.pending.head?.map (·.translation_arrival_sequence)

def complete_playback_active : Bool := s.translation_queue.active.isSome

def active_cue_id : Option String := s.worker.physical_stream.map (·.cue_id)

def take_ready : Bridge S :=
  match PlaybackWorker.take_ready_physical_stream_command s.active_cue_id
      s.worker.pending_physical_streams s.complete_playback_active s.pending_complete_sequence with
  | some (command, pending_physical_streams) =>
    (s.with_worker (PlaybackWorker.play_physical_translation_stream
      { s.worker with pending_physical_streams } s.state command e)).goto .control
  | none => s.goto .receive

/-- A stream command from the channel is played at once or waits. -/
def receive_stream_command (command : PhysicalTranslationStreamCommand S) (e : Outside) : Bridge S :=
  if ¬ PlaybackWorker.pending_physical_stream_command_is_ready s.active_cue_id (some command)
      s.complete_playback_active s.pending_complete_sequence then
    { s with worker := { s.worker with
        pending_physical_streams := s.worker.pending_physical_streams ++ [command] } }
  else s.with_worker (s.worker.play_physical_translation_stream s.state command e)

def play_source_job (device_id : String) (e : Outside) : Bridge S :=
  { s with worker := { s.worker with
      output := (s.worker.output_for device_id e).toOption.or s.worker.output } }

def receive : Bridge S :=
  match s.commands with
  | [] => s
  | command :: commands =>
    let s := { s with commands }
    match command with
    | .Play device_id => s.play_source_job device_id e
    | .TranslationStream command => s.receive_stream_command command e
    | .TranslationQueued => s
    | .FlushSource => s

def check_complete : Bridge S :=
  if PlaybackWorker.complete_translation_command_is_ready s.worker.physical_stream.isSome
      s.complete_playback_active s.pending_complete_sequence
      (s.worker.pending_physical_streams.head?.map (·.job.translation_arrival_sequence)) then
    s.goto .start_next
  else s.goto .control

def start_next_translation : Bridge S :=
  let (translation_queue, job, dropped) := s.translation_queue.start_next e.now_ms
  let s := drop_jobs { s with translation_queue } dropped .StaleDropped
    "realtime-budget-before-start"
  match job with
  | none => s
  | some job =>
    match s.worker.output_for job.device_id e with
    | .error error =>
      { s with
        translation_queue := { s.translation_queue with active := none }
        state := s.state.emit_translation_status job.cue_id .RouteFailed
          ("physical-output-open-failed:" ++ error) }
    | .ok output =>
      let translation_player :=
        if output.translation_generation.isSome ∧
          output.translation_generation ≠ some job.translation_generation then []
        else output.translation_player
      { s with
        worker := { s.worker with
          output := some { output with
            translation_generation := some job.translation_generation
            translation_player := translation_player ++ [job.samples] } }
        state := s.state.emit_translation_status job.cue_id .Started "physical-playback-started" }

/-- One step of the loop of `run_playback_worker`. -/
def run_playback_worker : Bridge S :=
  match s.worker.place with
  | .control => s.apply_playback_control_commands e .start_stream
  | .start_stream => (s.with_worker
      (s.worker.start_buffered_physical_stream_if_ready s.state e)).goto .finish_stream
  | .finish_stream => (s.with_worker
      (s.worker.finish_completed_physical_stream s.state e)).goto .finish_translation
  | .finish_translation => (s.finish_completed_translation e).goto .take
  | .take => s.take_ready e
  | .receive => (s.receive e).goto .control_again
  | .control_again => s.apply_playback_control_commands e .check_complete
  | .check_complete => s.check_complete
  | .start_next => (s.start_next_translation e).goto .control

end Bridge

def step (s : Bridge S) : Op S → Bridge S
  | .translation_frame frame now_ms => s.handle_physical_translation_frame frame now_ms
  | .source_frame => (s.try_send (.Play s.state.physical_playback_device_id)).getD s
  | .flush_source => (s.try_send .FlushSource).getD s
  | .request_playback_stop reason error_code => s.request_playback_stop reason error_code
  | .bridge_shutdown => s.handle_bridge_shutdown
  | .bridge_init device_id reconfiguration_reason reset_physical_stream_ledger =>
    s.handle_bridge_init device_id reconfiguration_reason reset_physical_stream_ledger
  | .rebind device_id => { s with controls := s.controls ++ [.RebindPhysicalOutput device_id] }
  | .work e => s.run_playback_worker e

end omni_translate.playback
