-- The cues that the Bridge holds: the complete ones that wait or play, the streams that are
-- open, and the stream that the worker plays. A step tells of the end of a cue only when it
-- gives the cue up, and takes on no cue but that of its frame.
import OmniTranslate.Maps
import OmniTranslate.StreamOrder

namespace omni_translate.playback

open bridge_playback_ack (TranslationPlaybackStatusKind)

variable {S : Type}

/-! ## What is held -/

/-- The cues of the queue, the one that plays first. -/
def queue_cues (queue : TranslationPlaybackQueue S) : List (Option String) :=
  queue.active.toList.map (·.cue_id) ++ queue.pending.map (·.cue_id)

/-- The streams that are to begin. -/
def start_cues (waiting : List (PhysicalTranslationStreamCommand S)) : List String :=
  (waiting.filter (·.state = .Start)).map (·.job.cue_id.getD "")

/-- The stream commands that the worker has not played yet. -/
def waiting_commands (b : Bridge S) : List (PhysicalTranslationStreamCommand S) :=
  b.worker.pending_physical_streams ++ stream_commands b.commands

def opened (b : BridgeState) (id : String) : Prop := id ∈ b.physical_translation_stream_ledger.active

/-- The cue waits or plays. -/
def Holds (b : Bridge S) (cue_id : Option String) : Prop :=
  cue_id ∈ queue_cues b.translation_queue ∨ ∃ id, cue_id = some id ∧ opened b.state id

/-- Nothing waits, and nothing plays. -/
def is_silent (b : Bridge S) : Bool :=
  !b.accepted_translation_work && b.worker.physical_stream.isNone

/-- The streams of the ledger, of the worker and of the commands that are to begin: one that plays is open and does
not begin again, and one that is to begin is open. -/
structure Streams (b : BridgeState) (playing : Option String) (starts : List String) : Prop where
  starts_once : starts.Nodup
  starts_open : ∀ id ∈ starts, opened b id
  plays : ∀ id ∈ playing, opened b id ∧ id ∉ starts

/-- No cue is held twice. -/
structure Orderly (b : Bridge S) : Prop where
  once : (queue_cues b.translation_queue).Nodup
  apart : ∀ id, opened b.state id → some id ∉ queue_cues b.translation_queue
  streams : Streams b.state b.active_cue_id (start_cues (waiting_commands b))

theorem orderly_new (device_id : String) : Orderly (Bridge.new device_id : Bridge S) where
  once := List.nodup_nil
  apart := fun _ _ h => by cases h
  streams := ⟨List.nodup_nil, fun _ h => (by cases h), fun _ h => (by cases h)⟩

/-- In an orderly Bridge that holds no cue there is silence. -/
theorem Orderly.silent {b : Bridge S} (h : Orderly b) (hnone : ∀ cue_id, ¬ Holds b cue_id) : is_silent b = true := by
  have hqueue : queue_cues b.translation_queue = [] :=
    List.eq_nil_iff_forall_not_mem.mpr fun cue_id hin => hnone cue_id (.inl hin)
  have hkeys : b.state.physical_translation_stream_ledger.active.keys = [] :=
    List.eq_nil_iff_forall_not_mem.mpr fun id hin => hnone (some id) (.inr ⟨id, rfl, AList.mem_keys.mpr hin⟩)
  have hstream : b.worker.physical_stream = none := by
    cases hplays : b.worker.physical_stream with
    | none => rfl
    | some stream =>
      have hopen := (h.streams.plays stream.cue_id (by simp [Bridge.active_cue_id, hplays])).1
      exact absurd (.inr ⟨stream.cue_id, rfl, hopen⟩) (hnone (some stream.cue_id))
  obtain ⟨hactive, hpending⟩ := List.append_eq_nil_iff.mp hqueue
  have hactive : b.translation_queue.active = none := by simpa using hactive
  have hpending : b.translation_queue.pending = [] := by simpa using hpending
  simp [is_silent, Bridge.accepted_translation_work, hkeys, hactive, hpending, hstream]

/-! ## What a step tells -/

/-- The terminal statuses that are new are those of the cues that have ended. -/
structure Tells (b b' : BridgeState) (ended : List (Option String)) : Prop where
  grows : b.statuses <+: b'.statuses
  terminal : ∀ status ∈ b'.statuses.drop b.statuses.length, status.status.is_terminal = true → status.cue_id ∈ ended

section

variable {b b' b'' : BridgeState} {ended more : List (Option String)}

theorem Tells.refl (b : BridgeState) (ended : List (Option String)) : Tells b b ended :=
  ⟨List.prefix_refl _, fun _ hin => by simp at hin⟩

theorem Tells.of_append (statuses : List TranslationStatus) (h : b'.statuses = b.statuses ++ statuses)
    (hended : ∀ status ∈ statuses, status.status.is_terminal = true → status.cue_id ∈ ended) : Tells b b' ended := by
  refine ⟨⟨statuses, h.symm⟩, ?_⟩
  rw [h, List.drop_left]
  exact hended

theorem Tells.trans (h : Tells b b' ended) (h' : Tells b' b'' ended) : Tells b b'' ended := by
  obtain ⟨first, hfirst⟩ := h.grows
  obtain ⟨last, hlast⟩ := h'.grows
  have ht := h.terminal
  have ht' := h'.terminal
  rw [← hfirst, List.drop_left] at ht
  rw [← hlast, List.drop_left] at ht'
  refine .of_append (first ++ last) (by rw [← hlast, ← hfirst, List.append_assoc]) ?_
  intro status hin
  exact (List.mem_append.mp hin).elim (ht status) (ht' status)

theorem Tells.mono (h : Tells b b' ended) (hsub : ended ⊆ more) : Tells b b' more :=
  ⟨h.grows, fun status hin hterminal => hsub (h.terminal status hin hterminal)⟩

theorem Tells.emit (ended : List (Option String)) (b : BridgeState) (cue_id : Option String) {status : TranslationPlaybackStatusKind} (reason : String)
    (h : status.is_terminal = true → cue_id ∈ ended) : Tells b (b.emit_translation_status cue_id status reason) ended :=
  .of_append _ rfl fun _ hin => by
    rw [List.mem_singleton.mp hin]
    exact h

end

/-! ## The streams -/

/-- The streams that a step of the worker ends. -/
structure Shuts (b b' : BridgeState) (ids : List String) : Prop where
  opened : ∀ id, opened b' id ↔ opened b id ∧ id ∉ ids
  were : ∀ id ∈ ids, playback.opened b id
  tells : Tells b b' (ids.map some)

section

variable {b b' b'' : BridgeState} {ids : List String} {playing playing' : Option String} {starts starts' : List String}

theorem Shuts.nothing (b : BridgeState) : Shuts b b [] :=
  ⟨fun _ => by simp, fun _ h => (by cases h), .refl b _⟩

theorem Shuts.emit (b : BridgeState) (cue_id : Option String) (status : TranslationPlaybackStatusKind) (reason : String)
    (h : status.is_terminal = false) : Shuts b (b.emit_translation_status cue_id status reason) [] where
  opened _ := by simp [playback.opened, BridgeState.emit_translation_status]
  were _ h := by cases h
  tells := .emit _ b cue_id reason fun hterminal => by rw [h] at hterminal; cases hterminal

theorem Shuts.quietly (h : Shuts b b' []) (h' : Shuts b' b'' ids) : Shuts b b'' ids where
  opened id := by simp [h'.opened id, h.opened id]
  were id hin := ((h.opened id).mp (h'.were id hin)).1
  tells := (h.tells.mono (List.nil_subset _)).trans h'.tells

/-- The claim of a terminal ends the stream, or does nothing. -/
theorem claim_shuts (b : BridgeState) (id : String) (generation : Nat) (status : TranslationPlaybackStatusKind)
    (reason : String) :
    Shuts b (b.claim_terminal_status id generation status reason) [] ∨
      Shuts b (b.claim_terminal_status id generation status reason) [id] := by
  unfold BridgeState.claim_terminal_status PhysicalTranslationStreamLedger.claim_terminal
  cases hclaim : (b.physical_translation_stream_ledger.active.lookup id).any
      (·.translation_generation = generation) with
  | false => exact .inl (.nothing b)
  | true =>
    right
    refine ⟨fun other => ?_, fun other hin => ?_, .of_append _ rfl fun _ hin _ => ?_⟩
    · simp [playback.opened, BridgeState.emit_translation_status, AList.mem_erase, and_comm]
    · obtain ⟨_, hcursor, -⟩ := (Option.any_eq_true _ _).mp hclaim
      rw [List.mem_singleton.mp hin]
      exact maps.mem_of_lookup hcursor
    · rw [List.mem_singleton.mp hin]
      exact List.mem_singleton_self _

/-- What is left of the streams after some have ended, when what plays and what is to begin are none of these. -/
theorem Streams.shuts (h : Streams b playing starts) (hshuts : Shuts b b' ids) (hstarts : starts'.Sublist starts)
    (hleft : ∀ id ∈ starts', id ∉ ids) (hplays : ∀ id ∈ playing', opened b id ∧ id ∉ ids ∧ id ∉ starts') :
    Streams b' playing' starts' where
  starts_once := h.starts_once.sublist hstarts
  starts_open id hin := (hshuts.opened id).mpr ⟨h.starts_open id (hstarts.subset hin), hleft id hin⟩
  plays id hin := by
    obtain ⟨hopen, hstays, hnot⟩ := hplays id hin
    exact ⟨(hshuts.opened id).mpr ⟨hopen, hstays⟩, hnot⟩

theorem Streams.quietly (h : Streams b playing starts) (hshuts : Shuts b b' []) (hstarts : starts'.Sublist starts) :
    Streams b' playing starts' :=
  h.shuts hshuts hstarts (fun _ _ hin => by cases hin) fun id hin =>
    ⟨(h.plays id hin).1, fun hnil => (by cases hnil), fun hstart => (h.plays id hin).2 (hstarts.subset hstart)⟩

theorem Streams.ends {id : String} (h : Streams b (some id) starts) (hshuts : Shuts b b' [id]) : Streams b' none starts :=
  h.shuts hshuts (List.Sublist.refl _)
    (fun _ hin heq => (h.plays id rfl).2 (List.mem_singleton.mp heq ▸ hin)) fun _ hin => by cases hin

end

section

variable {b : BridgeState} {w : PlaybackWorker S} {command : PhysicalTranslationStreamCommand S}
  {rest : List (PhysicalTranslationStreamCommand S)}

def cue_of (w : PlaybackWorker S) : Option String := w.physical_stream.map (·.cue_id)

/-- A step of the worker that ends at most one stream. -/
structure StreamStep (b : BridgeState) (r : PlaybackWorker S × BridgeState) (starts : List String) : Prop where
  shuts : ∃ ids, Shuts b r.2 ids
  streams : Streams r.2 (cue_of r.1) starts

theorem start_cues_start (h : command.state = .Start) :
    start_cues (command :: rest) = command.job.cue_id.getD "" :: start_cues rest := by
  simp [start_cues, h]

theorem start_cues_other (h : command.state ≠ .Start) : start_cues (command :: rest) = start_cues rest := by
  simp [start_cues, h]

theorem start_cues_rest (command : PhysicalTranslationStreamCommand S)
    (rest : List (PhysicalTranslationStreamCommand S)) :
    (start_cues rest).Sublist (start_cues (command :: rest)) := by
  exact ((List.sublist_cons_self command rest).filter _).map _

theorem start_buffered_shuts (w : PlaybackWorker S) (b : BridgeState) (e : Outside) :
    Shuts b (w.start_buffered_physical_stream_if_ready b e).2 [] ∧
      cue_of (w.start_buffered_physical_stream_if_ready b e).1 = cue_of w := by
  rcases w.start_buffered_cases b e with heq | ⟨_, hstream, heq⟩
  · rw [heq]
    exact ⟨.nothing b, rfl⟩
  · rw [heq]
    exact ⟨.emit b _ _ _ rfl, by simp [cue_of, hstream]⟩

theorem append_audio_shuts (w : PlaybackWorker S) (b : BridgeState) (job : PlaybackJob S) (cue_id : String)
    (e : Outside) :
    Shuts b (w.append_stream_audio b job cue_id e).2 [] ∧
      cue_of (w.append_stream_audio b job cue_id e).1 = cue_of w := by
  unfold PlaybackWorker.append_stream_audio
  split
  · next stream output hstream houtput =>
    split
    · obtain ⟨hshuts, hcue⟩ := start_buffered_shuts { w with
        physical_stream := some { stream with
          playback_frames := saturating_add stream.playback_frames (frames_of job.samples) }
        output := some { output with
          translation_generation := some job.translation_generation
          translation_player := output.translation_player ++ [job.samples] }
        appended := w.appended ++ [(cue_id, job.samples)] } b e
      exact ⟨hshuts, hcue.trans (by simp [cue_of, hstream])⟩
    · exact ⟨.nothing b, rfl⟩
  · exact ⟨.nothing b, rfl⟩

/-- A start is played when its stream is open, and its stream plays or ends. -/
theorem start_plays {id : String} {starts : List String} (h : Streams b (cue_of w) (id :: starts))
    (job : PlaybackJob S) (e : Outside) : StreamStep b (w.start_physical_stream b job id e) starts := by
  have hnew : id ∉ starts := (List.nodup_cons.mp h.starts_once).1
  have hclaims : ∀ (generation : Nat) (status : TranslationPlaybackStatusKind) (reason : String),
      StreamStep b (w, b.claim_terminal_status id generation status reason) starts := by
    intro generation status reason
    rcases claim_shuts b id generation status reason with hshuts | hshuts
    · exact ⟨⟨_, hshuts⟩, h.quietly hshuts (List.sublist_cons_self _ _)⟩
    · refine ⟨⟨_, hshuts⟩, h.shuts hshuts (List.sublist_cons_self _ _) (fun other hin heq => ?_) fun other hin => ?_⟩
      · exact hnew (List.mem_singleton.mp heq ▸ hin)
      · obtain ⟨hopen, hstart⟩ := h.plays other hin
        exact ⟨hopen, fun heq => hstart (List.mem_singleton.mp heq ▸ List.mem_cons_self),
          fun hin => hstart (List.mem_cons_of_mem _ hin)⟩
  unfold PlaybackWorker.start_physical_stream
  split
  · exact hclaims _ _ _
  · split
    · exact hclaims _ _ _
    · next output houtput =>
      obtain ⟨hshuts, hcue⟩ := append_audio_shuts
        { w with
          output := some output
          physical_stream := some ⟨id, 0, job.translation_generation, false, false⟩ }
        (b.emit_translation_status (some id) .Queued "accepted-stream") job id e
      have hshuts := (Shuts.emit b (some id) .Queued "accepted-stream" rfl).quietly hshuts
      refine ⟨⟨_, hshuts⟩, h.shuts hshuts (List.sublist_cons_self _ _) (fun _ _ hin => by cases hin) ?_⟩
      intro other hin
      rw [hcue] at hin
      obtain rfl : id = other := Option.some.inj hin
      exact ⟨h.starts_open id List.mem_cons_self, fun hnil => (by cases hnil), hnew⟩

theorem play_plays (h : Streams b (cue_of w) (start_cues (command :: rest))) (e : Outside) :
    StreamStep b (w.play_physical_translation_stream b command e) (start_cues rest) := by
  have hquiet : ∀ {r : PlaybackWorker S × BridgeState}, Shuts b r.2 [] → cue_of r.1 = cue_of w →
      StreamStep b r (start_cues rest) := fun hshuts hcue =>
    ⟨⟨_, hshuts⟩, by rw [hcue]; exact h.quietly hshuts (start_cues_rest command rest)⟩
  unfold PlaybackWorker.play_physical_translation_stream PlaybackWorker.play_command
  dsimp only
  split
  · exact hquiet (.nothing b) rfl
  split
  · refine hquiet (.nothing b) ?_
    split <;> rfl
  split
  · unfold PlaybackWorker.abort_physical_stream
    split
    · next hsame =>
      have hcue : cue_of w = some (command.job.cue_id.getD "") := by
        obtain ⟨stream, hstream, heq⟩ := (Option.any_eq_true _ _).mp hsame
        dsimp only at hstream
        simp [cue_of, hstream, of_decide_eq_true heq]
      rw [hcue] at h
      have h := h.quietly (.nothing b) (start_cues_rest command rest)
      rcases claim_shuts b (command.job.cue_id.getD "") command.job.translation_generation .RouteFailed
        "physical-playback-stream-aborted" with hshuts | hshuts
      · exact ⟨⟨_, hshuts⟩, h.shuts hshuts (List.Sublist.refl _) (fun _ _ hin => by cases hin) fun _ hin => by cases hin⟩
      · exact ⟨⟨_, hshuts⟩, h.ends hshuts⟩
    · exact hquiet (.nothing b) rfl
  · obtain ⟨hshuts, hcue⟩ := start_buffered_shuts
      { w with
        played := w.played ++ [command]
        physical_stream := w.physical_stream.map fun stream =>
          if stream.cue_id = command.job.cue_id.getD "" then { stream with ended := true } else stream } b e
    refine hquiet hshuts (hcue.trans ?_)
    simp only [cue_of, Option.map_map]
    congr 1
    funext stream
    dsimp only [Function.comp]
    split <;> rfl
  · next hstart =>
    rw [start_cues_start hstart] at h
    exact start_plays (w := { w with played := w.played ++ [command] }) h command.job e
  · obtain ⟨hshuts, hcue⟩ := append_audio_shuts { w with played := w.played ++ [command] } b command.job
      (command.job.cue_id.getD "") e
    exact hquiet hshuts hcue

/-- The stream that plays is over when the player has run empty after its end. -/
theorem finish_plays {starts : List String} (h : Streams b (cue_of w) starts) (e : Outside) :
    StreamStep b (w.finish_completed_physical_stream b e) starts := by
  unfold PlaybackWorker.finish_completed_physical_stream
  split
  · exact ⟨⟨_, .nothing b⟩, h⟩
  · next stream hstream =>
    split
    · exact ⟨⟨_, .nothing b⟩, h⟩
    · have hcue : cue_of w = some stream.cue_id := by simp [cue_of, hstream]
      rw [hcue] at h
      rcases claim_shuts b stream.cue_id stream.translation_generation .Completed
        "physical-playback-stream-completed" with hshuts | hshuts
      · exact ⟨⟨_, hshuts⟩, h.shuts hshuts (List.Sublist.refl _) (fun _ _ hin => by cases hin) fun _ hin => by cases hin⟩
      · exact ⟨⟨_, hshuts⟩, h.ends hshuts⟩

end

/-! ## The queue -/

theorem drain_cues (start_ms : Nat) (jobs : List (PlaybackJob S)) :
    jobs.Perm ((TranslationPlaybackQueue.drain_jobs start_ms jobs).1 ++
      (TranslationPlaybackQueue.drain_jobs start_ms jobs).2) := by
  induction jobs generalizing start_ms with
  | nil => exact .refl _
  | cons job jobs ih =>
    unfold TranslationPlaybackQueue.drain_jobs
    split
    · exact ((ih _).cons job).trans List.perm_middle.symm
    · exact (ih _).cons job

variable (queue : TranslationPlaybackQueue S)

/-- The cues of the queue are those that it keeps and those of the jobs that it drops. -/
theorem drain_perm (now_ms : Nat) :
    (queue_cues queue).Perm (queue_cues (queue.drain_expired_pending now_ms).1 ++
      (queue.drain_expired_pending now_ms).2.map (·.cue_id)) := by
  unfold queue_cues TranslationPlaybackQueue.drain_expired_pending
  rw [List.append_assoc, ← List.map_append]
  exact ((drain_cues _ _).map _).append_left _

theorem enqueue_perm (job : PlaybackJob S) (now_ms : Nat) :
    ((if (queue.enqueue job now_ms).2.2.isSome then [] else [job.cue_id]) ++ queue_cues queue).Perm
      (queue_cues (queue.enqueue job now_ms).1 ++ (queue.enqueue job now_ms).2.1.map (·.cue_id)) := by
  have hdrain := drain_perm queue now_ms
  unfold TranslationPlaybackQueue.enqueue
  dsimp only
  split
  · exact hdrain
  split
  · exact hdrain
  · refine (hdrain.cons job.cue_id).trans ?_
    unfold queue_cues
    simp only [List.map_append, List.map_cons, List.map_nil, List.append_assoc, List.singleton_append]
    rw [← List.append_assoc, ← List.append_assoc]
    exact List.perm_middle.symm

theorem start_next_perm (now_ms : Nat) :
    (queue_cues queue).Perm (queue_cues (queue.start_next now_ms).1 ++
      (queue.start_next now_ms).2.2.map (·.cue_id)) := by
  have hdrain := drain_perm queue now_ms
  unfold TranslationPlaybackQueue.start_next
  split
  · simp
  · next hidle =>
    dsimp only
    split
    · exact hdrain
    · next job pending hpending =>
      refine hdrain.trans ?_
      have hactive : (queue.drain_expired_pending now_ms).1.active = none := by
        change queue.active = none
        simpa using hidle
      simp [queue_cues, hactive, hpending]

/-! ## A step of the Bridge -/

/-- The Bridge gives up the cues whose end it tells, and takes on those that are new. -/
structure Balances (b b' : Bridge S) (ended new : List (Option String)) : Prop where
  orderly : Orderly b'
  tells : Tells b.state b'.state ended
  held : ∀ cue_id, Holds b' cue_id → Holds b cue_id ∨ cue_id ∈ new
  were : ∀ cue_id ∈ ended, Holds b cue_id ∨ cue_id ∈ new
  gone : ∀ cue_id ∈ ended, ¬ Holds b' cue_id

section

variable {b b' : Bridge S}

section

variable (h : Orderly b)

include h

theorem Orderly.stream_step (ids : List String)
    (hqueue : queue_cues b'.translation_queue = queue_cues b.translation_queue)
    (hshuts : Shuts b.state b'.state ids)
    (hstreams : Streams b'.state b'.active_cue_id (start_cues (waiting_commands b'))) :
    Balances b b' (ids.map some) [] where
  orderly := by
    refine ⟨by rw [hqueue]; exact h.once, fun id hopen => ?_, hstreams⟩
    rw [hqueue]
    exact h.apart id ((hshuts.opened id).mp hopen).1
  tells := hshuts.tells
  held cue_id hholds := by
    rw [Holds, hqueue] at hholds
    exact .inl (hholds.imp_right fun ⟨id, hid, hopen⟩ => ⟨id, hid, ((hshuts.opened id).mp hopen).1⟩)
  were cue_id hin := by
    obtain ⟨id, hid, rfl⟩ := List.mem_map.mp hin
    exact .inl (.inr ⟨id, rfl, hshuts.were id hid⟩)
  gone cue_id hin := by
    obtain ⟨id, hid, rfl⟩ := List.mem_map.mp hin
    rintro (hqueued | ⟨_, heq, hopen⟩)
    · rw [hqueue] at hqueued
      exact h.apart id (hshuts.were id hid) hqueued
    · obtain rfl := Option.some.inj heq
      exact ((hshuts.opened id).mp hopen).2 hid

theorem Orderly.queue_step {ended : List (Option String)} (new : List (Option String))
    (hperm : (new ++ queue_cues b.translation_queue).Perm (queue_cues b'.translation_queue ++ ended))
    (honce : new.Nodup) (hnew : ∀ cue_id ∈ new, ¬ Holds b cue_id)
    (hledger : b'.state.physical_translation_stream_ledger = b.state.physical_translation_stream_ledger)
    (hplays : b'.active_cue_id = b.active_cue_id)
    (hstarts : start_cues (waiting_commands b') = start_cues (waiting_commands b))
    (htells : Tells b.state b'.state ended) : Balances b b' ended new := by
  have hopened : ∀ id, opened b'.state id ↔ opened b.state id := fun id => by rw [opened, hledger, opened]
  have hnodup : (new ++ queue_cues b.translation_queue).Nodup :=
    List.nodup_append'.mpr ⟨honce, h.once, fun cue_id hin hqueued => hnew cue_id hin (.inl hqueued)⟩
  obtain ⟨honce', -, hapart'⟩ := List.nodup_append'.mp (hperm.nodup_iff.mp hnodup)
  have hbefore : ∀ cue_id, cue_id ∈ queue_cues b'.translation_queue ∨ cue_id ∈ ended →
      cue_id ∈ queue_cues b.translation_queue ∨ cue_id ∈ new := by
    intro cue_id hin
    exact (List.mem_append.mp (hperm.mem_iff.mpr (List.mem_append.mpr hin))).symm
  have hnever : ∀ id, opened b.state id → ¬ (some id ∈ queue_cues b.translation_queue ∨ some id ∈ new) := by
    rintro id hopen (hqueued | hin)
    · exact h.apart id hopen hqueued
    · exact hnew _ hin (.inr ⟨id, rfl, hopen⟩)
  refine ⟨⟨honce', fun id hopen hqueued => ?_, ?_⟩, htells, ?_, ?_, ?_⟩
  · exact hnever id ((hopened id).mp hopen) (hbefore _ (.inl hqueued))
  · rw [hplays, hstarts]
    refine ⟨h.streams.starts_once, fun id hin => (hopened id).mpr (h.streams.starts_open id hin), fun id hin => ?_⟩
    exact ⟨(hopened id).mpr (h.streams.plays id hin).1, (h.streams.plays id hin).2⟩
  · rintro cue_id (hqueued | ⟨id, hid, hopen⟩)
    · exact (hbefore cue_id (.inl hqueued)).imp_left .inl
    · exact .inl (.inr ⟨id, hid, (hopened id).mp hopen⟩)
  · intro cue_id hin
    exact (hbefore cue_id (.inr hin)).imp_left .inl
  · rintro cue_id hin (hqueued | ⟨id, rfl, hopen⟩)
    · exact hapart' hqueued hin
    · exact hnever id ((hopened id).mp hopen) (hbefore _ (.inr hin))

/-- A step that tells nothing, and at most drops something. -/
theorem Orderly.less (hstate : b'.state = b.state)
    (hqueue : (queue_cues b'.translation_queue).Sublist (queue_cues b.translation_queue))
    (hplays : ∀ id ∈ b'.active_cue_id, id ∈ b.active_cue_id)
    (hstarts : (start_cues (waiting_commands b')).Sublist (start_cues (waiting_commands b))) :
    Balances b b' [] [] where
  orderly := by
    refine ⟨h.once.sublist hqueue, fun id hopen hin => ?_, ?_⟩
    · rw [hstate] at hopen
      exact h.apart id hopen (hqueue.subset hin)
    · rw [hstate]
      exact h.streams.shuts (.nothing _) hstarts (fun _ _ hin => by cases hin) fun id hin =>
        ⟨(h.streams.plays id (hplays id hin)).1, fun hnil => (by cases hnil), fun hstart =>
          (h.streams.plays id (hplays id hin)).2 (hstarts.subset hstart)⟩
  tells := by
    rw [hstate]
    exact .refl _ _
  held cue_id hholds := by
    rw [Holds, hstate] at hholds
    exact .inl (hholds.imp_left fun hin => hqueue.subset hin)
  were _ hin := by cases hin
  gone _ hin := by cases hin

/-- A step that neither the queue nor the streams notice. -/
theorem Orderly.same (hstate : b'.state = b.state)
    (hqueue : b'.translation_queue = b.translation_queue)
    (hplays : b'.active_cue_id = b.active_cue_id)
    (hstarts : waiting_commands b' = waiting_commands b) : Balances b b' [] [] :=
  h.less hstate (by rw [hqueue]) (fun _ hin => hplays ▸ hin) (by rw [hstarts])

/-! ## The worker -/

/-- The worker goes on to its next place after a step that leaves the commands alone. -/
theorem Orderly.serves {r : PlaybackWorker S × BridgeState} (place : Place)
    (hpending : r.1.pending_physical_streams = b.worker.pending_physical_streams)
    (hplays : StreamStep b.state r (start_cues (waiting_commands b))) :
    ∃ ended, Balances b ((b.with_worker r).goto place) ended [] := by
  obtain ⟨⟨ids, hshuts⟩, hstreams⟩ := hplays
  refine ⟨_, h.stream_step ids rfl hshuts ?_⟩
  have hwaiting : waiting_commands ((b.with_worker r).goto place) = waiting_commands b := by
    simp [waiting_commands, Bridge.with_worker, Bridge.goto, hpending]
  rw [hwaiting]
  exact hstreams

theorem Orderly.plays_command {command : PhysicalTranslationStreamCommand S}
    (pending : List (PhysicalTranslationStreamCommand S)) (commands : List (PlaybackCommand S))
    (hwaiting : (waiting_commands b).Perm (command :: (pending ++ stream_commands commands)))
    (e : Outside) (place : Place) :
    ∃ ended, Balances b
      ((Bridge.with_worker { b with commands } (PlaybackWorker.play_physical_translation_stream
        { b.worker with pending_physical_streams := pending } b.state command e)).goto place) ended [] := by
  have hstarts : (start_cues (waiting_commands b)).Perm (start_cues (command :: (pending ++ stream_commands commands))) :=
    (hwaiting.filter _).map _
  have hstreams : Streams b.state (cue_of { b.worker with pending_physical_streams := pending })
      (start_cues (command :: (pending ++ stream_commands commands))) :=
    ⟨hstarts.nodup_iff.mp h.streams.starts_once, fun id hin => h.streams.starts_open id (hstarts.mem_iff.mpr hin),
      fun id hin => ⟨(h.streams.plays id hin).1, fun hstart => (h.streams.plays id hin).2 (hstarts.mem_iff.mpr hstart)⟩⟩
  obtain ⟨⟨ids, hshuts⟩, hplays⟩ := play_plays hstreams e
  refine ⟨_, h.stream_step ids rfl hshuts ?_⟩
  rw [show waiting_commands _ = pending ++ stream_commands commands by
    simp [waiting_commands, Bridge.with_worker, Bridge.goto]]
  exact hplays

theorem Orderly.goes_on (place : Place) : Balances b (b.goto place) [] [] :=
  h.same rfl rfl rfl rfl

end

theorem Balances.at_place {ended new : List (Option String)} (h : Balances b b' ended new) (place : Place) :
    Balances b (b'.goto place) ended new :=
  ⟨⟨h.orderly.once, h.orderly.apart, h.orderly.streams⟩, h.tells, h.held, h.were, h.gone⟩

theorem Orderly.control (h : Orderly b) (e : Outside) (next : Place) :
    Balances b (b.apply_playback_control_commands e next) [] [] := by
  unfold Bridge.apply_playback_control_commands
  split
  · exact h.goes_on next
  · next command controls hcontrols =>
    have hnone : (start_cues (stream_commands b.commands)).Sublist (start_cues (waiting_commands b)) :=
      ((List.sublist_append_right _ _).filter _).map _
    cases command with
    | StopAll _ => exact h.less rfl (List.Sublist.refl _) (fun _ hin => by cases hin) hnone
    | RebindPhysicalOutput _ =>
      exact h.less rfl (List.nil_sublist _) (fun _ hin => by cases hin) hnone
    | TerminateTranslationStream cue_id =>
      refine h.less rfl (List.Sublist.refl _) (fun _ hin => ?_) ?_
      · unfold Bridge.apply_playback_control_command PlaybackWorker.terminate_translation_stream at hin
        dsimp only [Bridge.active_cue_id] at hin
        split at hin
        · cases hin
        · exact hin
      · refine (List.Sublist.filter _ ?_).map _
        have hkept : (waiting_commands (Bridge.apply_playback_control_command { b with controls }
            (.TerminateTranslationStream cue_id) e)) =
            b.worker.pending_physical_streams.filter (·.job.cue_id ≠ some cue_id) ++ stream_commands b.commands := by
          unfold Bridge.apply_playback_control_command PlaybackWorker.terminate_translation_stream waiting_commands
          dsimp only
          split <;> rfl
        rw [hkept]
        exact List.filter_sublist.append_right _

theorem Orderly.finish_translation (h : Orderly b) (e : Outside) :
    ∃ ended, Balances b (b.finish_completed_translation e) ended [] := by
  unfold Bridge.finish_completed_translation
  split
  · exact ⟨_, h.same rfl rfl rfl rfl⟩
  · split
    · exact ⟨_, h.same rfl rfl rfl rfl⟩
    · next completed hactive =>
      refine ⟨[completed.cue_id], h.queue_step [] ?_ List.nodup_nil (fun _ hin => by cases hin) rfl rfl rfl ?_⟩
      · have hcues : queue_cues b.translation_queue =
            completed.cue_id :: b.translation_queue.pending.map (·.cue_id) := by simp [queue_cues, hactive]
        rw [hcues]
        exact (List.perm_append_singleton _ _).symm
      · exact .emit _ _ _ _ fun _ => List.mem_singleton_self _

theorem take_ready_perm {active_cue_id : Option String}
    {pending rest : List (PhysicalTranslationStreamCommand S)} {complete_playback_active : Bool}
    {sequence : Option Nat} {command : PhysicalTranslationStreamCommand S}
    (h : PlaybackWorker.take_ready_physical_stream_command active_cue_id pending
      complete_playback_active sequence = some (command, rest)) : pending.Perm (command :: rest) := by
  unfold PlaybackWorker.take_ready_physical_stream_command at h
  split at h
  · split at h
    · cases h
    · next found hfound =>
      cases h
      obtain ⟨hcommand, _, _, rfl, hbefore⟩ := List.find?_eq_some_iff_append.mp hfound
      rw [List.eraseP_append_right _ fun other hin => by simpa using hbefore other hin,
        List.eraseP_cons_of_pos (by simpa using hcommand)]
      exact List.perm_middle
  · split at h
    · cases h
    · split at h
      · cases h
        exact .refl _
      · cases h

theorem Orderly.take_ready (h : Orderly b) (e : Outside) : ∃ ended, Balances b (b.take_ready e) ended [] := by
  unfold Bridge.take_ready
  split
  · next command pending htake =>
    exact h.plays_command pending b.commands ((take_ready_perm htake).append_right _) e .control
  · exact ⟨_, h.goes_on .receive⟩

theorem stream_commands_skip {command : PlaybackCommand S} (h : stream_command command = none)
    (commands : List (PlaybackCommand S)) : stream_commands (command :: commands) = stream_commands commands :=
  List.filterMap_cons_none h

theorem Orderly.receive (h : Orderly b) (e : Outside) (place : Place) :
    ∃ ended, Balances b ((b.receive e).goto place) ended [] := by
  unfold Bridge.receive
  split
  · exact ⟨_, h.goes_on place⟩
  · next command commands hcommands =>
    have hskip : stream_command command = none →
        b.worker.pending_physical_streams ++ stream_commands commands = waiting_commands b := by
      intro hnone
      rw [waiting_commands, hcommands, stream_commands_skip hnone]
    dsimp only
    split
    · exact ⟨_, h.same rfl rfl rfl (hskip rfl)⟩
    · next stream =>
      have hwaiting : waiting_commands b =
          b.worker.pending_physical_streams ++ stream :: stream_commands commands := by
        rw [waiting_commands, hcommands]
        rfl
      unfold Bridge.receive_stream_command
      split
      · refine ⟨_, h.same rfl rfl rfl ?_⟩
        rw [hwaiting]
        exact List.append_assoc _ [stream] _
      · refine h.plays_command b.worker.pending_physical_streams commands ?_ e place
        rw [hwaiting]
        exact List.perm_middle
    · exact ⟨_, h.same rfl rfl rfl (hskip rfl)⟩
    · exact ⟨_, h.same rfl rfl rfl (hskip rfl)⟩

/-- The state after the jobs are dropped. -/
def after_drops (b : BridgeState) (jobs : List (PlaybackJob S)) (status : TranslationPlaybackStatusKind)
    (reason : String) : BridgeState :=
  { b with statuses := b.statuses ++ jobs.map fun job => ⟨job.cue_id, status, reason⟩ }

/-- What a step tells after it has told the end of the dropped jobs. -/
theorem Tells.after_drops {b b' : BridgeState} {jobs : List (PlaybackJob S)} {status : TranslationPlaybackStatusKind}
    {reason : String} {ended : List (Option String)} (h : Tells (after_drops b jobs status reason) b' ended) :
    Tells b b' (jobs.map (·.cue_id) ++ ended) := by
  refine Tells.trans (show Tells b (playback.after_drops b jobs status reason) _ from .of_append _ rfl fun _ hin _ => ?_)
    (h.mono (List.subset_append_right _ _))
  obtain ⟨_, hjob, rfl⟩ := List.mem_map.mp hin
  exact List.mem_append_left _ (List.mem_map_of_mem hjob)

theorem the_started_plays {queue : TranslationPlaybackQueue S} {now_ms : Nat} {job : PlaybackJob S}
    (h : (queue.start_next now_ms).2.1 = some job) :
    queue_cues (queue.start_next now_ms).1 =
      job.cue_id :: (queue.start_next now_ms).1.pending.map (·.cue_id) := by
  unfold TranslationPlaybackQueue.start_next at h ⊢
  split at h
  · cases h
  · next hidle =>
    rw [if_neg hidle]
    dsimp only at h ⊢
    split at h
    · cases h
    · next first pending hpending =>
      cases h
      rfl

theorem Orderly.start_next (h : Orderly b) (e : Outside) :
    ∃ ended, Balances b (b.start_next_translation e) ended [] := by
  have hperm := start_next_perm b.translation_queue e.now_ms
  unfold Bridge.start_next_translation
  dsimp only
  rw [Bridge.drop_jobs_eq]
  split
  · refine ⟨_, h.queue_step [] ?_ List.nodup_nil (fun _ hin => by cases hin) rfl rfl rfl
      (.after_drops (.refl _ []))⟩
    rw [List.append_nil]
    exact hperm
  · next job hjob =>
    split
    · refine ⟨_, h.queue_step [] ?_ List.nodup_nil (fun _ hin => by cases hin) rfl rfl rfl
        (.after_drops (.emit [job.cue_id] _ _ _ fun _ => List.mem_singleton_self _))⟩
      rw [the_started_plays hjob] at hperm
      rw [← List.append_assoc]
      exact hperm.trans (List.perm_append_singleton _ _).symm
    · refine ⟨_, h.queue_step [] ?_ List.nodup_nil (fun _ hin => by cases hin) rfl rfl rfl
        (.after_drops (.emit [] _ _ _ fun hterminal => by cases hterminal))⟩
      rw [List.append_nil]
      exact hperm

theorem Orderly.work (h : Orderly b) (e : Outside) : ∃ ended, Balances b (b.run_playback_worker e) ended [] := by
  unfold Bridge.run_playback_worker
  split
  · exact ⟨_, h.control e .start_stream⟩
  · refine h.serves .finish_stream (b.worker.start_buffered_serves b.state e).pending ?_
    obtain ⟨hshuts, hcue⟩ := start_buffered_shuts b.worker b.state e
    exact ⟨⟨_, hshuts⟩, by rw [hcue]; exact h.streams.quietly hshuts (List.Sublist.refl _)⟩
  · exact h.serves .finish_translation (b.worker.finish_stream_pending b.state e) (finish_plays h.streams e)
  · obtain ⟨ended, hbalances⟩ := h.finish_translation e
    exact ⟨ended, hbalances.at_place .take⟩
  · exact h.take_ready e
  · exact h.receive e .control_again
  · exact ⟨_, h.control e .check_complete⟩
  · unfold Bridge.check_complete
    split
    · exact ⟨_, h.goes_on .start_next⟩
    · exact ⟨_, h.goes_on .control⟩
  · obtain ⟨ended, hbalances⟩ := h.start_next e
    exact ⟨ended, hbalances.at_place .control⟩

/-! ## The frames -/

/-- The frame of a complete cue, or the first of a stream. -/
def begins (frame : TranslationFrame S) : Bool :=
  frame.stream_state.isNone || frame.stream_state = some .Start

/-- A command that is no stream command does not wait for the worker. -/
theorem sent_if_room (b : Bridge S) (command : PlaybackCommand S) (h : stream_command command = none) :
    ∃ commands, (b.try_send command).getD b = { b with commands } ∧ stream_commands commands = stream_commands b.commands := by
  unfold Bridge.try_send
  split
  · refine ⟨b.commands ++ [command], rfl, ?_⟩
    rw [stream_commands_append, stream_commands_skip h]
    exact List.append_nil _
  · exact ⟨b.commands, rfl, rfl⟩

/-- The arrival sequence counts for nothing here. -/
theorem Orderly.arrived (h : Orderly b) : Orderly b.next_arrival :=
  ⟨h.once, h.apart, ⟨h.streams.starts_once, h.streams.starts_open, h.streams.plays⟩⟩

theorem Balances.arrived {new : List (Option String)} (h : ∃ ended, Balances b.next_arrival b' ended new) :
    ∃ ended, Balances b b' ended new := by
  obtain ⟨ended, h⟩ := h
  exact ⟨ended, h.orderly, ⟨h.tells.grows, h.tells.terminal⟩, h.held, h.were, h.gone⟩

theorem Orderly.complete_frame (h : Orderly b) (frame : TranslationFrame S) (now_ms : Nat)
    (hnew : ¬ Holds b frame.cue_id) :
    ∃ ended, Balances b (b.handle_complete_frame frame now_ms) ended [frame.cue_id] := by
  have hnew : ∀ cue_id ∈ [frame.cue_id], ¬ Holds b cue_id := fun cue_id hin => List.mem_singleton.mp hin ▸ hnew
  unfold Bridge.handle_complete_frame
  split
  · exact ⟨[frame.cue_id], h.queue_step _ (List.perm_append_comm : ([frame.cue_id] ++ _).Perm _) (List.nodup_singleton _) hnew
      rfl rfl rfl (.emit _ _ _ _ fun _ => List.mem_singleton_self _)⟩
  · dsimp only
    rw [Bridge.drop_jobs_eq]
    have h := h.arrived
    have hperm := enqueue_perm b.next_arrival.translation_queue (b.job_of frame now_ms) now_ms
    split
    · next reason hfailure =>
      rw [hfailure] at hperm
      refine Balances.arrived ⟨_, h.queue_step _ ?_ (List.nodup_singleton _) hnew rfl rfl rfl
        (.after_drops (.emit [frame.cue_id] _ _ _ fun _ => List.mem_singleton_self _))⟩
      rw [← List.append_assoc]
      exact (hperm.cons frame.cue_id).trans (List.perm_append_singleton _ _).symm
    · next haccepted =>
      rw [haccepted] at hperm
      obtain ⟨_, heq, hcommands⟩ := sent_if_room
        { b.next_arrival with
          translation_queue := (b.next_arrival.translation_queue.enqueue (b.job_of frame now_ms) now_ms).1
          state := after_drops b.next_arrival.state
            (b.next_arrival.translation_queue.enqueue (b.job_of frame now_ms) now_ms).2.1 .StaleDropped "realtime-budget" }
        .TranslationQueued rfl
      unfold after_drops at heq
      rw [heq]
      refine Balances.arrived ⟨_, h.queue_step _ ?_ (List.nodup_singleton _) hnew rfl rfl ?_
        (.after_drops (.emit [] _ _ _ fun hterminal => by cases hterminal))⟩
      · rw [List.append_nil]
        exact hperm
      · exact congrArg (fun waiting => start_cues (b.worker.pending_physical_streams ++ waiting)) hcommands

theorem Balances.more {ended : List (Option String)} (h : Balances b b' ended []) (new : List (Option String)) :
    Balances b b' ended new :=
  ⟨h.orderly, h.tells, fun cue_id hin => .inl ((h.held cue_id hin).resolve_right (by simp)),
    fun cue_id hin => .inl ((h.were cue_id hin).resolve_right (by simp)), h.gone⟩

theorem start_cues_append (before after : List (PhysicalTranslationStreamCommand S)) :
    start_cues (before ++ after) = start_cues before ++ start_cues after := by
  simp [start_cues]

/-- A stream is opened, and its start waits for the worker. -/
theorem Orderly.opens (h : Orderly b) {id : String} (hnew : ¬ Holds b (some id))
    (hqueue : b'.translation_queue = b.translation_queue) (hstatuses : b'.state.statuses = b.state.statuses)
    (hopened : ∀ other, opened b'.state other ↔ other = id ∨ opened b.state other)
    (hplays : b'.active_cue_id = b.active_cue_id)
    (hstarts : start_cues (waiting_commands b') = start_cues (waiting_commands b) ++ [id]) :
    Balances b b' [] [some id] where
  orderly := by
    have hclosed : ¬ opened b.state id := fun hopen => hnew (.inr ⟨id, rfl, hopen⟩)
    refine ⟨by rw [hqueue]; exact h.once, fun other hopen hqueued => ?_, ?_⟩
    · rw [hqueue] at hqueued
      rcases (hopened other).mp hopen with rfl | hopen
      · exact hnew (.inl hqueued)
      · exact h.apart other hopen hqueued
    · rw [hplays, hstarts]
      refine ⟨?_, fun other hin => (hopened other).mpr ?_, fun other hin => ?_⟩
      · refine List.nodup_append'.mpr ⟨h.streams.starts_once, List.nodup_singleton id, fun other hin heq => ?_⟩
        exact hclosed (List.mem_singleton.mp heq ▸ h.streams.starts_open other hin)
      · exact (List.mem_append.mp hin).symm.imp List.mem_singleton.mp (h.streams.starts_open other)
      · obtain ⟨hopen, hnot⟩ := h.streams.plays other hin
        refine ⟨(hopened other).mpr (.inr hopen), fun hstart => ?_⟩
        rcases List.mem_append.mp hstart with hin | heq
        · exact hnot hin
        · exact hclosed (List.mem_singleton.mp heq ▸ hopen)
  tells := .of_append [] (by rw [hstatuses, List.append_nil]) fun _ hin => by cases hin
  held := by
    rintro _ (hqueued | ⟨other, rfl, hopen⟩)
    · rw [hqueue] at hqueued
      exact .inl (.inl hqueued)
    · rcases (hopened other).mp hopen with rfl | hopen
      · exact .inr (List.mem_singleton_self _)
      · exact .inl (.inr ⟨other, rfl, hopen⟩)
  were _ hin := by cases hin
  gone _ hin := by cases hin

theorem aborted_is_open {ledger next : PhysicalTranslationStreamLedger} {id : String} {chunk_index generation : Nat}
    {admission : PhysicalStreamAdmission}
    (h : ledger.admit_frame id chunk_index .Abort generation = some (next, admission)) (hnew : admission ≠ .Duplicate) :
    id ∈ ledger.active := by
  unfold PhysicalTranslationStreamLedger.admit_frame at h
  split at h
  · cases h
    exact absurd rfl hnew
  · cases hactive : ledger.active.lookup id with
    | none =>
      rw [hactive] at h
      cases h
    | some _ => exact maps.mem_of_lookup hactive

/-- A frame of a stream that the Bridge holds changes none of what it holds, and a start adds a stream. -/
theorem Orderly.admit_frame (h : Orderly b) (frame : TranslationFrame S) {id : String} (hcue : frame.cue_id = some id)
    (chunk_index : Nat) (stream_state : TranslationStreamState) (now_ms : Nat)
    (hnew : stream_state = .Start → ¬ Holds b (some id)) (habort : stream_state = .Abort → ¬ opened b.state id) :
    ∃ ended, Balances b (b.admit_stream_frame frame id chunk_index stream_state now_ms) ended
      (if stream_state = .Start then [some id] else []) := by
  unfold Bridge.admit_stream_frame
  split
  · exact ⟨_, (h.same rfl rfl rfl rfl).more _⟩
  · exact ⟨_, (h.same rfl rfl rfl rfl).more _⟩
  · next next_ledger admission hduplicate hadmitted =>
    split
    · next hstate =>
      rw [hstate] at hadmitted
      exact absurd (aborted_is_open hadmitted fun heq => hduplicate (heq ▸ rfl)) (habort hstate)
    · next hstate =>
      obtain ⟨-, -, hcases⟩ := admit_frame_cases hadmitted (fun heq => hduplicate (heq ▸ rfl)) hstate
      dsimp only
      split
      · exact Balances.arrived ⟨_, (h.arrived.same rfl rfl rfl rfl).more _⟩
      · next sent hsent =>
        have hsent : sent = { b.next_arrival with commands :=
            b.commands ++ [.TranslationStream ⟨b.job_of frame now_ms, stream_state⟩] } := by
          unfold Bridge.try_send at hsent
          split at hsent
          · exact (Option.some.inj hsent).symm
          · cases hsent
        subst hsent
        have hwaiting : b.worker.pending_physical_streams ++
            stream_commands (b.commands ++ [.TranslationStream ⟨b.job_of frame now_ms, stream_state⟩]) =
            waiting_commands b ++ [⟨b.job_of frame now_ms, stream_state⟩] := by
          rw [stream_commands_append, ← List.append_assoc]
          rfl
        rcases hcases with ⟨rfl, _, -, hactive⟩ | ⟨_, hcursor, -, -, -, hgoes⟩
        · refine Balances.arrived ⟨_, h.arrived.opens (hnew rfl) rfl rfl (fun other => ?_) rfl ?_⟩
          · change other ∈ next_ledger.active ↔ _
            rw [hactive, AList.mem_insert]
            rfl
          · refine (congrArg start_cues hwaiting).trans ?_
            rw [start_cues_append, start_cues_start rfl, Bridge.job_of, hcue]
            rfl
        · have hstate' : stream_state ≠ .Start := by
            rcases hgoes with ⟨rfl, -⟩ | ⟨rfl, -⟩
            · exact TranslationStreamState.noConfusion
            · exact TranslationStreamState.noConfusion
          have hkeeps : ∀ other, other ∈ next_ledger.active ↔ opened b.state other := by
            intro other
            have hin : id ∈ b.state.physical_translation_stream_ledger.active := maps.mem_of_lookup hcursor
            have hinsert : ∀ progress, other ∈ b.state.physical_translation_stream_ledger.active.insert id progress ↔
                opened b.state other := fun progress =>
              (AList.mem_insert _).trans ⟨fun hor => hor.elim (fun heq => heq ▸ hin) fun hin => hin, .inr⟩
            rcases hgoes with ⟨-, hactive⟩ | ⟨-, hactive⟩
            · rw [hactive]
              exact hinsert _
            · rw [hactive]
              exact hinsert _
          rw [if_neg hstate']
          refine Balances.arrived ⟨_, h.arrived.stream_step [] rfl
            ⟨fun other => ?_, fun _ hin => (by cases hin), .of_append [] (List.append_nil _).symm fun _ hin => by cases hin⟩ ?_⟩
          · exact (hkeeps other).trans (by simp [opened, Bridge.next_arrival])
          · rw [show start_cues (waiting_commands _) = start_cues (waiting_commands b) by
              refine (congrArg start_cues hwaiting).trans ?_
              rw [start_cues_append, start_cues_other hstate']
              exact List.append_nil _]
            exact ⟨h.streams.starts_once, fun other hin => (hkeeps other).mpr (h.streams.starts_open other hin),
              fun other hin => ⟨(hkeeps other).mpr (h.streams.plays other hin).1, (h.streams.plays other hin).2⟩⟩

/-- A frame of translated audio. The stream that it aborts is no open one. -/
theorem Orderly.frame (h : Orderly b) (frame : TranslationFrame S) (now_ms : Nat)
    (hnew : begins frame = true → ¬ Holds b frame.cue_id)
    (habort : frame.stream_state = some .Abort → ¬ Holds b frame.cue_id) :
    ∃ ended, Balances b (b.handle_physical_translation_frame frame now_ms) ended
      (if begins frame then [frame.cue_id] else []) := by
  unfold Bridge.handle_physical_translation_frame
  split
  · exact ⟨_, (h.same rfl rfl rfl rfl).more _⟩
  split
  · next stream_state hstate =>
    unfold Bridge.handle_physical_translation_stream_frame
    split
    · next id chunk_index hcue _ =>
      iterate 4
        split
        · exact ⟨_, (h.same rfl rfl rfl rfl).more _⟩
      rw [hcue] at hnew habort
      obtain ⟨ended, hbalances⟩ := h.admit_frame frame hcue chunk_index stream_state now_ms
        (fun hstart => hnew (by rw [begins, hstate, hstart]; rfl))
        (fun hend hopen => habort (by rw [hstate, hend]) (.inr ⟨id, rfl, hopen⟩))
      refine ⟨ended, ?_⟩
      have hbegins : begins frame = true ↔ stream_state = .Start := by simp [begins, hstate]
      rw [hcue]
      simpa only [hbegins] using hbalances
    · exact ⟨_, (h.same rfl rfl rfl rfl).more _⟩
  · next hcomplete =>
    have hbegins : begins frame = true := by simp [begins, hcomplete]
    rw [if_pos hbegins]
    exact h.complete_frame frame now_ms (hnew hbegins)

end

end omni_translate.playback
