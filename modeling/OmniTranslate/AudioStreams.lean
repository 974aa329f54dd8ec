-- The streams that the audio handlers make of a response: numbered from its
-- start to its end, closed or aborted before the next response, silent after an
-- abort, and with nothing of it left in the state.
import OmniTranslate.AudioOutputLaws

namespace omni_translate.audio_output

open runs
open playback (TranslationStreamState)
open native_playback

variable {S : Type}

namespace AudioOutput

variable {env : Surroundings S} {config : OmniSpeechConfig} {route : SpeechOutputRoutePlan}
  {speaker : Option String} {o : AudioOutput S}

/-! ## What a stream should look like -/

def part_of (response_id : String) : QueueCall S → Option (Nat × TranslationStreamState)
  | .enqueue _ (.Stream clip chunk_index stream_state) _ =>
    if clip.response_id = some response_id then some (chunk_index, stream_state) else none
  | _ => none

/-- The parts of the streams of a response, in the order in which they were enqueued. -/
def parts (response_id : String) (calls : List (QueueCall S)) : List (Nat × TranslationStreamState) :=
  calls.filterMap (part_of response_id)

/-- A start and the chunks after it. -/
def series (count : Nat) : List (Nat × TranslationStreamState) :=
  (List.range count).map fun chunk_index => (chunk_index, if chunk_index = 0 then .Start else .Chunk)

/-- One stream, or a beginning of one. -/
def InSeries (parts : List (Nat × TranslationStreamState)) : Prop :=
  ∃ count, parts = series count ∨ (0 < count ∧ parts = series count ++ [(count, .End)])

/-- The queue took the start of a stream of the cue. -/
def starts (cue_id : String) : QueueCall S → Bool
  | .enqueue _ (.Stream clip _ .Start) outcome => clip.cue_id == cue_id && outcome.accepted
  | _ => false

/-- The end of the stream was taken, or the stream was aborted, here or by the worker: only then does the queue
answer `Terminated`. -/
def settles (cue_id : String) : QueueCall S → Bool
  | .enqueue _ (.Stream clip _ stream_state) outcome =>
    clip.cue_id == cue_id && ((decide (stream_state = .End) && outcome.accepted) || decide (outcome = .Terminated))
  | .abort_stream aborted _ _ => aborted == cue_id
  | _ => false

/-- A start of the cue was taken, and nothing since has settled it. -/
def unsettled (cue_id : String) (calls : List (QueueCall S)) : Bool :=
  calls.foldl (fun waits call => starts cue_id call || (waits && !settles cue_id call)) false

/-- A stream was aborted while the audio of the response was pending. -/
def gave_up (response_id : String) (calls : List (QueueCall S)) : Prop :=
  ∃ cue_id chunk_index, QueueCall.abort_stream cue_id chunk_index (some response_id) ∈ calls

/-- A command with samples of a response comes before any abort of it. -/
def Silent (before : List (QueueCall S)) : QueueCall S → Prop
  | .enqueue _ command _ => ∀ response_id, command.clip.response_id = some response_id →
      command.clip.samples ≠ [] → ¬ gave_up response_id before
  | _ => True

/-- What the handlers keep while no event of the run goes wrong. -/
structure Orderly (o : AudioOutput S) : Prop where
  index : o.state.pending_audio_stream_cue_id = none →
    o.state.pending_audio_stream_chunk_index = 0 ∧ o.state.pending_audio_stream_created_at_ms = none
  positive : ∀ active, o.state.pending_audio_stream_cue_id = some active → 0 < o.state.pending_audio_stream_chunk_index
  fresh : ∀ response_id, o.state.pending_audio_response_id = some response_id → response_id ∉ o.closed
  series : ∀ response_id, InSeries (parts response_id o.calls)
  unheard : ∀ response_id, o.state.pending_audio_response_id ≠ some response_id → response_id ∉ o.closed →
    parts response_id o.calls = []
  going : ∀ response_id, o.state.pending_audio_response_id = some response_id →
    o.state.pending_audio_stream_aborted = false →
      parts response_id o.calls = AudioOutput.series o.state.pending_audio_stream_chunk_index
  settled : ∀ cue_id, unsettled cue_id o.calls = true →
    o.state.pending_audio_stream_cue_id = some cue_id ∧ o.state.pending_audio_stream_aborted = false
  given : ∀ response_id, gave_up response_id o.calls →
    (o.state.pending_audio_response_id = some response_id ∧ o.state.pending_audio_stream_aborted = true) ∨
      response_id ∈ o.closed
  silent : Each Silent o.calls

theorem series_succ (count : Nat) :
    series (count + 1) = series count ++ [(count, if count = 0 then .Start else .Chunk)] := by
  simp [series, List.range_succ]

theorem InSeries.of_series (count : Nat) : InSeries (series count) := ⟨count, .inl rfl⟩

theorem parts_append (response_id : String) (calls more : List (QueueCall S)) :
    parts response_id (calls ++ more) = parts response_id calls ++ parts response_id more :=
  List.filterMap_append

theorem Quiet.parts {more : List (QueueCall S)} (h : Quiet more) (response_id : String) :
    AudioOutput.parts response_id more = [] := by
  unfold AudioOutput.parts
  rw [List.filterMap_eq_nil_iff]
  intro call hmem
  rcases h call hmem with rfl | ⟨_, _, _, rfl⟩ <;> rfl

theorem Quiet.silent {more calls : List (QueueCall S)} :
    Quiet more → Each Silent calls → Each Silent (calls ++ more) :=
  Quiet.each (fun _ => trivial) fun _ _ _ _ => trivial

theorem unsettled_snoc (cue_id : String) (calls : List (QueueCall S)) (call : QueueCall S) :
    unsettled cue_id (calls ++ [call]) =
      (starts cue_id call || (unsettled cue_id calls && !settles cue_id call)) := by
  simp [unsettled]

theorem unsettled_abort_stream (cue_id aborted : String) (chunk_index : Nat) (response_id : Option String)
    (calls : List (QueueCall S)) :
    unsettled cue_id (calls ++ [.abort_stream aborted chunk_index response_id]) =
      (unsettled cue_id calls && aborted != cue_id) := by
  rw [unsettled_snoc]
  simp [starts, settles, bne]

theorem unsettled_abort (cue_id : String) (calls : List (QueueCall S)) :
    unsettled cue_id (calls ++ [.abort]) = unsettled cue_id calls := by
  rw [unsettled_snoc]
  simp [starts, settles]

variable {response_id : String}

theorem gave_up_append {calls more : List (QueueCall S)} :
    gave_up response_id (calls ++ more) ↔ gave_up response_id calls ∨ gave_up response_id more := by
  simp only [gave_up, List.mem_append, exists_or]

theorem gave_up_abort_stream {response_id cue_id : String} {chunk_index : Nat} {owner : Option String} :
    gave_up response_id ([.abort_stream cue_id chunk_index owner] : List (QueueCall S)) ↔
      owner = some response_id := by
  constructor
  · rintro ⟨_, _, hmem⟩
    cases List.mem_singleton.mp hmem
    rfl
  · rintro rfl
    exact ⟨_, _, List.mem_singleton_self _⟩

variable {outcome : OmniPlaybackEnqueueOutcome}

theorem not_gave_up_enqueue {command : OmniPlaybackCommand S} :
    ¬ gave_up response_id [QueueCall.enqueue speaker command outcome] := by
  rintro ⟨_, _, hmem⟩
  cases List.mem_singleton.mp hmem

theorem not_gave_up_abort : ¬ gave_up response_id ([.abort] : List (QueueCall S)) := by
  rintro ⟨_, _, hmem⟩
  cases List.mem_singleton.mp hmem

/-- While its audio is pending and not aborted, no stream of a response was given up. -/
theorem Orderly.not_gave_up (h : o.Orderly) (hopen : o.state.pending_audio_stream_aborted = false)
    (hid : o.state.pending_audio_response_id = some response_id) :
    ¬ gave_up response_id o.calls := by
  intro hgave
  rcases h.given response_id hgave with ⟨-, haborted⟩ | hclosed
  · rw [hopen] at haborted
    cases haborted
  · exact h.fresh response_id hid hclosed

/-! ## The actions of a delta -/

variable {o' : AudioOutput S}

theorem Orderly.gives_up (h : o.Orderly) (named : String) (chunk_index : Nat)
    (hnamed : ∀ active, o.state.pending_audio_stream_cue_id = some active →
      o.state.pending_audio_stream_aborted = false → active = named)
    (hcalls : o'.calls = o.calls ++ [.abort_stream named chunk_index o.state.pending_audio_response_id])
    (hclosed : o'.closed = o.closed) (hid : o'.state.pending_audio_response_id = o.state.pending_audio_response_id)
    (haborted : o'.state.pending_audio_stream_aborted = true)
    (hindex : o'.state.pending_audio_stream_cue_id = none →
      o'.state.pending_audio_stream_chunk_index = 0 ∧ o'.state.pending_audio_stream_created_at_ms = none)
    (hpositive : ∀ active, o'.state.pending_audio_stream_cue_id = some active →
      0 < o'.state.pending_audio_stream_chunk_index) : o'.Orderly := by
  have hquiet : Quiet [QueueCall.abort_stream (S := S) named chunk_index o.state.pending_audio_response_id] :=
    quiet_abort_stream _ _ _ quiet_nil
  have hparts : ∀ response_id, parts response_id o'.calls = parts response_id o.calls := by
    intro response_id
    rw [hcalls, parts_append, hquiet.parts, List.append_nil]
  refine ⟨hindex, hpositive, fun response_id hpending => ?_, fun response_id => ?_, fun response_id hother hnew => ?_,
    fun response_id _ hopen => ?_, fun cue_id hwaits => ?_, fun response_id hgave => ?_, ?_⟩
  · rw [hclosed]
    exact h.fresh response_id (hid ▸ hpending)
  · rw [hparts]
    exact h.series response_id
  · rw [hparts]
    exact h.unheard response_id (hid ▸ hother) (hclosed ▸ hnew)
  · rw [haborted] at hopen
    cases hopen
  · rw [hcalls, unsettled_abort_stream, Bool.and_eq_true] at hwaits
    obtain ⟨hactive, hopen⟩ := h.settled cue_id hwaits.1
    rw [hnamed cue_id hactive hopen] at hwaits
    simp at hwaits
  · rw [hcalls, gave_up_append, gave_up_abort_stream] at hgave
    rw [hid, hclosed]
    rcases hgave with hgave | hown
    · exact (h.given response_id hgave).imp_left fun hwas => ⟨hwas.1, haborted⟩
    · exact .inl ⟨hown, haborted⟩
  · rw [hcalls]
    exact hquiet.silent h.silent

theorem Orderly.aborts_queue (h : o.Orderly) (hcalls : o'.calls = o.calls ++ [.abort])
    (hclosed : o'.closed = o.closed) (hstate : o'.state = o.state) : o'.Orderly := by
  have hparts : ∀ response_id, parts response_id o'.calls = parts response_id o.calls := by
    intro response_id
    rw [hcalls, parts_append, quiet_abort.parts, List.append_nil]
  refine ⟨hstate ▸ h.index, hstate ▸ h.positive, ?_, fun response_id => ?_, ?_, ?_, fun cue_id hwaits => ?_,
    fun response_id hgave => ?_, ?_⟩
  · rw [hstate, hclosed]
    exact h.fresh
  · rw [hparts]
    exact h.series response_id
  · simp only [hstate, hclosed, hparts]
    exact h.unheard
  · simp only [hstate, hparts]
    exact h.going
  · rw [hcalls, unsettled_abort] at hwaits
    rw [hstate]
    exact h.settled cue_id hwaits
  · rw [hcalls, gave_up_append] at hgave
    rw [hstate, hclosed]
    exact h.given response_id (hgave.resolve_right not_gave_up_abort)
  · rw [hcalls]
    exact quiet_abort.silent h.silent

/-- The next part of the pending response's stream goes out. -/
theorem Orderly.sends (h : o.Orderly) {clip : Clip S} (hopen : o.state.pending_audio_stream_aborted = false)
    (hactive : ∀ active, o.state.pending_audio_stream_cue_id = some active → active = clip.cue_id)
    (hclip : clip.response_id = o.state.pending_audio_response_id)
    (hcalls : o'.calls = o.calls ++ [.enqueue speaker (.Stream clip o.state.pending_audio_stream_chunk_index
      (if o.state.pending_audio_stream_cue_id = none then .Start else .Chunk)) outcome])
    (hclosed : o'.closed = o.closed) (hid : o'.state.pending_audio_response_id = o.state.pending_audio_response_id)
    (hstream : o'.state.pending_audio_stream_cue_id = some clip.cue_id)
    (hindex : o'.state.pending_audio_stream_chunk_index = o.state.pending_audio_stream_chunk_index + 1)
    (haborted : o'.state.pending_audio_stream_aborted = false) : o'.Orderly := by
  have hstate : (if o.state.pending_audio_stream_cue_id = none then TranslationStreamState.Start else .Chunk) =
      if o.state.pending_audio_stream_chunk_index = 0 then .Start else .Chunk := by
    cases hfirst : o.state.pending_audio_stream_cue_id with
    | none => simp [(h.index hfirst).1]
    | some active =>
      have hpositive := h.positive active hfirst
      simp [Nat.pos_iff_ne_zero.mp hpositive]
  have hparts : ∀ response_id, parts response_id o'.calls = parts response_id o.calls ++
      if o.state.pending_audio_response_id = some response_id then
        [(o.state.pending_audio_stream_chunk_index,
          if o.state.pending_audio_stream_chunk_index = 0 then .Start else .Chunk)]
      else [] := by
    intro response_id
    rw [hcalls, parts_append, hstate]
    by_cases hown : o.state.pending_audio_response_id = some response_id <;> simp [parts, part_of, hclip, hown]
  have hgoing : ∀ response_id, o.state.pending_audio_response_id = some response_id →
      parts response_id o'.calls = AudioOutput.series (o.state.pending_audio_stream_chunk_index + 1) := by
    intro response_id hown
    rw [hparts, if_pos hown, h.going response_id hown hopen, series_succ]
  refine ⟨?_, ?_, fun response_id hpending => ?_, fun response_id => ?_, fun response_id hother hnew => ?_,
    fun response_id hpending _ => ?_, fun cue_id hwaits => ?_, fun response_id hgave => ?_, ?_⟩
  · rw [hstream]
    rintro ⟨⟩
  · omega
  · rw [hclosed]
    exact h.fresh response_id (hid ▸ hpending)
  · by_cases hown : o.state.pending_audio_response_id = some response_id
    · rw [hgoing response_id hown]
      exact .of_series _
    · rw [hparts, if_neg hown, List.append_nil]
      exact h.series response_id
  · rw [hid] at hother
    rw [hparts, if_neg hother, List.append_nil]
    exact h.unheard response_id hother (hclosed ▸ hnew)
  · rw [hindex]
    exact hgoing response_id (hid ▸ hpending)
  · rw [hcalls, unsettled_snoc, Bool.or_eq_true, Bool.and_eq_true] at hwaits
    refine ⟨?_, haborted⟩
    rw [hstream]
    rcases hwaits with hstarts | ⟨hwaits, -⟩
    · by_cases hfirst : o.state.pending_audio_stream_cue_id = none
      · simp only [hfirst, if_true, starts, Bool.and_eq_true, beq_iff_eq] at hstarts
        rw [hstarts.1]
      · simp only [if_neg hfirst, starts] at hstarts
        cases hstarts
    · rw [hactive cue_id (h.settled cue_id hwaits).1]
  · rw [hcalls, gave_up_append] at hgave
    have hbefore := hgave.resolve_right not_gave_up_enqueue
    rw [hclosed]
    rcases h.given response_id hbefore with ⟨hown, -⟩ | hwas
    · exact absurd hbefore (h.not_gave_up hopen hown)
    · exact .inr hwas
  · rw [hcalls]
    refine Each.snoc.mpr ⟨h.silent, fun response_id hown _ => ?_⟩
    exact h.not_gave_up hopen (hclip.symm.trans hown)

theorem saturating_succ_eq {n : Nat} (h : n < U32_MAX) : saturating_succ n = n + 1 :=
  Nat.min_eq_left h

variable {cue_id : String}

theorem Orderly.send_batch (h : o.Orderly) {batch_samples : Nat}
    (hopen : o.state.pending_audio_stream_aborted = false)
    (hactive : ∀ active, o.state.pending_audio_stream_cue_id = some active → active = cue_id)
    (hcount : o.state.pending_audio_stream_chunk_index < U32_MAX) :
    (o.send_batch env route speaker cue_id batch_samples).Orderly := by
  obtain ⟨clip, outcome, _, rfl, -, hid, rfl, hresult⟩ :=
    send_batch_cases env route speaker cue_id batch_samples o
  rcases hresult with ⟨-, hresult⟩ | ⟨-, _, hresult⟩
  · have hsent : ({ o with
        calls := o.calls ++ [.enqueue speaker (.Stream clip o.state.pending_audio_stream_chunk_index
          (if o.state.pending_audio_stream_cue_id = none then .Start else .Chunk)) outcome]
        state := { o.state with
          pending_audio_stream_cue_id := some clip.cue_id
          pending_audio_stream_chunk_index := o.state.pending_audio_stream_chunk_index + 1 } } :
        AudioOutput S).Orderly :=
      h.sends hopen hactive hid rfl rfl rfl rfl rfl hopen
    rw [hresult]
    exact hsent.gives_up clip.cue_id o.state.pending_audio_stream_chunk_index
      (by rintro active ⟨rfl⟩ _; rfl) (List.append_cons _ _ _) rfl rfl rfl (fun _ => ⟨rfl, rfl⟩)
      (by rintro active ⟨⟩)
  · rw [hresult]
    exact h.sends hopen hactive hid rfl rfl rfl rfl (saturating_succ_eq hcount) hopen

/-- The batches that the buffer still makes can be counted. -/
def Counted (batch_samples : Nat) (o : AudioOutput S) : Prop :=
  o.state.pending_audio_stream_aborted = false →
    o.state.pending_audio_stream_chunk_index + o.state.pending_audio_buffer.length / batch_samples ≤ U32_MAX

/-- The stream that is open is the one of the cue. -/
def OwnStream (cue_id : String) (o : AudioOutput S) : Prop :=
  o.state.pending_audio_stream_aborted = false →
    ∀ active, o.state.pending_audio_stream_cue_id = some active → active = cue_id

theorem Counted.room {batch_samples : Nat} (h : o.Counted batch_samples) (hpos : 0 < batch_samples)
    (hopen : o.state.pending_audio_stream_aborted = false)
    (hfull : batch_samples ≤ o.state.pending_audio_buffer.length) :
    o.state.pending_audio_stream_chunk_index < U32_MAX := by
  have hsome := Nat.div_pos hfull hpos
  have hall := h hopen
  omega

theorem Counted.send_batch {batch_samples : Nat} (h : o.Counted batch_samples)
    (hpos : 0 < batch_samples) (hopen : o.state.pending_audio_stream_aborted = false)
    (hfull : batch_samples ≤ o.state.pending_audio_buffer.length) :
    (o.send_batch env route speaker cue_id batch_samples).Counted batch_samples := by
  have hroom := h.room hpos hopen hfull
  have hall := h hopen
  obtain ⟨_, _, _, -, -, -, -, hresult⟩ := send_batch_cases env route speaker cue_id batch_samples o
  rcases hresult with ⟨-, hresult⟩ | ⟨-, _, hresult⟩
  · rw [hresult]
    rintro ⟨⟩
  · rw [hresult]
    intro _
    dsimp only
    rw [saturating_succ_eq hroom, List.length_drop]
    rw [Nat.div_eq_sub_div hpos hfull] at hall
    omega

theorem OwnStream.send_batch {batch_samples : Nat} :
    (o.send_batch env route speaker cue_id batch_samples).OwnStream cue_id := by
  obtain ⟨_, _, _, -, -, -, -, hresult⟩ := send_batch_cases env route speaker cue_id batch_samples o
  rcases hresult with ⟨-, hresult⟩ | ⟨-, _, hresult⟩
  · rw [hresult]
    rintro ⟨⟩
  · rw [hresult]
    rintro _ _ ⟨rfl⟩
    rfl

theorem Orderly.abort_overlap (h : o.Orderly) {active : String}
    (hactive : o.state.pending_audio_stream_cue_id = some active) : (o.abort_overlap active).Orderly :=
  h.gives_up active o.state.pending_audio_stream_chunk_index
    (fun other hother _ => Option.some.inj (hother.symm.trans hactive)) rfl rfl rfl rfl (fun _ => ⟨rfl, rfl⟩)
    (by rintro other ⟨⟩)

theorem Orderly.give_up (h : o.Orderly) (hown : o.OwnStream cue_id) :
    (o.give_up cue_id []).Orderly :=
  h.gives_up cue_id o.state.pending_audio_stream_chunk_index (fun active hactive hopen => hown hopen active hactive)
    rfl rfl rfl rfl h.index h.positive

theorem Orderly.give_up_queue (h : o.Orderly) (hown : o.OwnStream cue_id) :
    (o.give_up cue_id [.abort]).Orderly :=
  (h.give_up hown).aborts_queue (List.append_cons _ _ _) rfl rfl

/-- Streaming keeps the order while the batches can be counted. -/
theorem Orderly.stream_out (h : o.Orderly)
    (hcount : o.Counted (batch_samples route o.state.pending_audio_buffer.length)) :
    (o.stream_out env config route speaker cue_id).Orderly := by
  rcases stream_out_cases env config route speaker cue_id o with
    hsame | ⟨hopen, ⟨active, hactive, -, hover⟩ | ⟨hown, hbatches⟩⟩
  · rw [hsame]
    exact h
  · rw [hover]
    exact h.abort_overlap hactive
  · rw [hbatches]
    have hpos := batch_samples_pos route o.state.pending_audio_buffer.length
    generalize batch_samples route o.state.pending_audio_buffer.length = batch at hcount hpos
    refine (send_batches_keeps (fun o => o.Orderly ∧ o.Counted batch ∧ o.OwnStream cue_id)
      (fun o hopen hfull h => ?_) _ ⟨h, hcount, fun _ => hown⟩).1
    exact ⟨h.1.send_batch hopen (h.2.2 hopen) (h.2.1.room hpos hopen hfull), h.2.1.send_batch hpos hopen hfull,
      OwnStream.send_batch⟩

/-! ## One delta -/

/-- The response of the delta was not done before, and does not take over a stream that has no name. -/
def Named (response_id : Option String) (o : AudioOutput S) : Prop :=
  o.state.pending_audio_response_id = none → ∀ response, response_id = some response →
    response ∉ o.closed ∧
      (o.state.pending_audio_stream_cue_id = none ∨ o.state.pending_audio_stream_aborted = true)

theorem Orderly.take_samples (h : o.Orderly) {response_id : Option String} (hnamed : o.Named response_id)
    (samples : List S) (base64_bytes : Nat) : (o.take_samples response_id samples base64_bytes).Orderly := by
  have hid : ∀ response, (o.take_samples response_id samples base64_bytes).state.pending_audio_response_id =
      some response → o.state.pending_audio_response_id = some response ∨
        (o.state.pending_audio_response_id = none ∧ response_id = some response) := by
    intro response hpending
    cases hown : o.state.pending_audio_response_id with
    | none => exact .inr ⟨rfl, by simpa [AudioOutput.take_samples, hown] using hpending⟩
    | some _ => exact .inl (by simpa [AudioOutput.take_samples, hown] using hpending)
  have hkeep : ∀ response, o.state.pending_audio_response_id = some response →
      (o.take_samples response_id samples base64_bytes).state.pending_audio_response_id = some response := by
    intro response hown
    simp [AudioOutput.take_samples, hown]
  refine ⟨h.index, h.positive, fun response hpending => ?_, h.series, fun response hother hnew => ?_,
    fun response hpending hopen => ?_, h.settled, fun response hgave => ?_, h.silent⟩
  · rcases hid response hpending with hown | ⟨hnone, hnew⟩
    · exact h.fresh response hown
    · exact (hnamed hnone response hnew).1
  · exact h.unheard response (mt (hkeep response) hother) hnew
  · rcases hid response hpending with hown | ⟨hnone, hnew⟩
    · exact h.going response hown hopen
    · obtain ⟨hfresh, hunnamed⟩ := hnamed hnone response hnew
      have hclosed : o.state.pending_audio_stream_cue_id = none :=
        hunnamed.resolve_right fun haborted => by
          rw [show o.state.pending_audio_stream_aborted = false from hopen] at haborted
          cases haborted
      rw [show (o.take_samples response_id samples base64_bytes).calls = o.calls from rfl,
        h.unheard response (by simp [hnone]) hfresh]
      simp [AudioOutput.take_samples, (h.index hclosed).1, AudioOutput.series]
  · exact (h.given response hgave).imp_left fun hwas => ⟨hkeep response hwas.1, hwas.2⟩

/-- The timeline of the desktop cannot be written while the stream of another cue than the event's is open. -/
def FailsUnderAnotherCue (env : Surroundings S) (response_id cue_id : Option String) (samples : List S)
    (o : AudioOutput S) : Prop :=
  env.timeline_written = false ∧ o.state.pending_audio_stream_aborted = false ∧ samples ≠ [] ∧
    differ (o.state.pending_audio_response_id.or response_id) response_id = false ∧
      ∃ cue config active, nonblank cue_id = some cue ∧ env.config = some config ∧
        plays_on_desktop config (config.output_route env.direction) = true ∧
          o.state.pending_audio_stream_cue_id = some active ∧ active ≠ cue

/-- The numbers of the chunks that the buffer makes with the new samples do not saturate. -/
def StaysCounted (env : Surroundings S) (samples : List S) (o : AudioOutput S) : Prop :=
  ∀ config, env.config = some config →
    o.state.pending_audio_stream_chunk_index + (o.state.pending_audio_buffer.length + samples.length) /
      batch_samples (config.output_route env.direction) (o.state.pending_audio_buffer.length + samples.length) ≤
        U32_MAX

theorem check_owner_same {response_id : Option String} (hspeaker : route.play_to_speaker = true)
    (hopen : (o.check_owner route response_id).state.pending_audio_stream_aborted = false)
    {active : String} (hactive : o.state.pending_audio_stream_cue_id = some active) :
    differ o.state.pending_audio_response_id response_id = false := by
  unfold AudioOutput.check_owner at hopen
  rw [hactive] at hopen
  dsimp only at hopen
  by_contra hdiffer
  rw [Bool.not_eq_false] at hdiffer
  rw [if_pos ⟨hspeaker, hdiffer⟩] at hopen
  cases hopen

theorem Orderly.check_owner (h : o.Orderly) (route : SpeechOutputRoutePlan) (response_id : Option String) :
    (o.check_owner route response_id).Orderly := by
  rcases check_owner_cases route response_id o with hsame | ⟨_, hactive, hgiven⟩
  · rw [hsame]
    exact h
  · rw [hgiven]
    exact h.give_up fun _ _ hother => Option.some.inj (hother.symm.trans hactive)

theorem Orderly.delta (h : o.Orderly) {response_id cue_id : Option String} {samples : List S} {base64_bytes : Nat}
    (hnamed : o.Named response_id) (hown : ¬ o.FailsUnderAnotherCue env response_id cue_id samples)
    (hcount : o.StaysCounted env samples) :
    (o.process_audio_delta env ⟨response_id, .decoded samples base64_bytes⟩ cue_id).Orderly := by
  have htaken := h.take_samples hnamed samples base64_bytes
  unfold process_audio_delta
  dsimp only
  split
  · next cue config hcue hconfig =>
    have hcounted : (o.take_samples response_id samples base64_bytes).Counted
        (batch_samples (config.output_route env.direction)
          (o.take_samples response_id samples base64_bytes).state.pending_audio_buffer.length) := by
      intro hopen
      have hwas : o.state.pending_audio_stream_aborted = false := hopen
      simpa [AudioOutput.take_samples, hwas] using hcount config hconfig
    have hchecked := htaken.check_owner (config.output_route env.direction) response_id
    rcases check_owner_cases (config.output_route env.direction) response_id
      (o.take_samples response_id samples base64_bytes) with hsame | ⟨active, -, hgiven⟩
    · rcases record_desktop_audio_delta_cases env config (config.output_route env.direction) cue samples
        (o.take_samples response_id samples base64_bytes) with hkept | ⟨⟨hplays, hopen, hsome, hlost⟩, hgave⟩
      · rw [hsame, hkept]
        exact htaken.stream_out hcounted
      · rw [hsame, hgave]
        refine (htaken.give_up_queue fun _ active hactive => ?_).stream_out (by rintro ⟨⟩)
        have hspeaker : (config.output_route env.direction).play_to_speaker = true := by
          unfold plays_on_desktop at hplays
          simp only [Bool.and_eq_true] at hplays
          exact hplays.1.1
        by_contra hother
        have hdiffer := check_owner_same hspeaker (by rw [hsame]; exact hopen) hactive
        exact hown ⟨hlost, hopen, hsome, hdiffer, cue, config, active, hcue, hconfig, hplays, hactive, hother⟩
    · rw [hgiven] at hchecked ⊢
      rcases record_desktop_audio_delta_cases env config (config.output_route env.direction) cue samples
        _ with hkept | ⟨⟨_, hopen, _⟩, _⟩
      · rw [hkept]
        exact hchecked.stream_out (by rintro ⟨⟩)
      · cases hopen
  · exact htaken

/-! ## One `audio.done` -/

/-- A buffer that a refused batch left behind: its stream is given up, but its samples are still there. -/
def LeavesRest (env : Surroundings S) (o : AudioOutput S) : Prop :=
  o.state.pending_audio_stream_cue_id = none ∧ o.state.pending_audio_stream_aborted = true ∧
    o.state.pending_audio_buffer ≠ [] ∧ env.timeline_written = true

/-- The end of a stream comes with another cue than the stream's, and the queue refuses ends. -/
def EndsUnderAnotherCue (env : Surroundings S) (cue_id : Option String) (o : AudioOutput S) : Prop :=
  env.timeline_written = true ∧ o.state.pending_audio_stream_aborted = false ∧
    (∃ active, o.state.pending_audio_stream_cue_id = some active ∧ cue_id ≠ some active) ∧
      ∃ clip chunk_index, refused (env.outcome (.Stream clip chunk_index .End)) = true

/-- The record of the queue once the turn of a response is over. -/
structure Settled (closed : List String) (calls : List (QueueCall S)) : Prop where
  series : ∀ response_id, InSeries (parts response_id calls)
  unheard : ∀ response_id, response_id ∉ closed → parts response_id calls = []
  settled : ∀ cue_id, unsettled cue_id calls = false
  given : ∀ response_id, gave_up response_id calls → response_id ∈ closed
  silent : Each Silent calls

/-- The responses whose turn is over after this `audio.done`. -/
def closing (o : AudioOutput S) : List String := o.closed ++ o.state.pending_audio_response_id.toList

theorem not_mem_closing (h : response_id ∉ o.closing) :
    o.state.pending_audio_response_id ≠ some response_id ∧ response_id ∉ o.closed := by
  unfold closing at h
  rw [List.mem_append, not_or, Option.mem_toList] at h
  exact ⟨h.2, h.1⟩

theorem Orderly.given_closing (h : o.Orderly) (hgave : gave_up response_id o.calls) :
    response_id ∈ o.closing := by
  unfold closing
  rw [List.mem_append, Option.mem_toList]
  rcases h.given response_id hgave with ⟨hown, -⟩ | hwas
  · exact .inr hown
  · exact .inl hwas

/-- Where no stream goes on, everything is settled already. -/
theorem Orderly.is_settled (h : o.Orderly)
    (hover : o.state.pending_audio_stream_cue_id = none ∨ o.state.pending_audio_stream_aborted = true) :
    Settled o.closing o.calls := by
  refine ⟨h.series, fun response_id hnew => ?_, fun cue_id => ?_, fun response_id => h.given_closing, h.silent⟩
  · obtain ⟨hother, hfresh⟩ := not_mem_closing hnew
    exact h.unheard response_id hother hfresh
  · by_contra hwaits
    rw [Bool.not_eq_false] at hwaits
    obtain ⟨hactive, hopen⟩ := h.settled cue_id hwaits
    rcases hover with hnone | haborted
    · rw [hnone] at hactive
      cases hactive
    · rw [haborted] at hopen
      cases hopen

/-- The end of the open stream settles it, also where the queue refuses the end of the stream's own cue. -/
theorem Orderly.ends (h : o.Orderly) {clip : Clip S} {cue_id : Option String}
    (hopen : o.state.pending_audio_stream_aborted = false)
    (hactive : o.state.pending_audio_stream_cue_id = some clip.cue_id)
    (hsamples : clip.samples = []) (hclip : clip.response_id = o.state.pending_audio_response_id)
    (hcue : refused outcome = true → cue_id = some clip.cue_id) :
    Settled o.closing (o.calls ++
      [.enqueue speaker (.Stream clip o.state.pending_audio_stream_chunk_index .End) outcome] ++
        if refused outcome = true then
          [.abort_stream (cue_id.getD "unknown-native-cue") o.state.pending_audio_stream_chunk_index
            o.state.pending_audio_response_id]
        else []) := by
  have hquiet := quiet_refused (S := S) outcome (cue_id.getD "unknown-native-cue")
    o.state.pending_audio_stream_chunk_index o.state.pending_audio_response_id
  have hparts : ∀ response_id, parts response_id (o.calls ++
      [.enqueue speaker (.Stream clip o.state.pending_audio_stream_chunk_index .End) outcome]) =
        parts response_id o.calls ++ if o.state.pending_audio_response_id = some response_id then
          [(o.state.pending_audio_stream_chunk_index, .End)] else [] := by
    intro response_id
    by_cases hown : o.state.pending_audio_response_id = some response_id <;> simp [parts, part_of, hclip, hown]
  have hothers : ∀ cue, clip.cue_id ≠ cue → unsettled cue o.calls = false := by
    intro cue hother
    by_contra hwaits
    rw [Bool.not_eq_false] at hwaits
    exact hother (Option.some.inj (hactive.symm.trans (h.settled cue hwaits).1))
  refine ⟨fun response_id => ?_, fun response_id hnew => ?_, fun cue => ?_, fun response_id hgave => ?_, ?_⟩
  · rw [parts_append, hquiet.parts, List.append_nil, hparts]
    by_cases hown : o.state.pending_audio_response_id = some response_id
    · rw [if_pos hown, h.going response_id hown hopen]
      exact ⟨_, .inr ⟨h.positive _ hactive, rfl⟩⟩
    · rw [if_neg hown, List.append_nil]
      exact h.series response_id
  · obtain ⟨hother, hfresh⟩ := not_mem_closing hnew
    rw [parts_append, hquiet.parts, List.append_nil, hparts, if_neg hother, List.append_nil]
    exact h.unheard response_id hother hfresh
  · by_cases hrefused : refused outcome = true
    · rw [if_pos hrefused, hcue hrefused, Option.getD_some, unsettled_abort_stream, unsettled_snoc]
      by_cases hsame : clip.cue_id = cue
      · simp [hsame]
      · simp [starts, hothers cue hsame]
    · rw [if_neg hrefused, List.append_nil, unsettled_snoc]
      by_cases hsame : clip.cue_id = cue
      · cases outcome with
        | Overflow | Stopped => exact absurd rfl hrefused
        | _ => simp [starts, settles, hsame, OmniPlaybackEnqueueOutcome.accepted]
      · simp [starts, hothers cue hsame]
  · rw [gave_up_append, gave_up_append] at hgave
    rcases hgave with (hgave | hgave) | hgave
    · exact h.given_closing hgave
    · exact absurd hgave not_gave_up_enqueue
    · split at hgave
      · unfold closing
        rw [List.mem_append, Option.mem_toList]
        exact .inr (gave_up_abort_stream.mp hgave)
      · obtain ⟨_, _, hmem⟩ := hgave
        cases hmem
  · refine hquiet.silent (Each.snoc.mpr ⟨h.silent, ?_⟩)
    intro response_id _ hsome
    exact absurd hsamples hsome

theorem Orderly.send_tail (h : o.Orderly) {stream_cue_id : String} (env : Surroundings S) (speaker : Option String)
    (hactive : o.state.pending_audio_stream_cue_id = some stream_cue_id)
    (hcount : o.state.pending_audio_buffer ≠ [] → o.state.pending_audio_stream_aborted = false →
      o.state.pending_audio_stream_chunk_index < U32_MAX) :
    (o.send_tail env speaker stream_cue_id).Orderly ∧
      (o.send_tail env speaker stream_cue_id).state.pending_audio_stream_cue_id = some stream_cue_id ∧
        (o.send_tail env speaker stream_cue_id).closing = o.closing := by
  rcases send_tail_cases env speaker stream_cue_id o with
    ⟨hsame, -⟩ | ⟨hsome, hopen, clip, outcome, call, rfl, -, hid, rfl, hresult⟩
  · rw [hsame]
    exact ⟨h, hactive, rfl⟩
  · have hown : ∀ active, o.state.pending_audio_stream_cue_id = some active → active = clip.cue_id :=
      fun active hother => Option.some.inj (hother.symm.trans hactive)
    have hchunk : (if o.state.pending_audio_stream_cue_id = none then TranslationStreamState.Start else .Chunk) =
        .Chunk := by simp [hactive]
    rcases hresult with ⟨-, hresult⟩ | ⟨-, hresult⟩
    · have hsent : ({ o with
          calls := o.calls ++ [.enqueue speaker (.Stream clip o.state.pending_audio_stream_chunk_index .Chunk) outcome]
          state := { o.state with
            pending_audio_stream_chunk_index := o.state.pending_audio_stream_chunk_index + 1 } } :
          AudioOutput S).Orderly :=
        h.sends hopen hown hid (by rw [hchunk]) rfl rfl hactive rfl hopen
      rw [hresult]
      refine ⟨?_, hactive, rfl⟩
      exact hsent.gives_up clip.cue_id o.state.pending_audio_stream_chunk_index (fun active hother _ => hown active hother)
        (List.append_cons _ _ _) rfl rfl rfl h.index h.positive
    · rw [hresult]
      exact ⟨h.sends hopen hown hid (by rw [hchunk]) rfl rfl hactive (saturating_succ_eq (hcount hsome hopen)) hopen,
        hactive, rfl⟩

theorem Orderly.close_stream (h : o.Orderly) (env : Surroundings S) (speaker : Option String)
    {cue_id : Option String} {stream_cue_id : String}
    (hactive : o.state.pending_audio_stream_cue_id = some stream_cue_id)
    (hcount : o.state.pending_audio_buffer ≠ [] → o.state.pending_audio_stream_aborted = false →
      o.state.pending_audio_stream_chunk_index < U32_MAX)
    (hcue : o.state.pending_audio_stream_aborted = false →
      (∃ clip chunk_index, refused (env.outcome (.Stream clip chunk_index .End)) = true) →
        cue_id = some stream_cue_id) :
    Settled o.closing (o.close_stream env speaker cue_id).calls := by
  obtain ⟨htail, hstill, hclosing⟩ := h.send_tail env speaker hactive hcount
  unfold AudioOutput.close_stream
  rw [hactive]
  dsimp only
  rw [← hclosing]
  rcases send_end_cases env speaker cue_id stream_cue_id (o.send_tail env speaker stream_cue_id) with
    ⟨haborted, hsame⟩ | ⟨hopen, clip, outcome, rfl, hsamples, hid, houtcome, hresult⟩
  · rw [hsame]
    exact htail.is_settled (.inr haborted)
  · rw [hresult]
    refine htail.ends hopen hstill hsamples hid fun hrefused => hcue (send_tail_aborted hopen) ?_
    exact ⟨clip, _, houtcome ▸ hrefused⟩

/-- Where the timeline is lost, the open stream is aborted under its own cue. -/
theorem Orderly.record_desktop_audio_done (h : o.Orderly) (env : Surroundings S) :
    (o.record_desktop_audio_done env).Orderly := by
  by_cases hlost : env.timeline_written = false
  · unfold AudioOutput.record_desktop_audio_done
    rw [if_pos hlost]
    cases hactive : o.state.pending_audio_stream_cue_id with
    | none =>
      have haborted : ({ o with state := { o.state with
          pending_audio_stream_aborted := true, pending_audio_buffer := [] } } : AudioOutput S).Orderly := by
        refine ⟨h.index, h.positive, h.fresh, h.series, h.unheard, by rintro response_id _ ⟨⟩, fun cue_id hwaits => ?_,
          fun response_id hgave => (h.given response_id hgave).imp_left fun hwas => ⟨hwas.1, rfl⟩, h.silent⟩
        exact absurd (hactive.symm.trans (h.settled cue_id hwaits).1) (by simp)
      exact haborted.aborts_queue (by simp) rfl rfl
    | some active =>
      have hgiven : (o.give_up active [.abort]).Orderly := h.give_up_queue fun _ _ hother =>
        Option.some.inj (hother.symm.trans hactive)
      refine cast (congrArg Orderly ?_) hgiven
      simp [AudioOutput.give_up, hactive]
  · rw [record_desktop_audio_done_written (Bool.eq_true_of_not_eq_false hlost)]
    exact h

theorem Settled.finish {closed : List String} {state : OmniAudioOutputState S}
    (h : Settled closed o.calls) (hstate : state = {}) :
    ({ o with state, closed } : AudioOutput S).Orderly := by
  subst hstate
  refine ⟨fun _ => ⟨rfl, rfl⟩, by rintro _ ⟨⟩, by rintro response_id ⟨⟩, h.series,
    fun response_id _ => h.unheard response_id, by rintro response_id ⟨⟩, fun _ hwaits => ?_,
    fun response_id hgave => .inr (h.given response_id hgave), h.silent⟩
  rw [h.settled] at hwaits
  cases hwaits

/-- A whole cue neither starts nor settles a stream; it may carry what was not given up. -/
theorem Orderly.plays (h : o.Orderly) (hactive : o.state.pending_audio_stream_cue_id = none)
    (hopen : o.state.pending_audio_stream_aborted = false) {clip : Clip S}
    (hclip : clip.response_id = o.state.pending_audio_response_id) :
    Settled o.closing (o.calls ++ [.enqueue speaker (.Play clip) outcome]) := by
  have hsettled := h.is_settled (.inl hactive)
  have hparts : ∀ response_id, parts response_id (o.calls ++ [.enqueue speaker (.Play clip) outcome]) =
      parts response_id o.calls := by
    simp [parts, part_of]
  refine ⟨fun response_id => ?_, fun response_id hnew => ?_, fun _ => ?_, fun response_id hgave => ?_,
    Each.snoc.mpr ⟨h.silent, fun response_id hown _ => ?_⟩⟩
  · rw [hparts]
    exact hsettled.series response_id
  · rw [hparts]
    exact hsettled.unheard response_id hnew
  · rw [unsettled_snoc, hsettled.settled]
    rfl
  · rw [gave_up_append] at hgave
    exact hsettled.given response_id (hgave.resolve_right not_gave_up_enqueue)
  · exact h.not_gave_up hopen (hclip.symm.trans hown)

/-- After the rest is played or dropped, nothing is pending. -/
theorem play_rest_state {cue_id : Option String} (hactive : o.state.pending_audio_stream_cue_id = none)
    (hindex : o.state.pending_audio_stream_chunk_index = 0 ∧ o.state.pending_audio_stream_created_at_ms = none)
    (hopen : o.state.pending_audio_buffer ≠ [] → o.state.pending_audio_stream_aborted = false) :
    (o.play_rest env speaker cue_id).state = {} := by
  unfold AudioOutput.play_rest
  split
  · simp [AudioOutput.finish, hactive, hindex]
  · next hrest =>
    split
    · simp [drop_unnamed, hactive, hindex, hopen (by simpa using hrest)]
    · simp [AudioOutput.finish, play_whole, hactive, hindex]

theorem close_stream_index (h : o.Orderly) (cue_id : Option String) :
    (o.close_stream env speaker cue_id).state.pending_audio_stream_chunk_index = 0 ∧
      (o.close_stream env speaker cue_id).state.pending_audio_stream_created_at_ms = none := by
  unfold AudioOutput.close_stream
  split
  · next hnone => exact h.index hnone
  · exact ⟨rfl, rfl⟩

/-- An `audio.done` settles the record and empties the state, unless a rest of a given up stream is left. -/
theorem Orderly.done (h : o.Orderly) (speaker : Option String) {cue_id : Option String} (hrest : ¬ o.LeavesRest env)
    (hcue : ¬ o.EndsUnderAnotherCue env cue_id)
    (hcount : o.state.pending_audio_buffer ≠ [] → o.state.pending_audio_stream_chunk_index < U32_MAX) :
    (o.process_audio_done env speaker cue_id).state = {} ∧
      Settled o.closing (o.process_audio_done env speaker cue_id).calls := by
  have hrecorded := h.record_desktop_audio_done env
  have hclosing : (o.record_desktop_audio_done env).closing = o.closing := by
    unfold AudioOutput.record_desktop_audio_done closing
    split <;> rfl
  have hlost : env.timeline_written = false →
      (o.record_desktop_audio_done env).state.pending_audio_buffer = [] ∧
        (o.record_desktop_audio_done env).state.pending_audio_stream_aborted = true := by
    intro hlost
    rw [(record_desktop_audio_done_lost hlost).1]
    exact ⟨rfl, rfl⟩
  change (((o.record_desktop_audio_done env).close_stream env speaker cue_id).play_rest env speaker cue_id).state =
      {} ∧ Settled o.closing
        (((o.record_desktop_audio_done env).close_stream env speaker cue_id).play_rest env speaker cue_id).calls
  rw [← hclosing]
  cases hactive : (o.record_desktop_audio_done env).state.pending_audio_stream_cue_id with
  | some active =>
    have hcloses : ((o.record_desktop_audio_done env).close_stream env speaker
        cue_id).state.pending_audio_stream_cue_id = none ∧ _ := close_stream_closes cue_id
    have hempty := hcloses.2 (by simp [hactive])
    have hsettled : Settled (o.record_desktop_audio_done env).closing
        ((o.record_desktop_audio_done env).close_stream env speaker cue_id).calls := by
      refine hrecorded.close_stream env speaker hactive (fun hsome hopen => ?_) fun hopen hrefuses => ?_
      · cases hlog : env.timeline_written with
        | false => exact absurd (hlost hlog).1 hsome
        | true =>
          rw [record_desktop_audio_done_written hlog] at hsome ⊢
          exact hcount hsome
      · cases hlog : env.timeline_written with
        | false => exact absurd hopen (by simp [(hlost hlog).2])
        | true =>
          rw [record_desktop_audio_done_written hlog] at hactive hopen
          by_contra hother
          exact hcue ⟨hlog, hopen, ⟨active, hactive, hother⟩, hrefuses⟩
    refine ⟨play_rest_state hcloses.1 (close_stream_index hrecorded cue_id) fun hsome => absurd hempty hsome, ?_⟩
    unfold AudioOutput.play_rest
    rw [if_pos (by simp [hempty])]
    exact hsettled
  | none =>
    rw [close_stream_none _ hactive]
    have hopen : (o.record_desktop_audio_done env).state.pending_audio_buffer ≠ [] →
        (o.record_desktop_audio_done env).state.pending_audio_stream_aborted = false := by
      intro hsome
      cases hlog : env.timeline_written with
      | false => exact absurd (hlost hlog).1 hsome
      | true =>
        rw [record_desktop_audio_done_written hlog] at hactive hsome ⊢
        by_contra haborted
        exact hrest ⟨hactive, Bool.eq_true_of_not_eq_false haborted, hsome, hlog⟩
    refine ⟨play_rest_state hactive (hrecorded.index hactive) hopen, ?_⟩
    unfold AudioOutput.play_rest
    split
    · exact hrecorded.is_settled (.inl hactive)
    · next hsome =>
      split
      · exact hrecorded.is_settled (.inl hactive)
      · exact hrecorded.plays hactive (hopen (by simpa using hsome)) rfl

/-! ## Every run -/

/-- The events that the handlers take without a slip. -/
def Clean (o : AudioOutput S) : Op S → Prop
  | .delta env ⟨response_id, .decoded samples _⟩ cue_id =>
    o.Named response_id ∧ ¬ o.FailsUnderAnotherCue env response_id cue_id samples ∧ o.StaysCounted env samples
  | .delta _ ⟨_, .absent⟩ _ | .delta _ ⟨_, .undecodable⟩ _ => True
  | .done env _ cue_id =>
    ¬ o.LeavesRest env ∧ ¬ o.EndsUnderAnotherCue env cue_id ∧
      (o.state.pending_audio_buffer ≠ [] → o.state.pending_audio_stream_chunk_index < U32_MAX)

theorem Orderly.step (h : o.Orderly) {op : Op S} (hclean : o.Clean op) : (step o op).Orderly := by
  cases op with
  | delta env evt cue_id =>
    obtain ⟨_, audio⟩ := evt
    cases audio with
    | absent | undecodable => exact h
    | decoded _ _ => exact h.delta hclean.1 hclean.2.1 hclean.2.2
  | done env speaker cue_id =>
    obtain ⟨hstate, hsettled⟩ := h.done speaker hclean.1 hclean.2.1 hclean.2.2
    exact hsettled.finish hstate

theorem start_orderly : ({} : AudioOutput S).Orderly := by
  refine ⟨fun _ => ⟨rfl, rfl⟩, by rintro _ ⟨⟩, by rintro response_id ⟨⟩, fun _ => .of_series 0, fun _ _ _ => rfl,
    by rintro response_id ⟨⟩, by rintro _ ⟨⟩, ?_, Each.nil _⟩
  rintro response_id ⟨_, _, hmem⟩
  cases hmem

/-- In a run without a slip the streams of each response are one series, nothing of a response is enqueued after
its stream was given up, and every `audio.done` leaves no stream open and nothing in the state. -/
theorem responses_stream_in_order (ops : List (Op S)) (h : Along step Clean ({} : AudioOutput S) ops) :
    (∀ response_id, InSeries (parts response_id (run step {} ops).calls)) ∧
      Each Silent (run step {} ops).calls ∧
        ∀ before env speaker cue_id, ops = before ++ [.done env speaker cue_id] →
          (run step {} ops).state = {} ∧ ∀ cue, unsettled cue (run step {} ops).calls = false := by
  have horderly := Along.keeps Orderly (fun o op h hclean => h.step hclean) start_orderly h
  refine ⟨horderly.series, horderly.silent, fun before env speaker cue_id hops => ?_⟩
  subst hops
  obtain ⟨hbefore, hclean, -⟩ := Along.append.mp h
  have hwas := Along.keeps Orderly (fun o op h hclean => h.step hclean) start_orderly hbefore
  obtain ⟨hstate, hsettled⟩ := hwas.done speaker hclean.1 hclean.2.1 hclean.2.2
  rw [run_snoc]
  exact ⟨hstate, hsettled.settled⟩

end AudioOutput

/-! ## One response -/

/-- A response with one delta and its end, on the desktop. -/
def sample_turn : List (Op Int) :=
  [.delta desktop ⟨some "response-a", .decoded [11] 4⟩ (some "cue-a"),
    .done desktop (some "response-a") (some "cue-a")]

namespace AudioOutput

theorem sample_turn_clean : Along step Clean ({} : AudioOutput Int) sample_turn := by
  have hwritten : desktop.timeline_written = true := rfl
  refine ⟨⟨fun _ _ _ => ⟨by simp, .inl rfl⟩, fun hfails => ?_, ?_⟩, ⟨fun hrest => ?_, fun hends => ?_, ?_⟩, trivial⟩
  · exact absurd (hwritten.symm.trans hfails.1) (by simp)
  · intro config hconfig
    cases hconfig
    decide
  · exact absurd hrest.1 (by decide +kernel)
  · obtain ⟨-, -, -, _, _, hrefused⟩ := hends
    cases hrefused
  · decide +kernel

theorem sample_turn_in_order :
    (∀ response_id, InSeries (parts response_id (run step {} sample_turn).calls)) ∧
      Each Silent (run step {} sample_turn).calls ∧
        ∀ before env speaker cue_id, sample_turn = before ++ [.done env speaker cue_id] →
          (run step {} sample_turn).state = {} ∧
            ∀ cue, unsettled cue (run step {} sample_turn).calls = false :=
  responses_stream_in_order sample_turn sample_turn_clean

/-- The desktop while the queue has no room for streams. -/
def crowded : Surroundings Int where
  config := some {}
  outcome
    | .Stream _ _ _ => .Overflow .QueueFull [] 0
    | .Play _ => .Queued

/-- A delta of one sample more than a batch. -/
def long_delta : Delta Int := .decoded (List.replicate 2401 7) 6404

/-- The queue refuses the batch, the stream is given up, and the last sample is played as a whole cue. -/
theorem rest_of_a_given_up_stream_is_played : ¬ Each Silent (run step ({} : AudioOutput Int)
    [.delta crowded ⟨some "response-a", long_delta⟩ (some "cue-a"),
      .done crowded (some "response-a") (some "cue-a")]).calls := by
  intro h
  have hplayed : (run step ({} : AudioOutput Int) [.delta crowded ⟨some "response-a", long_delta⟩ (some "cue-a"),
      .done crowded (some "response-a") (some "cue-a")]).calls.getLast? =
        some (.enqueue (some "response-a") (.Play { samples := [7], cue_id := "cue-a"
                                                    response_id := some "response-a", queued_at := 0
                                                    created_at_ms := 0, estimated_duration_ms := 1 }) .Queued) := by
    decide +kernel
  have hgave : gave_up "response-a" (run step ({} : AudioOutput Int)
      [.delta crowded ⟨some "response-a", long_delta⟩ (some "cue-a"),
        .done crowded (some "response-a") (some "cue-a")]).calls.dropLast := by
    refine ⟨"cue-a", 0, ?_⟩
    decide +kernel
  exact h.last hplayed "response-a" rfl (by simp [OmniPlaybackCommand.clip]) hgave

end AudioOutput

end omni_translate.audio_output
