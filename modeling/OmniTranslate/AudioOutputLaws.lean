-- Whose audio the commands of the queue carry. While each response speaks in
-- its turn, a command for a cue carries samples of that cue's responses, and a
-- stream is ended by its own response; the handlers check the owner of a delta
-- only where a stream is open and the route streams.
import OmniTranslate.AudioOutput

namespace omni_translate.audio_output

open runs
open playback (TranslationStreamState)
open native_playback

variable {S : Type}

namespace AudioOutput

variable {env : Surroundings S} {config : OmniSpeechConfig} {route : SpeechOutputRoutePlan}
  {speaker : Option String} {o : AudioOutput S}

/-! ## What an `audio.delta` does after its samples are taken -/

/-- The stream is aborted and its buffer dropped, under the name of the given cue. -/
def give_up (o : AudioOutput S) (cue_id : String) (more : List (QueueCall S)) : AudioOutput S :=
  { o with
    calls := o.calls ++ .abort_stream cue_id o.state.pending_audio_stream_chunk_index
      o.state.pending_audio_response_id :: more
    state := { o.state with pending_audio_stream_aborted := true, pending_audio_buffer := [] } }

theorem check_owner_cases (route : SpeechOutputRoutePlan) (response_id : Option String) (o : AudioOutput S) :
    o.check_owner route response_id = o ∨ ∃ active, o.state.pending_audio_stream_cue_id = some active ∧
      o.check_owner route response_id = o.give_up active [] := by
  unfold check_owner give_up
  cases hactive : o.state.pending_audio_stream_cue_id with
  | none => exact .inl rfl
  | some active =>
    dsimp only
    split
    · exact .inr ⟨active, rfl, rfl⟩
    · exact .inl rfl

theorem record_desktop_audio_delta_cases (env : Surroundings S) (config : OmniSpeechConfig)
    (route : SpeechOutputRoutePlan) (cue_id : String) (samples : List S) (o : AudioOutput S) :
    o.record_desktop_audio_delta env config route cue_id samples = o ∨
      ((plays_on_desktop config route = true ∧ o.state.pending_audio_stream_aborted = false ∧ samples ≠ [] ∧
          env.timeline_written = false) ∧
        o.record_desktop_audio_delta env config route cue_id samples = o.give_up cue_id [.abort]) := by
  unfold record_desktop_audio_delta give_up
  split
  · next h =>
    refine .inr ⟨⟨h.1, h.2.1, fun hempty => ?_, h.2.2.2⟩, rfl⟩
    simp [hempty] at h
  · exact .inl rfl

variable {cue_id : String}

/-- What each turn of the loop keeps, the loop keeps. A turn is made with a full batch, while the stream is not
aborted. -/
theorem send_batches_keeps {batch_samples : Nat} (Inv : AudioOutput S → Prop)
    (hsend : ∀ o : AudioOutput S, o.state.pending_audio_stream_aborted = false →
      batch_samples ≤ o.state.pending_audio_buffer.length → Inv o →
        Inv (o.send_batch env route speaker cue_id batch_samples)) (fuel : Nat) (h : Inv o) :
    Inv (o.send_batches env route speaker cue_id batch_samples fuel) := by
  induction fuel generalizing o with
  | zero => exact h
  | succ fuel ih =>
    unfold send_batches
    split
    · next hmore => exact ih (hsend o hmore.2 hmore.1 h)
    · exact h

theorem batch_samples_pos (route : SpeechOutputRoutePlan) (buffered : Nat) : 0 < batch_samples route buffered := by
  unfold batch_samples
  split
  · decide
  · omega

/-- A turn of the loop sends a batch, and where the queue refuses it, gives the stream up. -/
theorem send_batch_cases (env : Surroundings S) (route : SpeechOutputRoutePlan) (speaker : Option String)
    (cue_id : String) (batch_samples : Nat) (o : AudioOutput S) :
    ∃ clip outcome call, clip.cue_id = cue_id ∧ clip.samples = o.state.pending_audio_buffer.take batch_samples ∧
      clip.response_id = o.state.pending_audio_response_id ∧
      call = QueueCall.enqueue speaker (.Stream clip o.state.pending_audio_stream_chunk_index
        (if o.state.pending_audio_stream_cue_id = none then .Start else .Chunk)) outcome ∧
      ((refused outcome = true ∧ o.send_batch env route speaker cue_id batch_samples =
          { o with
            calls := o.calls ++ [call,
              .abort_stream cue_id o.state.pending_audio_stream_chunk_index o.state.pending_audio_response_id]
            state := { o.state with
              pending_audio_buffer := o.state.pending_audio_buffer.drop batch_samples
              pending_audio_stream_cue_id := none
              pending_audio_stream_chunk_index := 0
              pending_audio_stream_created_at_ms := none
              pending_audio_stream_aborted := true } }) ∨
        (refused outcome = false ∧ ∃ created_at_ms, o.send_batch env route speaker cue_id batch_samples =
          { o with
            calls := o.calls ++ [call]
            state := { o.state with
              pending_audio_buffer := o.state.pending_audio_buffer.drop batch_samples
              pending_audio_stream_cue_id := some cue_id
              pending_audio_stream_chunk_index := saturating_succ o.state.pending_audio_stream_chunk_index
              pending_audio_stream_created_at_ms := some created_at_ms } })) := by
  unfold AudioOutput.send_batch
  extract_lets created_at_ms raw command outcome
  refine ⟨command.clip, outcome, .enqueue speaker command outcome, rfl, rfl, rfl, rfl, ?_⟩
  by_cases hrefused : refused outcome = true
  · exact .inl ⟨hrefused, if_pos hrefused⟩
  · exact .inr ⟨Bool.eq_false_of_not_eq_true hrefused, created_at_ms, if_neg hrefused⟩

/-- What is left of a delta is nothing, the abort of another cue's stream, or the batches of its own. -/
theorem stream_out_cases (env : Surroundings S) (config : OmniSpeechConfig) (route : SpeechOutputRoutePlan)
    (speaker : Option String) (cue_id : String) (o : AudioOutput S) :
    o.stream_out env config route speaker cue_id = o ∨
      (o.state.pending_audio_stream_aborted = false ∧
        ((∃ active, o.state.pending_audio_stream_cue_id = some active ∧ active ≠ cue_id ∧
            o.stream_out env config route speaker cue_id = o.abort_overlap active) ∨
          ((∀ active, o.state.pending_audio_stream_cue_id = some active → active = cue_id) ∧
            o.stream_out env config route speaker cue_id =
              o.send_batches env route speaker cue_id (batch_samples route o.state.pending_audio_buffer.length)
                o.state.pending_audio_buffer.length))) := by
  unfold stream_out overlaps
  split
  · next hroute =>
    refine .inr ⟨hroute.2, ?_⟩
    cases hactive : o.state.pending_audio_stream_cue_id with
    | none => exact .inr ⟨by rintro active ⟨⟩, rfl⟩
    | some active =>
      by_cases hsame : active = cue_id
      · refine .inr ⟨fun _ h => ?_, by simp [hsame]⟩
        rw [← Option.some.inj h]
        exact hsame
      · exact .inl ⟨active, rfl, hsame, by simp [hsame]⟩
  · exact .inl rfl

/-! ## How an `audio.done` closes a stream -/

/-- The rest of the buffer goes out as one more chunk, if the stream is not aborted. -/
theorem send_tail_cases (env : Surroundings S) (speaker : Option String) (stream_cue_id : String)
    (o : AudioOutput S) :
    (o.send_tail env speaker stream_cue_id = o ∧
        (o.state.pending_audio_buffer = [] ∨ o.state.pending_audio_stream_aborted = true)) ∨
      (o.state.pending_audio_buffer ≠ [] ∧ o.state.pending_audio_stream_aborted = false ∧
        ∃ clip outcome call, clip.cue_id = stream_cue_id ∧ clip.samples = o.state.pending_audio_buffer ∧
          clip.response_id = o.state.pending_audio_response_id ∧
          call = QueueCall.enqueue speaker
            (.Stream clip o.state.pending_audio_stream_chunk_index .Chunk) outcome ∧
          ((refused outcome = true ∧ o.send_tail env speaker stream_cue_id =
              { o with
                calls := o.calls ++ [call, .abort_stream stream_cue_id
                  o.state.pending_audio_stream_chunk_index o.state.pending_audio_response_id]
                state := { o.state with pending_audio_buffer := [], pending_audio_stream_aborted := true } }) ∨
            (refused outcome = false ∧ o.send_tail env speaker stream_cue_id =
              { o with
                calls := o.calls ++ [call]
                state := { o.state with
                  pending_audio_buffer := []
                  pending_audio_stream_chunk_index :=
                    saturating_succ o.state.pending_audio_stream_chunk_index } }))) := by
  unfold AudioOutput.send_tail
  by_cases hsend : o.state.pending_audio_buffer.isEmpty = false ∧ o.state.pending_audio_stream_aborted = false
  · rw [if_pos hsend]
    refine .inr ⟨by simpa using hsend.1, hsend.2, ?_⟩
    extract_lets command outcome
    refine ⟨command.clip, outcome, .enqueue speaker command outcome, rfl, rfl, rfl, rfl, ?_⟩
    by_cases hrefused : refused outcome = true
    · exact .inl ⟨hrefused, if_pos hrefused⟩
    · exact .inr ⟨Bool.eq_false_of_not_eq_true hrefused, if_neg hrefused⟩
  · rw [if_neg hsend]
    refine .inl ⟨rfl, ?_⟩
    by_cases hempty : o.state.pending_audio_buffer = []
    · exact .inl hempty
    · exact .inr (by simpa [hempty] using hsend)

theorem send_end_cases (env : Surroundings S) (speaker cue_id : Option String) (stream_cue_id : String)
    (o : AudioOutput S) :
    (o.state.pending_audio_stream_aborted = true ∧ o.send_end env speaker cue_id stream_cue_id = o) ∨
      (o.state.pending_audio_stream_aborted = false ∧
        ∃ clip outcome, clip.cue_id = stream_cue_id ∧ clip.samples = [] ∧
          clip.response_id = o.state.pending_audio_response_id ∧
          outcome = env.outcome (.Stream clip o.state.pending_audio_stream_chunk_index .End) ∧
          o.send_end env speaker cue_id stream_cue_id =
            { o with
              calls := o.calls ++
                [.enqueue speaker (.Stream clip o.state.pending_audio_stream_chunk_index .End) outcome] ++
                  if refused outcome = true then
                    [.abort_stream (cue_id.getD "unknown-native-cue") o.state.pending_audio_stream_chunk_index
                      o.state.pending_audio_response_id]
                  else [] }) := by
  unfold AudioOutput.send_end
  by_cases haborted : o.state.pending_audio_stream_aborted = true
  · exact .inl ⟨haborted, if_pos haborted⟩
  · rw [if_neg haborted]
    extract_lets command outcome
    refine .inr ⟨Bool.eq_false_of_not_eq_true haborted, command.clip, outcome, rfl, rfl, rfl, rfl, ?_⟩
    rw [List.append_assoc]
    rfl

/-! ## Whose samples a command carries -/

/-- The samples of the commands for a cue, in the order of the queue. -/
def carried (cue_id : String) (calls : List (QueueCall S)) : List S :=
  calls.flatMap fun
    | .enqueue _ command _ => if command.cue_id = cue_id then command.clip.samples else []
    | _ => []

variable (cue_of : String → String)

/-- The samples of the responses of a cue, in the order of arrival. -/
def heard_of (cue_id : String) (heard : List (Option String × List S)) : List S :=
  heard.flatMap fun delta => if delta.1.map cue_of = some cue_id then delta.2 else []

/-- The cue of the response whose audio is pending. -/
def pending_cue (o : AudioOutput S) : Option String :=
  o.state.pending_audio_response_id.map cue_of

/-- The samples that still wait for a command of the cue. -/
def waiting_for (cue_id : String) (o : AudioOutput S) : List S :=
  if o.pending_cue cue_of = some cue_id then o.state.pending_audio_buffer else []

def start_of : QueueCall S → Option (Option String)
  | .enqueue _ (.Stream clip _ .Start) _ => some clip.response_id
  | _ => none

/-- The response that the last start of a stream names. -/
def opener (calls : List (QueueCall S)) : Option (Option String) := (calls.filterMap start_of).getLast?

/-- An end comes from the `audio.done` of the response that started the stream. -/
def EndsOwn (before : List (QueueCall S)) : QueueCall S → Prop
  | .enqueue speaker (.Stream _ _ .End) _ => opener before = some speaker
  | _ => True

/-- What holds while each response speaks in its turn. -/
structure Apart (cue_of : String → String) (o : AudioOutput S) : Prop where
  unnamed : o.state.pending_audio_response_id = none →
    o.state.pending_audio_buffer = [] ∧ o.state.pending_audio_stream_cue_id = none
  carries : ∀ cue_id, (carried cue_id o.calls ++ o.waiting_for cue_of cue_id).Sublist (heard_of cue_of cue_id o.heard)
  streams : ∀ active, o.state.pending_audio_stream_cue_id = some active →
    o.pending_cue cue_of = some active ∧ opener o.calls = some o.state.pending_audio_response_id
  ends : Each EndsOwn o.calls

variable {cue_of : String → String}

/-- Calls that neither carry samples nor start or end a stream. -/
def Quiet (more : List (QueueCall S)) : Prop :=
  ∀ call ∈ more, call = .abort ∨ ∃ cue_id chunk_index response_id, call = .abort_stream cue_id chunk_index response_id

theorem carried_append (cue_id : String) (calls more : List (QueueCall S)) :
    carried cue_id (calls ++ more) = carried cue_id calls ++ carried cue_id more :=
  List.flatMap_append

theorem heard_append (cue_id : String) (heard new : List (Option String × List S)) :
    heard_of cue_of cue_id (heard ++ new) = heard_of cue_of cue_id heard ++ heard_of cue_of cue_id new :=
  List.flatMap_append

variable {more : List (QueueCall S)}

theorem Quiet.carried (h : Quiet more) (cue_id : String) :
    AudioOutput.carried cue_id more = [] := by
  unfold AudioOutput.carried
  rw [List.flatMap_eq_nil_iff]
  intro call hmem
  rcases h call hmem with rfl | ⟨_, _, _, rfl⟩ <;> rfl

theorem Quiet.opener (h : Quiet more) (calls : List (QueueCall S)) :
    AudioOutput.opener (calls ++ more) = AudioOutput.opener calls := by
  have hnone : more.filterMap start_of = [] := by
    rw [List.filterMap_eq_nil_iff]
    intro call hmem
    rcases h call hmem with rfl | ⟨_, _, _, rfl⟩ <;> rfl
  unfold AudioOutput.opener
  rw [List.filterMap_append, hnone, List.append_nil]

/-- What every call that is quiet meets. -/
theorem Quiet.each {ok : List (QueueCall S) → QueueCall S → Prop} {more calls : List (QueueCall S)}
    (habort : ∀ before, ok before .abort)
    (hstream : ∀ before cue_id chunk_index response_id, ok before (.abort_stream cue_id chunk_index response_id))
    (h : Quiet more) (hcalls : Each ok calls) : Each ok (calls ++ more) := by
  induction more generalizing calls with
  | nil => simpa using hcalls
  | cons call more ih =>
    rw [List.append_cons]
    refine ih (fun call hmem => h call (List.mem_cons_of_mem _ hmem)) (Each.snoc.mpr ⟨hcalls, ?_⟩)
    rcases h call List.mem_cons_self with rfl | ⟨_, _, _, rfl⟩
    · exact habort _
    · exact hstream _ _ _ _

theorem Quiet.ends {calls : List (QueueCall S)} : Quiet more → Each EndsOwn calls → Each EndsOwn (calls ++ more) :=
  Quiet.each (fun _ => trivial) fun _ _ _ _ => trivial

theorem quiet_abort_stream (cue_id : String) (chunk_index : Nat) (response_id : Option String)
    (h : Quiet more) : Quiet (.abort_stream cue_id chunk_index response_id :: more) := by
  intro call hmem
  rcases List.mem_cons.mp hmem with rfl | hmem
  · exact .inr ⟨_, _, _, rfl⟩
  · exact h call hmem

theorem quiet_abort : Quiet ([.abort] : List (QueueCall S)) := by
  intro call hmem
  exact .inl (List.mem_singleton.mp hmem)

theorem quiet_nil : Quiet ([] : List (QueueCall S)) := by
  intro call hmem
  cases hmem

theorem quiet_refused (outcome : OmniPlaybackEnqueueOutcome) (cue_id : String) (chunk_index : Nat)
    (response_id : Option String) : Quiet (if refused outcome = true then
      [QueueCall.abort_stream (S := S) cue_id chunk_index response_id] else []) := by
  split
  · exact quiet_abort_stream _ _ _ quiet_nil
  · exact quiet_nil

/-- Dropping the buffer with quiet calls keeps everything apart. -/
theorem Apart.drops (h : o.Apart cue_of) {o' : AudioOutput S} (hmore : Quiet more)
    (hcalls : o'.calls = o.calls ++ more) (hheard : o.heard <+: o'.heard)
    (hid : o'.state.pending_audio_response_id = o.state.pending_audio_response_id)
    (hbuffer : o'.state.pending_audio_buffer = [])
    (hstream : o'.state.pending_audio_stream_cue_id = o.state.pending_audio_stream_cue_id ∨
      o'.state.pending_audio_stream_cue_id = none) : o'.Apart cue_of := by
  refine ⟨fun hnone => ⟨hbuffer, ?_⟩, fun cue_id => ?_, fun active hactive => ?_, ?_⟩
  · rcases hstream with hsame | hclosed
    · rw [hsame]
      exact (h.unnamed (hid ▸ hnone)).2
    · exact hclosed
  · obtain ⟨_, hnew⟩ := hheard
    rw [hcalls, ← hnew, heard_append, carried_append, hmore.carried]
    unfold waiting_for
    rw [hbuffer, ite_self, List.append_nil, List.append_nil]
    exact ((List.sublist_append_left _ _).trans (h.carries cue_id)).trans (List.sublist_append_left _ _)
  · rcases hstream with hsame | hclosed
    · rw [hcalls, hmore.opener, hid]
      unfold pending_cue
      rw [hid]
      exact h.streams active (hsame ▸ hactive)
    · rw [hclosed] at hactive
      cases hactive
  · rw [hcalls]
    exact hmore.ends h.ends

theorem Apart.give_up (h : o.Apart cue_of) (cue_id : String) (hmore : Quiet more) :
    (o.give_up cue_id more).Apart cue_of :=
  h.drops (quiet_abort_stream _ _ _ hmore) rfl (List.prefix_refl _) rfl rfl (.inl rfl)

theorem Apart.abort_overlap (h : o.Apart cue_of) (active : String) : (o.abort_overlap active).Apart cue_of :=
  h.drops (quiet_abort_stream _ _ _ quiet_nil) rfl (List.prefix_refl _) rfl rfl (.inr rfl)

theorem carried_enqueue (cue_id : String) (calls : List (QueueCall S)) (speaker : Option String)
    (command : OmniPlaybackCommand S) (outcome : OmniPlaybackEnqueueOutcome) :
    carried cue_id (calls ++ [.enqueue speaker command outcome]) =
      carried cue_id calls ++ if command.cue_id = cue_id then command.clip.samples else [] := by
  simp [carried]

/-- The samples of a batch move from the buffer to a command of the same cue. -/
theorem carries_batch (hcue : o.pending_cue cue_of = some cue_id) (other : String)
    (speaker : Option String) (command : OmniPlaybackCommand S)
    (outcome : OmniPlaybackEnqueueOutcome) (hcommand : command.cue_id = cue_id) (batch : Nat)
    (hsamples : command.clip.samples = o.state.pending_audio_buffer.take batch) :
    (carried other (o.calls ++ [.enqueue speaker command outcome]) ++
        if o.pending_cue cue_of = some other then o.state.pending_audio_buffer.drop batch else []) =
      carried other o.calls ++ o.waiting_for cue_of other := by
  rw [carried_enqueue, hcommand, hsamples, hcue]
  unfold waiting_for
  rw [hcue]
  by_cases hsame : cue_id = other
  · simp [hsame]
  · simp [hsame]

/-- A part of a stream takes the next samples of the buffer under the cue that they belong to. -/
theorem Apart.sends (h : o.Apart cue_of) {o' : AudioOutput S} {clip : Clip S}
    {chunk_index batch : Nat} {stream_state : TranslationStreamState}
    {outcome : OmniPlaybackEnqueueOutcome} (hcue : o.pending_cue cue_of = some clip.cue_id)
    (hsamples : clip.samples = o.state.pending_audio_buffer.take batch)
    (hbuffer : o'.state.pending_audio_buffer = o.state.pending_audio_buffer.drop batch)
    (hcalls : o'.calls = o.calls ++ [.enqueue speaker (.Stream clip chunk_index stream_state) outcome] ++ more)
    (hmore : Quiet more) (hheard : o'.heard = o.heard)
    (hid : o'.state.pending_audio_response_id = o.state.pending_audio_response_id)
    (hstart : stream_state = .Start → clip.response_id = o.state.pending_audio_response_id)
    (hgoes_on : stream_state ≠ .Start → ∃ active, o.state.pending_audio_stream_cue_id = some active)
    (hstream : ∀ active, o'.state.pending_audio_stream_cue_id = some active → active = clip.cue_id)
    (hend : stream_state = .End → opener o.calls = some speaker) : o'.Apart cue_of := by
  have hnamed : o.state.pending_audio_response_id ≠ none := by
    intro hnone
    rw [pending_cue, hnone] at hcue
    cases hcue
  have hpending : o'.pending_cue cue_of = o.pending_cue cue_of := by
    unfold pending_cue
    rw [hid]
  refine ⟨fun hnone => absurd (hid ▸ hnone) hnamed, fun other => ?_, fun active hactive => ?_, ?_⟩
  · have hmoved := carries_batch hcue other speaker (.Stream clip chunk_index stream_state) outcome rfl batch hsamples
    unfold waiting_for at hmoved ⊢
    rw [hcalls, hheard, carried_append, hmore.carried, List.append_nil, hpending, hbuffer, hmoved]
    exact h.carries other
  · refine ⟨by rw [hpending, hcue, hstream active hactive], ?_⟩
    rw [hcalls, hmore.opener, hid]
    unfold opener
    rw [List.filterMap_append]
    by_cases hfirst : stream_state = .Start
    · simp [hfirst, start_of, hstart hfirst]
    · obtain ⟨open_cue, hopen⟩ := hgoes_on hfirst
      have hopener := (h.streams open_cue hopen).2
      cases stream_state with
      | Start => exact absurd rfl hfirst
      | _ => simpa [start_of, opener] using hopener
  · rw [hcalls]
    refine hmore.ends (Each.snoc.mpr ⟨h.ends, ?_⟩)
    cases stream_state with
    | End => exact hend rfl
    | _ => trivial

theorem Apart.send_batch {batch_samples : Nat} (h : o.Apart cue_of)
    (hcue : o.pending_cue cue_of = some cue_id) :
    (o.send_batch env route speaker cue_id batch_samples).Apart cue_of ∧
      (o.send_batch env route speaker cue_id batch_samples).pending_cue cue_of = some cue_id := by
  obtain ⟨_, _, _, rfl, hsamples, hid, rfl, hresult⟩ :=
    send_batch_cases env route speaker cue_id batch_samples o
  have hgoes_on : (if o.state.pending_audio_stream_cue_id = none then TranslationStreamState.Start else .Chunk) ≠
      .Start → ∃ active, o.state.pending_audio_stream_cue_id = some active := by
    intro hchunk
    by_contra hnone
    push Not at hnone
    exact hchunk (if_pos (Option.eq_none_iff_forall_ne_some.mpr hnone))
  have hend : (if o.state.pending_audio_stream_cue_id = none then TranslationStreamState.Start else .Chunk) =
      .End → opener o.calls = some speaker := by
    intro h
    split at h <;> cases h
  rcases hresult with ⟨-, hresult⟩ | ⟨-, _, hresult⟩
  · rw [hresult]
    exact ⟨h.sends hcue hsamples rfl (List.append_cons _ _ _) (quiet_abort_stream _ _ _ quiet_nil) rfl rfl
      (fun _ => hid) hgoes_on (by rintro active ⟨⟩) hend, hcue⟩
  · rw [hresult]
    exact ⟨h.sends hcue hsamples rfl (List.append_nil _).symm quiet_nil rfl rfl
      (fun _ => hid) hgoes_on (by rintro active ⟨⟩; rfl) hend, hcue⟩

/-- Streaming keeps everything apart when the cue is the one of the pending audio. -/
theorem Apart.stream_out (h : o.Apart cue_of)
    (hcue : o.state.pending_audio_stream_aborted = false → o.pending_cue cue_of = some cue_id) :
    (o.stream_out env config route speaker cue_id).Apart cue_of := by
  rcases stream_out_cases env config route speaker cue_id o with
    hsame | ⟨hopen, ⟨active, -, -, hover⟩ | ⟨-, hbatches⟩⟩
  · rw [hsame]
    exact h
  · rw [hover]
    exact h.abort_overlap active
  · rw [hbatches]
    refine (send_batches_keeps (fun o => o.Apart cue_of ∧ o.pending_cue cue_of = some cue_id)
      (fun o _ _ h => h.1.send_batch h.2) _ ⟨h, hcue hopen⟩).1

/-! ## One event -/

/-- The pending audio is of the cue, unless the stream is aborted. -/
structure Ready (cue_of : String → String) (cue_id : String) (o : AudioOutput S) : Prop where
  apart : o.Apart cue_of
  cue : o.state.pending_audio_stream_aborted = false → o.pending_cue cue_of = some cue_id

theorem Apart.take_samples (h : o.Apart cue_of) {response : String} (samples : List S) (base64_bytes : Nat)
    (hfits : o.state.pending_audio_stream_aborted = true ∨
      ∀ owner, o.state.pending_audio_response_id = some owner → cue_of owner = cue_of response) :
    (o.take_samples (some response) samples base64_bytes).Ready cue_of (cue_of response) := by
  have hheard : ∀ cue_id, heard_of cue_of cue_id [(some response, samples)] =
      if cue_of response = cue_id then samples else [] := by
    simp [heard_of]
  cases hid : o.state.pending_audio_response_id with
  | none =>
    obtain ⟨hbuffer, hstream⟩ := h.unnamed hid
    refine ⟨⟨fun hnone => ?_, fun cue_id => ?_, fun active hactive => ?_, h.ends⟩, fun _ => ?_⟩
    · simp [AudioOutput.take_samples, hid] at hnone
    · have hcarries := h.carries cue_id
      simp only [waiting_for, hbuffer, ite_self, List.append_nil] at hcarries
      simp only [AudioOutput.take_samples, waiting_for, pending_cue, hid, hbuffer, Option.none_or, Option.map_some,
        Option.some.injEq, List.nil_append, heard_append, hheard]
      refine List.Sublist.append hcarries ?_
      split_ifs <;> simp
    · simp only [AudioOutput.take_samples, hstream] at hactive
      cases hactive
    · simp [AudioOutput.take_samples, pending_cue, hid]
  | some owner =>
    have hkeep : (o.take_samples (some response) samples base64_bytes).pending_cue cue_of = some (cue_of owner) := by
      simp [AudioOutput.take_samples, pending_cue, hid]
    refine ⟨⟨fun hnone => ?_, fun cue_id => ?_, fun active hactive => ?_, h.ends⟩, fun hopen => ?_⟩
    · simp [AudioOutput.take_samples, hid] at hnone
    · have hcarries := h.carries cue_id
      simp only [waiting_for, pending_cue, hid, Option.map_some, Option.some.injEq] at hcarries
      unfold waiting_for
      rw [hkeep]
      simp only [AudioOutput.take_samples, Option.some.injEq, heard_append, hheard]
      rcases hfits with haborted | hsame
      · rw [if_pos haborted]
        exact hcarries.trans (List.sublist_append_left _ _)
      · rw [← hsame owner hid]
        by_cases hcue : cue_of owner = cue_id
        · simp only [if_pos hcue] at hcarries ⊢
          split
          · exact hcarries.trans (List.sublist_append_left _ _)
          · rw [← List.append_assoc]
            exact hcarries.append (List.Sublist.refl _)
        · simp only [if_neg hcue, List.append_nil] at hcarries ⊢
          exact hcarries
    · obtain ⟨hcue, hopener⟩ := h.streams active hactive
      refine ⟨?_, ?_⟩
      · rw [hkeep, ← hcue, pending_cue, hid, Option.map_some]
      · simpa [AudioOutput.take_samples, hid] using hopener
    · rw [hkeep, hfits.resolve_left (by simpa [AudioOutput.take_samples] using hopen) owner hid]

theorem Ready.give_up (h : o.Ready cue_of cue_id) (named : String) (hmore : Quiet more) :
    (o.give_up named more).Ready cue_of cue_id :=
  ⟨h.apart.give_up named hmore, by rintro ⟨⟩⟩

theorem Ready.check_owner (h : o.Ready cue_of cue_id) (response_id : Option String) :
    (o.check_owner route response_id).Ready cue_of cue_id := by
  rcases check_owner_cases route response_id o with hsame | ⟨active, -, hgiven⟩
  · rw [hsame]
    exact h
  · rw [hgiven]
    exact h.give_up active quiet_nil

theorem Ready.stream_out (h : o.Ready cue_of cue_id) (samples : List S) :
    ((o.record_desktop_audio_delta env config route cue_id samples).stream_out env config route speaker
      cue_id).Apart cue_of := by
  rcases record_desktop_audio_delta_cases env config route cue_id samples o with
    hsame | ⟨-, hgiven⟩
  · rw [hsame]
    exact h.apart.stream_out h.cue
  · rw [hgiven]
    exact (h.give_up cue_id quiet_abort).apart.stream_out (h.give_up cue_id quiet_abort).cue

/-- The route on which a stream of another response is noticed: on the desktop by its response, towards the
bridge by its cue. -/
def notices (env : Surroundings S) (cue_id : String) : Bool :=
  (nonblank (some cue_id)).isSome && env.config.any fun config =>
    (config.output_route env.direction).play_to_speaker ||
      (config.output_route env.direction).write_to_bridge_playback

/-- A stream of another cue that is noticed is given up together with the new samples. -/
theorem Apart.notices (h : o.Apart cue_of) {response owner active : String}
    (samples : List S) (base64_bytes : Nat) (hid : o.state.pending_audio_response_id = some owner)
    (hother : cue_of owner ≠ cue_of response) (hactive : o.state.pending_audio_stream_cue_id = some active)
    (hopen : o.state.pending_audio_stream_aborted = false)
    (hroute : route.play_to_speaker = true ∨ route.write_to_bridge_playback = true) :
    ((((o.take_samples (some response) samples base64_bytes).check_owner route
      (some response)).record_desktop_audio_delta env config route (cue_of response) samples).stream_out env
        config route speaker (cue_of response)).Apart cue_of := by
  have hcue : active = cue_of owner := by
    have hpending := (h.streams active hactive).1
    rw [pending_cue, hid] at hpending
    exact (Option.some.inj hpending).symm
  by_cases hspeaker : route.play_to_speaker = true
  · have hgiven : (o.take_samples (some response) samples base64_bytes).check_owner route (some response) =
        (o.take_samples (some response) samples base64_bytes).give_up active [] := by
      have hdiffer : owner ≠ response := fun hsame => hother (by rw [hsame])
      unfold AudioOutput.check_owner
      simp [AudioOutput.take_samples, AudioOutput.give_up, hactive, hid, hspeaker, differ, hdiffer]
    rw [hgiven]
    refine Ready.stream_out ⟨?_, by rintro ⟨⟩⟩ samples
    exact h.drops (quiet_abort_stream _ _ _ quiet_nil) rfl (List.prefix_append _ _)
      (by simp [AudioOutput.give_up, AudioOutput.take_samples, hid]) rfl (.inl rfl)
  · have hbridge := hroute.resolve_left hspeaker
    have hsilent : ((o.take_samples (some response) samples base64_bytes).check_owner route
        (some response)).record_desktop_audio_delta env config route (cue_of response) samples =
          o.take_samples (some response) samples base64_bytes := by
      unfold AudioOutput.check_owner AudioOutput.record_desktop_audio_delta
      simp [AudioOutput.take_samples, hactive, hspeaker, plays_on_desktop]
    have hover : (o.take_samples (some response) samples base64_bytes).stream_out env config route speaker
        (cue_of response) = (o.take_samples (some response) samples base64_bytes).abort_overlap active := by
      unfold AudioOutput.stream_out overlaps
      simp [AudioOutput.take_samples, hactive, hbridge, hopen, hcue, hother]
    rw [hsilent, hover]
    exact h.drops (quiet_abort_stream _ _ _ quiet_nil) rfl (List.prefix_append _ _)
      (by simp [AudioOutput.abort_overlap, AudioOutput.take_samples, hid]) rfl (.inr rfl)

end AudioOutput

/-! ## Responses that speak in turn -/

/-- An event of a response, whose cue is known. -/
inductive Message (S : Type)
  | delta (env : Surroundings S) (response : String) (audio : Delta S)
  | done (env : Surroundings S) (response : String)

/-- How the event reaches its handler. -/
def Message.op (cue_of : String → String) : Message S → Op S
  | .delta env response audio => .delta env ⟨some response, audio⟩ (some (cue_of response))
  | .done env response => .done env (some response) (some (cue_of response))

namespace AudioOutput

variable {cue_of : String → String} {env : Surroundings S} {o : AudioOutput S} {response : String}

def hear (cue_of : String → String) (o : AudioOutput S) (message : Message S) : AudioOutput S :=
  step o (message.op cue_of)

/-- No audio of another response waits in the buffer or in a stream when the event comes, or it cannot be
confused with the audio of the event. -/
def InTurn (cue_of : String → String) (o : AudioOutput S) : Message S → Bool
  | .delta env response (.decoded _ _) =>
    o.state.pending_audio_stream_aborted ||
      o.state.pending_audio_response_id.all (fun owner => cue_of owner == cue_of response) ||
        (o.state.pending_audio_stream_cue_id.isSome && notices env (cue_of response))
  | .delta _ _ .absent | .delta _ _ .undecodable => true
  | .done env response =>
    o.state.pending_audio_response_id.all (fun owner => owner == response) || !env.timeline_written ||
      (if o.state.pending_audio_stream_cue_id = none then
        o.state.pending_audio_buffer.isEmpty ||
          o.state.pending_audio_response_id.all (fun owner => cue_of owner == cue_of response)
      else o.state.pending_audio_stream_aborted)

theorem nonblank_eq {cue_id cue : String} (h : nonblank (some cue_id) = some cue) : cue = cue_id := by
  exact (Option.some.inj (Option.eq_some_of_filter_eq_some h)).symm

theorem Apart.delta {samples : List S} {base64_bytes : Nat} (h : o.Apart cue_of)
    (hturn : InTurn cue_of o (.delta env response (.decoded samples base64_bytes)) = true) :
    (o.process_audio_delta env ⟨some response, .decoded samples base64_bytes⟩
      (some (cue_of response))).Apart cue_of := by
  by_cases hfits : o.state.pending_audio_stream_aborted = true ∨
      ∀ owner, o.state.pending_audio_response_id = some owner → cue_of owner = cue_of response
  · have hready := h.take_samples samples base64_bytes hfits
    unfold process_audio_delta
    dsimp only
    split
    · next cue config hcue hconfig =>
      rw [nonblank_eq hcue]
      exact (hready.check_owner (some response)).stream_out samples
    · exact hready.apart
  · obtain ⟨hopen, owner, hid, hother⟩ : o.state.pending_audio_stream_aborted = false ∧
        ∃ owner, o.state.pending_audio_response_id = some owner ∧ cue_of owner ≠ cue_of response := by
      simpa using hfits
    have hseen : o.state.pending_audio_stream_cue_id.isSome = true ∧
        AudioOutput.notices env (cue_of response) = true := by
      simpa [InTurn, hopen, hid, hother] using hturn
    obtain ⟨_, hactive⟩ := Option.isSome_iff_exists.mp hseen.1
    unfold AudioOutput.notices at hseen
    rw [Bool.and_eq_true] at hseen
    obtain ⟨cue, hcue⟩ := Option.isSome_iff_exists.mp hseen.2.1
    have hnamed := nonblank_eq hcue
    subst hnamed
    cases hconfig : env.config with
    | none => simp [hconfig] at hseen
    | some config =>
      unfold process_audio_delta
      simp only [hcue, hconfig]
      refine h.notices samples base64_bytes hid hother hactive hopen ?_
      simpa [hconfig] using hseen.2.2

/-! ## One `audio.done` -/

/-- What `audio.done` does with an open stream and with the rest keeps everything apart. -/
theorem Apart.record_desktop_audio_done (env : Surroundings S) (h : o.Apart cue_of) :
    (o.record_desktop_audio_done env).Apart cue_of := by
  unfold AudioOutput.record_desktop_audio_done
  split
  · have hquiet : Quiet ((o.state.pending_audio_stream_cue_id.toList.map fun active =>
        QueueCall.abort_stream (S := S) active o.state.pending_audio_stream_chunk_index
          o.state.pending_audio_response_id) ++ [.abort]) := by
      intro call hmem
      rcases List.mem_append.mp hmem with hmem | hmem
      · obtain ⟨active, -, rfl⟩ := List.mem_map.mp hmem
        exact .inr ⟨_, _, _, rfl⟩
      · exact .inl (List.mem_singleton.mp hmem)
    exact h.drops hquiet (List.append_assoc _ _ _) (List.prefix_refl _) rfl rfl (.inl rfl)
  · exact h

variable {stream_cue_id : String}

theorem Apart.send_tail (env : Surroundings S) (response : String) (h : o.Apart cue_of)
    (hstream : o.state.pending_audio_stream_cue_id = some stream_cue_id) :
    (o.send_tail env (some response) stream_cue_id).Apart cue_of ∧
      (o.send_tail env (some response) stream_cue_id).state.pending_audio_stream_cue_id = some stream_cue_id := by
  have hcue := (h.streams stream_cue_id hstream).1
  rcases send_tail_cases env (some response) stream_cue_id o with
    ⟨hsame, -⟩ | ⟨-, -, clip, outcome, call, rfl, hsamples, hid, rfl, hresult⟩
  · rw [hsame]
    exact ⟨h, hstream⟩
  · have hall : clip.samples = o.state.pending_audio_buffer.take o.state.pending_audio_buffer.length :=
      hsamples.trans List.take_length.symm
    have hsame_cue : ∀ active, o.state.pending_audio_stream_cue_id = some active → active = clip.cue_id :=
      fun active hactive => Option.some.inj (hactive.symm.trans hstream)
    rcases hresult with ⟨-, hresult⟩ | ⟨-, hresult⟩
    · rw [hresult]
      exact ⟨h.sends hcue hall List.drop_length.symm (List.append_cons _ _ _) (quiet_abort_stream _ _ _ quiet_nil)
        rfl rfl (by rintro ⟨⟩) (fun _ => ⟨_, hstream⟩) hsame_cue (by rintro ⟨⟩), hstream⟩
    · rw [hresult]
      exact ⟨h.sends hcue hall List.drop_length.symm (List.append_nil _).symm quiet_nil
        rfl rfl (by rintro ⟨⟩) (fun _ => ⟨_, hstream⟩) hsame_cue (by rintro ⟨⟩), hstream⟩

theorem send_tail_keeps_id (stream_cue_id : String) :
    (o.send_tail env speaker stream_cue_id).state.pending_audio_response_id = o.state.pending_audio_response_id := by
  unfold AudioOutput.send_tail
  split
  · extract_lets command outcome
    split <;> rfl
  · rfl

theorem Apart.send_end (env : Surroundings S) (cue_id : Option String) (h : o.Apart cue_of)
    (hstream : o.state.pending_audio_stream_cue_id = some stream_cue_id)
    (hown : o.state.pending_audio_stream_aborted = false → o.state.pending_audio_response_id = some response) :
    (o.send_end env (some response) cue_id stream_cue_id).Apart cue_of := by
  obtain ⟨hcue, hopener⟩ := h.streams stream_cue_id hstream
  rcases send_end_cases env (some response) cue_id stream_cue_id o with
    ⟨-, hsame⟩ | ⟨hopen, clip, outcome, rfl, hsamples, hid, -, hresult⟩
  · rw [hsame]
    exact h
  · rw [hresult]
    exact h.sends hcue (hsamples.trans List.take_zero.symm) List.drop_zero.symm rfl (quiet_refused _ _ _ _) rfl rfl
      (by rintro ⟨⟩) (fun _ => ⟨_, hstream⟩)
      (fun _ hactive => Option.some.inj (hactive.symm.trans hstream)) fun _ => by rw [hopener, hown hopen]

theorem Apart.clears (h : o.Apart cue_of) {o' : AudioOutput S} (hcalls : o'.calls = o.calls)
    (hheard : o'.heard = o.heard) (hbuffer : o'.state.pending_audio_buffer = [])
    (hstream : o'.state.pending_audio_stream_cue_id = none) : o'.Apart cue_of := by
  refine ⟨fun _ => ⟨hbuffer, hstream⟩, fun cue_id => ?_, fun _ hactive => ?_, hcalls ▸ h.ends⟩
  · rw [hcalls, hheard, waiting_for, hbuffer, ite_self, List.append_nil]
    exact (List.sublist_append_left _ _).trans (h.carries cue_id)
  · rw [hstream] at hactive
    cases hactive

theorem send_tail_aborted
    (hopen : (o.send_tail env speaker stream_cue_id).state.pending_audio_stream_aborted = false) :
    o.state.pending_audio_stream_aborted = false := by
  rcases send_tail_cases env speaker stream_cue_id o with ⟨hsame, -⟩ | ⟨-, hwas, -⟩
  · rwa [hsame] at hopen
  · exact hwas

theorem Apart.close_stream {cue_id : Option String} (h : o.Apart cue_of)
    (hown : o.state.pending_audio_stream_cue_id.isSome = true → o.state.pending_audio_stream_aborted = false →
      o.state.pending_audio_response_id = some response) :
    (o.close_stream env (some response) cue_id).Apart cue_of := by
  unfold AudioOutput.close_stream
  split
  · exact h
  · next stream_cue_id hstream =>
    obtain ⟨htail, hstill⟩ := h.send_tail env response hstream
    refine (htail.send_end env cue_id hstill fun hopen => ?_).clears
      rfl rfl rfl rfl
    rw [send_tail_keeps_id]
    exact hown (by simp [hstream]) (send_tail_aborted hopen)

theorem Apart.play_rest (env : Surroundings S) (response : String) (h : o.Apart cue_of)
    (hstream : o.state.pending_audio_stream_cue_id = none)
    (hcue : o.state.pending_audio_buffer ≠ [] → o.pending_cue cue_of = some (cue_of response)) :
    (o.play_rest env (some response) (some (cue_of response))).Apart cue_of := by
  unfold AudioOutput.play_rest
  by_cases hempty : o.state.pending_audio_buffer.isEmpty = true
  · rw [if_pos hempty]
    exact h.clears rfl rfl rfl hstream
  · rw [if_neg hempty]
    have hpending := hcue (by simpa using hempty)
    split
    · exact h.clears rfl rfl rfl hstream
    · next cue hnamed =>
      rw [nonblank_eq hnamed]
      unfold AudioOutput.play_whole finish
      extract_lets command
      refine ⟨fun _ => ⟨rfl, hstream⟩, fun other => ?_, fun _ hactive => ?_, Each.snoc.mpr ⟨h.ends, trivial⟩⟩
      · have hmoved := carries_batch hpending other (some response) command (env.outcome command) rfl
          o.state.pending_audio_buffer.length List.take_length.symm
        rw [List.drop_length, ite_self, List.append_nil] at hmoved
        rw [waiting_for, ite_self, List.append_nil, hmoved]
        exact h.carries other
      · exact absurd (hstream.symm.trans hactive) (by simp)

theorem close_stream_closes (cue_id : Option String) :
    (o.close_stream env speaker cue_id).state.pending_audio_stream_cue_id = none ∧
      (o.state.pending_audio_stream_cue_id ≠ none →
        (o.close_stream env speaker cue_id).state.pending_audio_buffer = []) := by
  unfold AudioOutput.close_stream
  split
  · next hnone => exact ⟨hnone, fun hsome => absurd hnone hsome⟩
  · exact ⟨rfl, fun _ => rfl⟩

theorem close_stream_none (cue_id : Option String) (hnone : o.state.pending_audio_stream_cue_id = none) :
    o.close_stream env speaker cue_id = o := by
  unfold AudioOutput.close_stream
  split
  · rfl
  · next stream_cue_id hsome => cases hnone.symm.trans hsome

theorem record_desktop_audio_done_lost (hlost : env.timeline_written = false) :
    (o.record_desktop_audio_done env).state =
      { o.state with pending_audio_stream_aborted := true, pending_audio_buffer := [] } ∧
    (o.record_desktop_audio_done env).closed = o.closed := by
  unfold AudioOutput.record_desktop_audio_done
  rw [if_pos hlost]
  exact ⟨rfl, rfl⟩

theorem record_desktop_audio_done_written (hkept : env.timeline_written = true) :
    o.record_desktop_audio_done env = o := by
  unfold AudioOutput.record_desktop_audio_done
  rw [if_neg (by simp [hkept])]

theorem Apart.done (h : o.Apart cue_of) (hturn : InTurn cue_of o (.done env response) = true) :
    (o.process_audio_done env (some response) (some (cue_of response))).Apart cue_of := by
  have hrecorded := h.record_desktop_audio_done env
  have hclosed : ((o.record_desktop_audio_done env).close_stream env (some response)
      (some (cue_of response))).Apart cue_of := by
    refine hrecorded.close_stream fun hstream hopen => ?_
    cases hlog : env.timeline_written with
    | false => simp [record_desktop_audio_done_lost hlog] at hopen
    | true =>
      rw [record_desktop_audio_done_written hlog] at hstream hopen ⊢
      obtain ⟨active, hactive⟩ := Option.isSome_iff_exists.mp hstream
      have howner := (h.streams active hactive).1
      cases hid : o.state.pending_audio_response_id with
      | none => simp [pending_cue, hid] at howner
      | some owner => simpa [InTurn, hid, hlog, hactive, hopen] using hturn
  have hend := hclosed.play_rest env response (close_stream_closes _).1 fun hrest => ?_
  · exact ⟨hend.unnamed, hend.carries, hend.streams, hend.ends⟩
  · cases hlog : env.timeline_written with
    | false =>
      by_cases hstream : (o.record_desktop_audio_done env).state.pending_audio_stream_cue_id = none
      · rw [close_stream_none _ hstream, (record_desktop_audio_done_lost hlog).1] at hrest
        exact absurd rfl hrest
      · exact absurd ((close_stream_closes _).2 hstream) hrest
    | true =>
      rw [record_desktop_audio_done_written hlog] at hrest ⊢
      by_cases hstream : o.state.pending_audio_stream_cue_id = none
      · rw [close_stream_none _ hstream] at hrest ⊢
        cases hid : o.state.pending_audio_response_id with
        | none => exact absurd (h.unnamed hid).1 hrest
        | some owner =>
          have hsame : owner = response ∨ cue_of owner = cue_of response := by
            simpa [InTurn, hid, hlog, hstream, hrest] using hturn
          rcases hsame with rfl | hsame
          · simp [pending_cue, hid]
          · simp [pending_cue, hid, hsame]
      · exact absurd ((close_stream_closes _).2 hstream) hrest

/-! ## Every run -/

theorem Apart.hear {message : Message S} (h : o.Apart cue_of) (hturn : InTurn cue_of o message = true) :
    (o.hear cue_of message).Apart cue_of := by
  cases message with
  | delta env response audio =>
    cases audio with
    | absent => exact h
    | undecodable => exact h
    | decoded _ _ => exact h.delta hturn
  | done env response => exact h.done hturn

theorem start_apart : ({} : AudioOutput S).Apart cue_of := by
  refine ⟨fun _ => ⟨rfl, rfl⟩, fun _ => ?_, by rintro _ ⟨⟩, Each.nil _⟩
  exact List.Sublist.refl _

/-- While the responses speak in turn, the commands of a cue carry samples of its own responses, in order and at
most once, and each stream is ended by the response that started it. -/
theorem voices_stay_apart (cue_of : String → String) (messages : List (Message S))
    (h : Along (hear cue_of) (fun o message => InTurn cue_of o message = true) {} messages) :
    (∀ cue_id, (carried cue_id (run (hear cue_of) {} messages).calls).Sublist
      (heard_of cue_of cue_id (run (hear cue_of) {} messages).heard)) ∧
      Each EndsOwn (run (hear cue_of) {} messages).calls := by
  have hapart := Along.keeps (fun o : AudioOutput S => o.Apart cue_of)
    (fun o message h hturn => h.hear hturn) start_apart h
  exact ⟨fun cue_id => (List.sublist_append_left _ _).trans (hapart.carries cue_id), hapart.ends⟩

end AudioOutput

/-! ## Two responses -/

/-- The cues of two responses. -/
def sample_cue (response : String) : String := if response = "response-a" then "cue-a" else "cue-b"

/-- The local voice goes to the virtual microphone, as whole cues. -/
def microphone : Surroundings Int where
  direction := "outbound"
  config := some { virtual_mic_output_enabled := true }

/-- The remote voice goes to the speaker, as streams. -/
def desktop : Surroundings Int where
  config := some {}

def say (env : Surroundings Int) (response : String) (sample : Int) : Message Int :=
  .delta env response (.decoded [sample] 4)

namespace AudioOutput

theorem voices_of_two_turns :
    (∀ cue_id, (carried cue_id (run (hear sample_cue) {} [say desktop "response-a" 11, .done desktop "response-a",
        say microphone "response-b" 99, .done microphone "response-b"]).calls).Sublist
      (heard_of sample_cue cue_id (run (hear sample_cue) {} [say desktop "response-a" 11,
        .done desktop "response-a", say microphone "response-b" 99, .done microphone "response-b"]).heard)) ∧
      Each EndsOwn (run (hear sample_cue) {} [say desktop "response-a" 11, .done desktop "response-a",
        say microphone "response-b" 99, .done microphone "response-b"]).calls :=
  voices_stay_apart sample_cue _ (by decide +kernel)

/-- The second response begins before the first is done: its cue is played with both voices. -/
theorem voices_are_mixed : ¬ ∀ cue_id, (carried cue_id (run (hear sample_cue) {}
    [say microphone "response-a" 11, say microphone "response-b" 99, .done microphone "response-b"]).calls).Sublist
      (heard_of sample_cue cue_id (run (hear sample_cue) {}
        [say microphone "response-a" 11, say microphone "response-b" 99,
          .done microphone "response-b"]).heard) := by
  intro h
  have hmixed := (h "cue-b").length_le
  revert hmixed
  decide +kernel

end AudioOutput

end omni_translate.audio_output
