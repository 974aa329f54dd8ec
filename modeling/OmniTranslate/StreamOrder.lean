-- The order of physical translation streams. A stream command goes from the channel to
-- the player at once or waits in a buffer, and which of the two depends on the queue of
-- complete cues, which other threads shorten meanwhile.
import OmniTranslate.Places
import OmniTranslate.PlaybackWorker

namespace omni_translate.playback

open runs

variable {S : Type}

/-! ## What belongs to a cue -/

def of_cue (cue_id : String) (commands : List (PhysicalTranslationStreamCommand S)) :
    List (PhysicalTranslationStreamCommand S) :=
  commands.filter (·.job.cue_id = some cue_id)

/-- The admitted commands of a cue, with their chunk indexes. -/
def admitted_of (cue_id : String) (admitted : List (PhysicalTranslationStreamCommand S × Nat)) :
    List (PhysicalTranslationStreamCommand S × Nat) :=
  admitted.filter (·.1.job.cue_id = some cue_id)

def stream_command : PlaybackCommand S → Option (PhysicalTranslationStreamCommand S)
  | .TranslationStream command => some command
  | _ => none

/-- The stream commands that wait in the channel. -/
def stream_commands (commands : List (PlaybackCommand S)) :
    List (PhysicalTranslationStreamCommand S) :=
  commands.filterMap stream_command

/-- The audio of the starts and the chunks. -/
def payloads (commands : List (PhysicalTranslationStreamCommand S)) : List (List S) :=
  (commands.filter (Bridge.carries_audio ·.state)).map (·.job.samples)

def appended_of (cue_id : String) (appended : List (String × List S)) : List (List S) :=
  (appended.filter (·.1 = cue_id)).map (·.2)

@[simp] theorem of_cue_nil (cue_id : String) :
    of_cue cue_id ([] : List (PhysicalTranslationStreamCommand S)) = [] := rfl

@[simp] theorem of_cue_append (cue_id : String)
    (xs ys : List (PhysicalTranslationStreamCommand S)) :
    of_cue cue_id (xs ++ ys) = of_cue cue_id xs ++ of_cue cue_id ys :=
  List.filter_append ..

variable {cue_id : String} {command : PhysicalTranslationStreamCommand S}

theorem of_cue_cons_self (h : command.job.cue_id = some cue_id)
    (commands : List (PhysicalTranslationStreamCommand S)) :
    of_cue cue_id (command :: commands) = command :: of_cue cue_id commands := by
  simp [of_cue, h]

theorem of_cue_cons_ne (h : command.job.cue_id ≠ some cue_id)
    (commands : List (PhysicalTranslationStreamCommand S)) :
    of_cue cue_id (command :: commands) = of_cue cue_id commands := by
  simp [of_cue, h]

@[simp] theorem stream_commands_append (xs ys : List (PlaybackCommand S)) :
    stream_commands (xs ++ ys) = stream_commands xs ++ stream_commands ys :=
  List.filterMap_append ..

@[simp] theorem payloads_append (xs ys : List (PhysicalTranslationStreamCommand S)) :
    payloads (xs ++ ys) = payloads xs ++ payloads ys := by
  simp [payloads]

@[simp] theorem appended_of_append (cue_id : String) (xs ys : List (String × List S)) :
    appended_of cue_id (xs ++ ys) = appended_of cue_id xs ++ appended_of cue_id ys := by
  simp [appended_of]

/-! ## The property -/

def STREAM_COMPLETED : String := "physical-playback-stream-completed"

/-- The highest chunk index, at which `next_chunk_index` saturates. -/
def MAX_CHUNK_INDEX : Nat := 2 ^ 32 - 1

/-- The commands of a cue were played in the order of their admission, and the rest waits in that
order; the audio of the played ones was appended once each and in chunk order, and all of it before
the cue's completed status. -/
structure InOrder (s : Bridge S) (cue_id : String) : Prop where
  order : of_cue cue_id s.worker.played ++
      (of_cue cue_id s.worker.pending_physical_streams ++
        of_cue cue_id (stream_commands s.commands)) =
    (admitted_of cue_id s.admitted).map (·.1)
  appended : appended_of cue_id s.worker.appended = payloads (of_cue cue_id s.worker.played)
  chunks : (admitted_of cue_id s.admitted).map (·.2) =
    (List.range (admitted_of cue_id s.admitted).length).map (min · MAX_CHUNK_INDEX)
  completed : ⟨some cue_id, .Completed, STREAM_COMPLETED⟩ ∈ s.state.statuses →
    appended_of cue_id s.worker.appended =
      payloads ((admitted_of cue_id s.admitted).map (·.1))

/-- The runs of the property: no stop, no rebind, no abort, and every device opens. -/
def undisturbed : Op S → Prop
  | .translation_frame frame _ => frame.stream_state ≠ some .Abort
  | .source_frame => True
  | .flush_source => True
  | .work e => e.open_error = none
  | _ => False

/-- No stream plays, and the worker receives a command that it may play at once by its second
reading of the queue, while a command of the same cue waits in the buffer since the first. -/
def overtakes (s : Bridge S) : Bool :=
  match s.worker.place, s.worker.physical_stream, s.commands with
  | .receive, none, .TranslationStream command :: _ =>
    PlaybackWorker.pending_physical_stream_command_is_ready none (some command)
        s.complete_playback_active s.pending_complete_sequence ∧
      s.worker.pending_physical_streams.any (·.job.cue_id = command.job.cue_id)
  | _, _, _ => false

/-- The condition on a step. -/
def in_turn (s : Bridge S) : Op S → Prop
  | .work _ => overtakes s = false
  | _ => True

/-! ## The shape of a stream -/

/-- A stream begins with its only start and has no abort, and nothing follows its end. -/
def Shaped (states : List TranslationStreamState) : Prop :=
  ∀ before state after, states = before ++ state :: after →
    (before = [] ↔ state = .Start) ∧ state ≠ .Abort ∧ (state = .End → after = [])

theorem Shaped.nil : Shaped [] := by
  intro before state after h
  exact absurd h.symm (by simp)

theorem Shaped.snoc {states : List TranslationStreamState} {state : TranslationStreamState}
    (h : Shaped states) (hstart : states = [] ↔ state = .Start) (habort : state ≠ .Abort)
    (hend : .End ∉ states) : Shaped (states ++ [state]) := by
  intro before state' after heq
  obtain ⟨rfl, rfl, rfl⟩ | ⟨rest, -, rfl⟩ := places.at_the_end heq
  · exact ⟨hstart, habort, fun _ => rfl⟩
  · obtain ⟨hs, ha, -⟩ := h before state' rest rfl
    refine ⟨hs, ha, fun he => ?_⟩
    rw [he] at hend
    simp at hend

/-! ## The ledger -/

variable {admission : PhysicalStreamAdmission}

/-- What a frame that is not an abort finds and leaves in the ledger when it is admitted. -/
theorem admit_frame_cases {ledger next : PhysicalTranslationStreamLedger}
    {chunk_index generation : Nat} {state : TranslationStreamState}
    (h : ledger.admit_frame cue_id chunk_index state generation = some (next, admission))
    (hnew : admission ≠ .Duplicate) (habort : state ≠ .Abort) :
    (cue_id, generation) ∉ ledger.completed ∧ next.completed = ledger.completed ∧
      ((state = .Start ∧ ledger.active.lookup cue_id = none ∧ chunk_index = 0 ∧
          next.active = ledger.active.insert cue_id ⟨1, false, generation⟩) ∨
        ∃ cursor, ledger.active.lookup cue_id = some cursor ∧
          cursor.translation_generation = generation ∧ cursor.ended = false ∧
          chunk_index = cursor.next_chunk_index ∧
          ((state = .Chunk ∧ next.active = ledger.active.insert cue_id { cursor with
              next_chunk_index := min (cursor.next_chunk_index + 1) MAX_CHUNK_INDEX }) ∨
            (state = .End ∧
              next.active = ledger.active.insert cue_id { cursor with ended := true }))) := by
  unfold PhysicalTranslationStreamLedger.admit_frame at h
  split at h
  · cases h
    exact absurd rfl hnew
  rename_i hopen
  cases state with
  | Start =>
    cases hl : ledger.active.lookup cue_id with
    | none =>
      rw [hl] at h
      dsimp only at h
      split at h
      · cases h
      · rename_i hzero
        cases h
        exact ⟨hopen, rfl, Or.inl ⟨rfl, rfl, Decidable.not_not.mp hzero, rfl⟩⟩
    | some cursor =>
      rw [hl] at h
      dsimp only at h
      split at h
      · cases h
      split at h
      · cases h
        exact absurd rfl hnew
      · cases h
  | Chunk =>
    cases hl : ledger.active.lookup cue_id with
    | none =>
      rw [hl] at h
      cases h
    | some cursor =>
      rw [hl] at h
      dsimp only at h
      split at h
      · cases h
      rename_i hgen
      split at h
      · cases h
      rename_i hended
      split at h
      · cases h
        exact absurd rfl hnew
      split at h
      · cases h
      rename_i hindex
      cases h
      exact ⟨hopen, rfl, Or.inr ⟨cursor, rfl, Decidable.not_not.mp hgen, by simpa using hended,
        Decidable.not_not.mp hindex, Or.inl ⟨rfl, rfl⟩⟩⟩
  | End =>
    cases hl : ledger.active.lookup cue_id with
    | none =>
      rw [hl] at h
      cases h
    | some cursor =>
      rw [hl] at h
      dsimp only at h
      split at h
      · cases h
      rename_i hgen
      split at h
      · cases h
        exact absurd rfl hnew
      rename_i hended
      split at h
      · cases h
      rename_i hindex
      cases h
      have hi : chunk_index = cursor.next_chunk_index := Decidable.not_not.mp hindex
      have he : cursor.ended = false := by simpa [hi] using hended
      exact ⟨hopen, rfl, Or.inr ⟨cursor, rfl, Decidable.not_not.mp hgen, he, hi,
        Or.inr ⟨rfl, rfl⟩⟩⟩
  | Abort => exact absurd rfl habort

/-! ## The invariant -/

/-- The stream that plays: its cue, its generation and whether it has ended. -/
def now_playing (w : PlaybackWorker S) : Option (String × Nat × Bool) :=
  w.physical_stream.map fun stream =>
    (stream.cue_id, stream.translation_generation, stream.ended)

/-- How a cue stands in generation `g`, between the ledger, the admitted commands, the ones that
were played, and the rest, which were not. -/
structure CueStands (g : Nat) (b : BridgeState) (w : PlaybackWorker S)
    (admitted : List (PhysicalTranslationStreamCommand S × Nat))
    (rest : List (PhysicalTranslationStreamCommand S)) (c : String) : Prop where
  order : of_cue c w.played ++ of_cue c rest = (admitted_of c admitted).map (·.1)
  appended : appended_of c w.appended = payloads (of_cue c w.played)
  chunks : (admitted_of c admitted).map (·.2) =
    (List.range (admitted_of c admitted).length).map (min · MAX_CHUNK_INDEX)
  shaped : Shaped ((admitted_of c admitted).map (·.1.state))
  idle : b.physical_translation_stream_ledger.active.lookup c = none →
    (c, g) ∉ b.physical_translation_stream_ledger.completed → admitted_of c admitted = []
  cursor : ∀ cursor, b.physical_translation_stream_ledger.active.lookup c = some cursor →
    cursor.translation_generation = g ∧ admitted_of c admitted ≠ [] ∧
      (cursor.ended = false → .End ∉ (admitted_of c admitted).map (·.1.state) ∧
        cursor.next_chunk_index = min (admitted_of c admitted).length MAX_CHUNK_INDEX)
  plays : of_cue c w.played ≠ [] → (c, g) ∉ b.physical_translation_stream_ledger.completed →
    ∃ ended, now_playing w = some (c, g, ended)
  stream : ∀ generation ended, now_playing w = some (c, generation, ended) →
    generation = g ∧ of_cue c w.played ≠ [] ∧
      (c, g) ∉ b.physical_translation_stream_ledger.completed ∧
      (ended = true ↔ .End ∈ (of_cue c w.played).map (·.state))
  completed : (c, g) ∈ b.physical_translation_stream_ledger.completed →
    of_cue c w.played = (admitted_of c admitted).map (·.1)
  status : ⟨some c, .Completed, STREAM_COMPLETED⟩ ∈ b.statuses →
    (c, g) ∈ b.physical_translation_stream_ledger.completed

/-- Every cue stands, in one generation and with nothing cancelled. -/
structure Stands (g : Nat) (b : BridgeState) (w : PlaybackWorker S)
    (admitted : List (PhysicalTranslationStreamCommand S × Nat))
    (rest : List (PhysicalTranslationStreamCommand S)) : Prop where
  generation : b.translation_generation = g
  cancelled : w.cancelled_physical_streams = ∅
  output : w.physical_stream.isSome → w.output.isSome
  cue : ∀ c, CueStands g b w admitted rest c

/-- Two states with the same ledger, of which the second has no new status of a completed
stream. -/
structure SameStreams (b b' : BridgeState) : Prop where
  generation : b'.translation_generation = b.translation_generation
  ledger : b'.physical_translation_stream_ledger = b.physical_translation_stream_ledger
  statuses : ∀ status ∈ b'.statuses, status ∈ b.statuses ∨ status.reason ≠ STREAM_COMPLETED

/-- Two workers that have played the same and play the same stream. -/
structure SameWork (w w' : PlaybackWorker S) : Prop where
  played : w'.played = w.played
  appended : w'.appended = w.appended
  cancelled : w'.cancelled_physical_streams = w.cancelled_physical_streams
  playing : now_playing w' = now_playing w
  output : w.output.isSome → w'.output.isSome

theorem SameStreams.refl (b : BridgeState) : SameStreams b b :=
  ⟨rfl, rfl, fun _ hs => Or.inl hs⟩

theorem SameStreams.trans {b b' b'' : BridgeState} (h : SameStreams b b')
    (h' : SameStreams b' b'') : SameStreams b b'' where
  generation := h'.generation.trans h.generation
  ledger := h'.ledger.trans h.ledger
  statuses status hs := by
    obtain hold | hnew := h'.statuses status hs
    · exact h.statuses status hold
    · exact Or.inr hnew

theorem SameStreams.emit (b : BridgeState) (cue_id : Option String)
    (status : bridge_playback_ack.TranslationPlaybackStatusKind) {reason : String}
    (hreason : reason ≠ STREAM_COMPLETED) :
    SameStreams b (b.emit_translation_status cue_id status reason) where
  generation := rfl
  ledger := rfl
  statuses status' hs := by
    obtain hold | hnew := List.mem_append.mp hs
    · exact Or.inl hold
    · rw [List.mem_singleton.mp hnew]
      exact Or.inr hreason

theorem SameWork.refl (w : PlaybackWorker S) : SameWork w w := ⟨rfl, rfl, rfl, rfl, id⟩

variable {c : String} {e : Outside} {r : PlaybackWorker S × BridgeState}

section

variable {g : Nat} {b b' : BridgeState} {w w' : PlaybackWorker S}
  {admitted : List (PhysicalTranslationStreamCommand S × Nat)}
  {rest rest' : List (PhysicalTranslationStreamCommand S)}

theorem now_playing_isSome (w : PlaybackWorker S) : (now_playing w).isSome = w.physical_stream.isSome := by
  unfold now_playing
  rw [Option.isSome_map]

/-- A cue stands by what is known of it alone. -/
theorem CueStands.transfer {admitted' : List (PhysicalTranslationStreamCommand S × Nat)}
    (h : CueStands g b w admitted rest c) (hplayed : of_cue c w'.played = of_cue c w.played)
    (happended : appended_of c w'.appended = appended_of c w.appended)
    (hplaying : ∀ generation ended,
      now_playing w' = some (c, generation, ended) ↔ now_playing w = some (c, generation, ended))
    (hrest : of_cue c rest' = of_cue c rest)
    (hadmitted : admitted_of c admitted' = admitted_of c admitted)
    (hlookup : b'.physical_translation_stream_ledger.active.lookup c =
      b.physical_translation_stream_ledger.active.lookup c)
    (hcompleted : (c, g) ∈ b'.physical_translation_stream_ledger.completed ↔
      (c, g) ∈ b.physical_translation_stream_ledger.completed)
    (hstatus : ⟨some c, .Completed, STREAM_COMPLETED⟩ ∈ b'.statuses →
      ⟨some c, .Completed, STREAM_COMPLETED⟩ ∈ b.statuses) :
    CueStands g b' w' admitted' rest' c := by
  constructor
  case status => exact fun hs => hcompleted.mpr (h.status (hstatus hs))
  all_goals simp only [hplayed, happended, hplaying, hrest, hadmitted, hlookup, hcompleted]
  exacts [h.order, h.appended, h.chunks, h.shaped, h.idle, h.cursor, h.plays, h.stream, h.completed]

theorem SameStreams.status (h : SameStreams b b') :
    ⟨some c, .Completed, STREAM_COMPLETED⟩ ∈ b'.statuses →
      ⟨some c, .Completed, STREAM_COMPLETED⟩ ∈ b.statuses :=
  fun hs => (h.statuses _ hs).resolve_right fun hne => hne rfl

theorem Stands.keep (h : Stands g b w admitted rest) (hb : SameStreams b b') (hw : SameWork w w')
    (hrest : ∀ c, of_cue c rest' = of_cue c rest) : Stands g b' w' admitted rest' where
  generation := hb.generation.trans h.generation
  cancelled := hw.cancelled.trans h.cancelled
  output hs := by
    apply hw.output
    apply h.output
    rw [← now_playing_isSome, ← hw.playing, now_playing_isSome]
    exact hs
  cue c := (h.cue c).transfer (by rw [hw.played]) (by rw [hw.appended]) (by simp [hw.playing]) (hrest c) rfl
    (by rw [hb.ledger]) (by rw [hb.ledger]) hb.status

/-! ## Playing a command -/

theorem start_buffered_same (b : BridgeState) (w : PlaybackWorker S) (e : Outside) :
    SameStreams b (w.start_buffered_physical_stream_if_ready b e).2 ∧
      SameWork w (w.start_buffered_physical_stream_if_ready b e).1 := by
  obtain heq | ⟨_, hstream, heq⟩ := w.start_buffered_cases b e
  · rw [heq]
    exact ⟨.refl b, .refl w⟩
  · rw [heq]
    refine ⟨.emit b _ _ (by decide), rfl, rfl, rfl, ?_, id⟩
    unfold now_playing
    rw [hstream]
    rfl

/-- What the play of a command that is due does. -/
structure Plays (b : BridgeState) (w : PlaybackWorker S)
    (command : PhysicalTranslationStreamCommand S) (c : String) (ended : Bool)
    (r : PlaybackWorker S × BridgeState) : Prop where
  state : SameStreams b r.2
  played : r.1.played = w.played ++ [command]
  appended : r.1.appended = w.appended ++
    if Bridge.carries_audio command.state then [(c, command.job.samples)] else []
  cancelled : r.1.cancelled_physical_streams = w.cancelled_physical_streams
  playing : now_playing r.1 = some (c, command.job.translation_generation, ended)
  output : r.1.output.isSome

variable {ended : Bool}

theorem Plays.start_buffered (h : Plays b w command c ended (w', b')) (e : Outside) :
    Plays b w command c ended (w'.start_buffered_physical_stream_if_ready b' e) := by
  obtain ⟨hb, hw⟩ := start_buffered_same b' w' e
  exact ⟨h.state.trans hb, hw.played.trans h.played, hw.appended.trans h.appended,
    hw.cancelled.trans h.cancelled, hw.playing.trans h.playing, hw.output h.output⟩

/-- A start or a chunk is appended to the stream of its cue. -/
theorem Plays.append (hb : SameStreams b b') (hplayed : w'.played = w.played ++ [command])
    (happended : w'.appended = w.appended)
    (hcancelled : w'.cancelled_physical_streams = w.cancelled_physical_streams)
    (hplaying : now_playing w' = some (c, command.job.translation_generation, ended))
    (houtput : w'.output.isSome) (haudio : Bridge.carries_audio command.state) (e : Outside) :
    Plays b w command c ended (w'.append_stream_audio b' command.job c e) := by
  obtain ⟨_, hstream, hkey⟩ := Option.map_eq_some_iff.mp hplaying
  obtain ⟨output, hout⟩ := Option.isSome_iff_exists.mp houtput
  simp only [Prod.mk.injEq] at hkey
  obtain ⟨hcue, hgen, hended⟩ := hkey
  unfold PlaybackWorker.append_stream_audio
  rw [hstream, hout]
  dsimp only
  rw [if_pos ⟨hcue, hgen⟩]
  apply Plays.start_buffered
  refine ⟨hb, hplayed, ?_, hcancelled, ?_, rfl⟩
  · rw [happended, if_pos haudio]
  · unfold now_playing
    simp [hcue, hgen, hended]

/-- A command is due when a start finds no stream and any other command the stream of its cue. -/
theorem plays_of_due (hcue : command.job.cue_id = some c)
    (hgen : command.job.translation_generation = b.translation_generation)
    (hcancelled : w.cancelled_physical_streams = ∅) (habort : command.state ≠ .Abort)
    (hstart : command.state = .Start → now_playing w = none ∧ ended = false)
    (hgoes : command.state ≠ .Start →
      now_playing w = some (c, command.job.translation_generation, ended) ∧ w.output.isSome)
    (he : e.open_error = none) :
    Plays b w command c (ended || command.state = .End)
      (w.play_physical_translation_stream b command e) := by
  unfold PlaybackWorker.play_physical_translation_stream PlaybackWorker.play_command
  have hnot : c ∉ w.cancelled_physical_streams := by
    rw [hcancelled]
    exact Finset.notMem_empty c
  rw [if_neg (not_not_intro hgen), hcue, Option.getD_some, if_neg hnot]
  cases hstate : command.state with
  | Abort => exact absurd hstate habort
  | Start =>
    obtain ⟨hnone, rfl⟩ := hstart hstate
    have hstream : w.physical_stream = none := Option.map_eq_none_iff.mp hnone
    obtain ⟨output, hout⟩ := w.output_for_opened he command.job.device_id
    have hfor : PlaybackWorker.output_for { w with played := w.played ++ [command] }
        command.job.device_id e = .ok output := hout
    unfold PlaybackWorker.start_physical_stream
    rw [if_neg (by simp [hstream]), hfor]
    apply Plays.append
    · exact .emit b _ _ (by decide)
    · rfl
    · rfl
    · rfl
    · rfl
    · rfl
    · rw [hstate]
      rfl
  | Chunk =>
    obtain ⟨hplaying, houtput⟩ := hgoes (by rw [hstate]; decide)
    rw [show (decide (TranslationStreamState.Chunk = TranslationStreamState.End)) = false from rfl,
      Bool.or_false]
    apply Plays.append
    · exact .refl b
    · rfl
    · rfl
    · rfl
    · exact hplaying
    · exact houtput
    · rw [hstate]
      rfl
  | End =>
    obtain ⟨hplaying, houtput⟩ := hgoes (by rw [hstate]; decide)
    obtain ⟨_, hstream, hkey⟩ := Option.map_eq_some_iff.mp hplaying
    simp only [Prod.mk.injEq] at hkey
    apply Plays.start_buffered
    refine ⟨.refl b, rfl, ?_, rfl, ?_, houtput⟩
    · rw [hstate, if_neg (by decide), List.append_nil]
    · unfold now_playing
      rw [hstream, Option.map_some, Option.map_some, if_pos hkey.1]
      simp [hkey.1, hkey.2.1]

/-- The next command of a cue, after those of it that were played. -/
structure Due (g : Nat) (b : BridgeState) (w : PlaybackWorker S)
    (command : PhysicalTranslationStreamCommand S) (c : String) : Prop where
  start : of_cue c w.played = [] ↔ command.state = .Start
  not_abort : command.state ≠ .Abort
  not_ended : .End ∉ (of_cue c w.played).map (·.state)
  not_completed : (c, g) ∉ b.physical_translation_stream_ledger.completed

theorem CueStands.due (h : CueStands g b w admitted rest c)
    (hrest : of_cue c rest = command :: rest') : Due g b w command c := by
  have horder := h.order
  rw [hrest] at horder
  have hstates : (admitted_of c admitted).map (·.1.state) =
      (of_cue c w.played).map (·.state) ++ command.state :: rest'.map (·.state) := by
    rw [← List.map_cons, ← List.map_append, horder, List.map_map]
    rfl
  obtain ⟨hstart, habort, -⟩ := h.shaped _ _ _ hstates
  refine ⟨?_, habort, ?_, ?_⟩
  · rw [← hstart, List.map_eq_nil_iff]
  · intro hend
    obtain ⟨_, _, hsplit⟩ := List.append_of_mem hend
    rw [hsplit, List.append_assoc, List.cons_append] at hstates
    have hnil := (h.shaped _ _ _ hstates).2.2 rfl
    simp at hnil
  · intro hcompleted
    rw [← h.completed hcompleted] at horder
    simp at horder

theorem other_cue {d : String} (hcue : command.job.cue_id = some c) (hdc : d ≠ c) :
    command.job.cue_id ≠ some d := by
  rw [hcue]
  exact fun heq => hdc (Option.some.inj heq).symm

theorem CueStands.played_other {c d : String} (h : CueStands g b w admitted rest d)
    (hr : Plays b w command c ended r) (hcue : command.job.cue_id = some c) (hdc : d ≠ c)
    (hrest : of_cue d rest = of_cue d (command :: rest'))
    (hdue : ∀ generation ended, now_playing w ≠ some (d, generation, ended)) :
    CueStands g r.2 r.1 admitted rest' d := by
  have hcd := other_cue hcue hdc
  refine h.transfer ?_ ?_ (fun generation ended' => ?_) ?_ rfl (by rw [hr.state.ledger])
    (by rw [hr.state.ledger]) hr.state.status
  · rw [hr.played, of_cue_append, of_cue_cons_ne hcd, of_cue_nil, List.append_nil]
  · rw [hr.appended, appended_of_append]
    split
    · simp [appended_of, Ne.symm hdc]
    · simp [appended_of]
  · simp [hr.playing, hdue, Ne.symm hdc]
  · rw [hrest, of_cue_cons_ne hcd]

theorem CueStands.played_self (h : CueStands g b w admitted rest c)
    (hr : Plays b w command c ended r) (hcue : command.job.cue_id = some c)
    (hgen : command.job.translation_generation = g)
    (hrest : of_cue c rest = command :: of_cue c rest')
    (hended : ended = true ↔ command.state = .End) : CueStands g r.2 r.1 admitted rest' c := by
  have hdue := h.due hrest
  have hplayed : of_cue c r.1.played = of_cue c w.played ++ [command] := by
    rw [hr.played, of_cue_append, of_cue_cons_self hcue, of_cue_nil]
  refine ⟨?_, ?_, h.chunks, h.shaped, ?_, ?_, ?_, ?_, ?_, ?_⟩
  · rw [hplayed, List.append_assoc, List.singleton_append, ← hrest]
    exact h.order
  · rw [hplayed, hr.appended, appended_of_append, payloads_append, h.appended]
    split
    · rename_i haudio
      simp [appended_of, payloads, haudio]
    · rename_i haudio
      simp [appended_of, payloads, haudio]
  · rw [hr.state.ledger]
    exact h.idle
  · rw [hr.state.ledger]
    exact h.cursor
  · intro _ _
    rw [hr.playing, hgen]
    exact ⟨ended, rfl⟩
  · intro generation ended' hplaying
    rw [hr.playing] at hplaying
    cases hplaying
    refine ⟨hgen, ?_, ?_, ?_⟩
    · rw [hplayed]
      simp
    · rw [hr.state.ledger]
      exact hdue.not_completed
    · rw [hended, hplayed, List.map_append, List.mem_append]
      constructor
      · intro he
        exact Or.inr (by simp [he])
      · rintro (hold | hnew)
        · exact absurd hold hdue.not_ended
        · simpa using Eq.symm (List.mem_singleton.mp hnew)
  · rw [hr.state.ledger]
    intro hcompleted
    exact absurd hcompleted hdue.not_completed
  · intro hs
    rw [hr.state.ledger]
    exact h.status (hr.state.status hs)

/-- The first command of a cue among the rest is played, while no other cue plays. -/
theorem Stands.play {p : List (PhysicalTranslationStreamCommand S)} (h : Stands g b w admitted rest)
    (hcue : command.job.cue_id = some c) (hgen : command.job.translation_generation = g)
    (hrest : ∀ d, of_cue d rest = of_cue d (command :: p))
    (halone : ∀ d generation ended, now_playing w = some (d, generation, ended) → d = c)
    (he : e.open_error = none) :
    Stands g (w.play_physical_translation_stream b command e).2
      (w.play_physical_translation_stream b command e).1 admitted p := by
  have hself : of_cue c rest = command :: of_cue c p := by
    rw [hrest c, of_cue_cons_self hcue]
  have hdue := (h.cue c).due hself
  -- the stream of the cue has not ended, because its end is not played yet
  have hplaying : command.state ≠ .Start → now_playing w = some (c, g, false) := by
    intro hstart
    obtain ⟨ended, hp⟩ := (h.cue c).plays (fun hnil => hstart (hdue.start.mp hnil)) hdue.not_completed
    have hended := ((h.cue c).stream _ _ hp).2.2.2
    cases ended with
    | false => exact hp
    | true => exact absurd (hended.mp rfl) hdue.not_ended
  have hnone : command.state = .Start → now_playing w = none := by
    intro hstart
    cases hp : now_playing w with
    | none => rfl
    | some key =>
      obtain ⟨d, generation, ended⟩ := key
      cases halone d generation ended hp
      exact absurd (hdue.start.mpr hstart) ((h.cue c).stream _ _ hp).2.1
  have hr : Plays b w command c (false || command.state = .End)
      (w.play_physical_translation_stream b command e) := by
    refine plays_of_due hcue (hgen.trans h.generation.symm) h.cancelled hdue.not_abort
      (fun hstart => ⟨hnone hstart, rfl⟩) (fun hstart => ?_) he
    refine ⟨by rw [hgen]; exact hplaying hstart, h.output ?_⟩
    rw [← now_playing_isSome, hplaying hstart]
    rfl
  refine ⟨hr.state.generation.trans h.generation, hr.cancelled.trans h.cancelled,
    fun _ => hr.output, ?_⟩
  intro d
  by_cases hdc : d = c
  · rw [hdc]
    exact (h.cue c).played_self hr hcue hgen hself (by simp)
  · apply (h.cue d).played_other hr hcue hdc (hrest d)
    intro generation ended hp
    exact hdc (halone d generation ended hp)

/-! ## Completing a stream -/

/-- A stream ends with its end, so nothing of its cue is left when it completes. -/
theorem CueStands.all_played {generation : Nat} (h : CueStands g b w admitted rest c)
    (hplaying : now_playing w = some (c, generation, true)) :
    of_cue c w.played = (admitted_of c admitted).map (·.1) := by
  have hend := (h.stream _ _ hplaying).2.2.2.mp rfl
  cases hrest : of_cue c rest with
  | nil =>
    have horder := h.order
    rw [hrest, List.append_nil] at horder
    exact horder
  | cons _ _ =>
    exact absurd hend (h.due hrest).not_ended

/-- The stream of the cue is completed: its terminal is claimed, and nothing plays. -/
structure Finishes (g : Nat) (b : BridgeState) (w : PlaybackWorker S) (c : String)
    (r : PlaybackWorker S × BridgeState) : Prop where
  played : r.1.played = w.played
  appended : r.1.appended = w.appended
  cancelled : r.1.cancelled_physical_streams = w.cancelled_physical_streams
  playing : now_playing r.1 = none
  generation : r.2.translation_generation = b.translation_generation
  active : r.2.physical_translation_stream_ledger.active =
    b.physical_translation_stream_ledger.active.erase c
  completed : r.2.physical_translation_stream_ledger.completed =
    insert (c, g) b.physical_translation_stream_ledger.completed
  statuses : ∀ status ∈ r.2.statuses, status ∈ b.statuses ∨ status.cue_id = some c

theorem CueStands.finished_self (h : CueStands g b w admitted rest c) (hr : Finishes g b w c r)
    (hall : of_cue c w.played = (admitted_of c admitted).map (·.1)) :
    CueStands g r.2 r.1 admitted rest c := by
  have hin : (c, g) ∈ r.2.physical_translation_stream_ledger.completed := by
    rw [hr.completed]
    exact Finset.mem_insert_self _ _
  refine ⟨hr.played ▸ h.order, ?_, h.chunks, h.shaped, ?_, ?_, ?_, ?_, ?_, ?_⟩
  · rw [hr.appended, hr.played]
    exact h.appended
  · intro _ hnot
    exact absurd hin hnot
  · intro cursor hl
    rw [hr.active, AList.lookup_erase] at hl
    cases hl
  · intro _ hnot
    exact absurd hin hnot
  · intro generation ended hp
    rw [hr.playing] at hp
    cases hp
  · intro _
    rw [hr.played]
    exact hall
  · intro _
    exact hin

theorem CueStands.finished_other {c d : String} {generation : Nat}
    (h : CueStands g b w admitted rest d) (hr : Finishes g b w c r) (hdc : d ≠ c)
    (hplaying : now_playing w = some (c, generation, ended)) :
    CueStands g r.2 r.1 admitted rest d := by
  refine h.transfer (by rw [hr.played]) (by rw [hr.appended]) (fun _ _ => ?_) rfl rfl ?_ ?_ fun hs => ?_
  · simp [hr.playing, hplaying, Ne.symm hdc]
  · rw [hr.active]
    exact AList.lookup_erase_ne hdc
  · rw [hr.completed]
    simp [hdc]
  · obtain hold | hnew := hr.statuses _ hs
    · exact hold
    · cases hnew
      exact absurd rfl hdc

/-- The ledger still holds a stream that has ended, so its terminal is claimed when it completes. -/
theorem Stands.finishes {stream : ActivePhysicalTranslationStream} (h : Stands g b w admitted rest)
    (hstream : w.physical_stream = some stream) (hended : stream.ended = true)
    (hempty : ¬ (w.output.isSome ∧ ¬ e.player_empty)) :
    now_playing w = some (stream.cue_id, stream.translation_generation, true) ∧
      Finishes g b w stream.cue_id (w.finish_completed_physical_stream b e) := by
  have hplaying : now_playing w = some (stream.cue_id, stream.translation_generation, true) := by
    unfold now_playing
    rw [hstream, ← hended]
    rfl
  have hc := h.cue stream.cue_id
  obtain ⟨hgen, hplayed, hopen, -⟩ := hc.stream _ _ hplaying
  obtain ⟨cursor, hcursor⟩ :
      ∃ cursor, b.physical_translation_stream_ledger.active.lookup stream.cue_id = some cursor := by
    cases hl : b.physical_translation_stream_ledger.active.lookup stream.cue_id with
    | some cursor => exact ⟨cursor, rfl⟩
    | none =>
      have hall := hc.all_played hplaying
      rw [hc.idle hl hopen] at hall
      exact absurd hall hplayed
  have hclaimed : (b.physical_translation_stream_ledger.active.lookup stream.cue_id).any
      (·.translation_generation = stream.translation_generation) = true := by
    rw [hcursor, hgen]
    simpa using (hc.cursor cursor hcursor).1
  refine ⟨hplaying, ?_⟩
  unfold PlaybackWorker.finish_completed_physical_stream
  rw [hstream]
  dsimp only
  rw [if_neg (not_or.mpr ⟨not_not.mpr hended, hempty⟩)]
  unfold BridgeState.claim_terminal_status PhysicalTranslationStreamLedger.claim_terminal
  rw [if_pos hclaimed, hgen]
  refine ⟨rfl, rfl, rfl, rfl, rfl, rfl, rfl, fun _ hin => ?_⟩
  obtain hold | hnew := List.mem_append.mp hin
  · exact Or.inl hold
  · rw [List.mem_singleton.mp hnew]
    exact Or.inr rfl

theorem Stands.finish_stream (h : Stands g b w admitted rest) (e : Outside) :
    Stands g (w.finish_completed_physical_stream b e).2
      (w.finish_completed_physical_stream b e).1 admitted rest := by
  cases hstream : w.physical_stream with
  | none =>
    have hsame : w.finish_completed_physical_stream b e = (w, b) := by
      simp [PlaybackWorker.finish_completed_physical_stream, hstream]
    rw [hsame]
    exact h
  | some stream =>
    by_cases hwaits : ¬ stream.ended ∨ (w.output.isSome ∧ ¬ e.player_empty)
    · have hsame : w.finish_completed_physical_stream b e = (w, b) := by
        unfold PlaybackWorker.finish_completed_physical_stream
        rw [hstream]
        exact if_pos hwaits
      rw [hsame]
      exact h
    · obtain ⟨hended, hempty⟩ := not_or.mp hwaits
      obtain ⟨hplaying, hr⟩ := h.finishes hstream (not_not.mp hended) hempty
      refine ⟨hr.generation.trans h.generation, hr.cancelled.trans h.cancelled, ?_, fun d => ?_⟩
      · intro hs
        rw [← now_playing_isSome, hr.playing] at hs
        cases hs
      by_cases hdc : d = stream.cue_id
      · rw [hdc]
        exact (h.cue stream.cue_id).finished_self hr ((h.cue _).all_played hplaying)
      · exact (h.cue d).finished_other hr hdc hplaying

/-! ## Admitting a frame -/

theorem CueStands.admit_self {chunk_index : Nat} {next : PhysicalTranslationStreamLedger}
    {sequence : Nat} (h : CueStands g b w admitted rest c) (hcue : command.job.cue_id = some c)
    (hentry : b.physical_translation_stream_ledger.admit_frame c chunk_index command.state g =
      some (next, admission)) (hnew : admission ≠ .Duplicate) (habort : command.state ≠ .Abort) :
    CueStands g { b with
        physical_translation_stream_ledger := next
        translation_arrival_sequence := sequence } w
      (admitted ++ [(command, chunk_index)]) (rest ++ [command]) c := by
  obtain ⟨hopen, hcompleted, hcases⟩ := admit_frame_cases hentry hnew habort
  have hadmitted : admitted_of c (admitted ++ [(command, chunk_index)]) =
      admitted_of c admitted ++ [(command, chunk_index)] := by
    simp [admitted_of, hcue]
  -- what the frame finds: its index and its place in the shape of the stream
  have hfinds : (admitted_of c admitted = [] ↔ command.state = .Start) ∧
      .End ∉ (admitted_of c admitted).map (·.1.state) ∧
      chunk_index = min (admitted_of c admitted).length MAX_CHUNK_INDEX := by
    obtain ⟨hstart, hl, hzero, -⟩ | ⟨cursor, hl, -, hended, hindex, hstate⟩ := hcases
    · have hnil := h.idle hl hopen
      rw [hnil]
      simp [hstart, hzero]
    · obtain ⟨-, hne, hnext⟩ := h.cursor cursor hl
      obtain ⟨hend, hlength⟩ := hnext hended
      refine ⟨?_, hend, hindex.trans hlength⟩
      obtain ⟨hs, -⟩ | ⟨hs, -⟩ := hstate
      · simp [hne, hs]
      · simp [hne, hs]
  obtain ⟨hstart, hend, hindex⟩ := hfinds
  refine ⟨?_, h.appended, ?_, ?_, ?_, ?_, ?_, ?_, ?_, ?_⟩
  · rw [hadmitted, of_cue_append, of_cue_cons_self hcue, of_cue_nil, ← List.append_assoc, h.order]
    simp
  · rw [hadmitted]
    simp [List.range_succ, h.chunks, hindex]
  · rw [hadmitted, List.map_append]
    apply h.shaped.snoc _ habort hend
    rw [List.map_eq_nil_iff]
    exact hstart
  · intro hl
    obtain ⟨-, -, -, hactive⟩ | ⟨cursor, -, -, -, -, ⟨-, hactive⟩ | ⟨-, hactive⟩⟩ := hcases
    all_goals
      rw [hactive] at hl
      simp at hl
  · intro cursor' hl
    rw [hadmitted]
    obtain ⟨hs, hnone, -, hactive⟩ | ⟨cursor, hold, hgen, hended, -, ⟨hs, hactive⟩ | ⟨hs, hactive⟩⟩ :=
      hcases
    · have hnil := h.idle hnone hopen
      rw [hactive, AList.lookup_insert] at hl
      cases hl
      rw [hnil]
      simp [hs, MAX_CHUNK_INDEX]
    · have hlength := ((h.cursor cursor hold).2.2 hended).2
      rw [hactive, AList.lookup_insert] at hl
      cases hl
      refine ⟨hgen, by simp, fun _ => ⟨?_, ?_⟩⟩
      · rw [List.map_append, List.mem_append]
        rintro (hin | hin)
        · exact hend hin
        · simp [hs] at hin
      · dsimp only
        rw [hlength, List.length_append, List.length_singleton]
        omega
    · rw [hactive, AList.lookup_insert] at hl
      cases hl
      refine ⟨hgen, by simp, fun hfalse => ?_⟩
      cases hfalse
  · rw [hcompleted]
    exact h.plays
  · rw [hcompleted]
    exact h.stream
  · rw [hcompleted]
    intro hin
    exact absurd hin hopen
  · rw [hcompleted]
    exact h.status

theorem CueStands.admit_other {c d : String} {chunk_index : Nat}
    {next : PhysicalTranslationStreamLedger} {sequence : Nat} (h : CueStands g b w admitted rest d)
    (hcue : command.job.cue_id = some c) (hdc : d ≠ c)
    (hentry : b.physical_translation_stream_ledger.admit_frame c chunk_index command.state g =
      some (next, admission)) (hnew : admission ≠ .Duplicate) (habort : command.state ≠ .Abort) :
    CueStands g { b with
        physical_translation_stream_ledger := next
        translation_arrival_sequence := sequence } w
      (admitted ++ [(command, chunk_index)]) (rest ++ [command]) d := by
  obtain ⟨-, hcompleted, hcases⟩ := admit_frame_cases hentry hnew habort
  have hcd := other_cue hcue hdc
  refine h.transfer rfl rfl (fun _ _ => Iff.rfl) ?_ ?_ ?_ (by rw [hcompleted]) id
  · rw [of_cue_append, of_cue_cons_ne hcd, of_cue_nil, List.append_nil]
  · simp [admitted_of, hcd]
  · obtain ⟨-, -, -, hactive⟩ | ⟨cursor, -, -, -, -, ⟨-, hactive⟩ | ⟨-, hactive⟩⟩ := hcases
    all_goals
      rw [hactive]
      exact AList.lookup_insert_ne hdc

end

/-! ## The Bridge -/

/-- Every cue stands, no control command waits, and when the worker receives a command it has taken
all of the cue that plays from the buffer. -/
structure Steady (g : Nat) (s : Bridge S) : Prop where
  stands : Stands g s.state s.worker s.admitted
    (s.worker.pending_physical_streams ++ stream_commands s.commands)
  made : ∀ command ∈ s.worker.pending_physical_streams ++ stream_commands s.commands,
    command.job.translation_generation = g ∧ ∃ c, command.job.cue_id = some c
  controls : s.controls = []
  taken : s.worker.place = .receive → ∀ c generation ended,
    now_playing s.worker = some (c, generation, ended) →
      of_cue c s.worker.pending_physical_streams = []

/-- A change that no stream notices. -/
structure Unmoved (s t : Bridge S) : Prop where
  state : SameStreams s.state t.state
  work : SameWork s.worker t.worker
  pending : t.worker.pending_physical_streams = s.worker.pending_physical_streams
  commands : stream_commands t.commands = stream_commands s.commands
  controls : t.controls = s.controls
  admitted : t.admitted = s.admitted
  place : t.worker.place = .receive → s.worker.place = .receive

theorem steady_new (device_id : String) : Steady 0 (Bridge.new device_id : Bridge S) where
  stands := by
    refine ⟨rfl, rfl, fun hs => (by cases hs), fun _ => ⟨rfl, rfl, rfl, .nil, fun _ _ => rfl, ?_,
      fun hne => absurd rfl hne, ?_, fun hin => absurd hin (Finset.notMem_empty _), ?_⟩⟩
    · intro cursor hl
      cases hl
    · intro generation ended hp
      cases hp
    · intro hs
      cases hs
  made _ hc := by cases hc
  controls := rfl
  taken hp := by cases hp

variable {g : Nat} {s t : Bridge S}

theorem Steady.keep (h : Steady g s) (hu : Unmoved s t) : Steady g t where
  stands := by
    rw [hu.pending, hu.commands, hu.admitted]
    exact h.stands.keep hu.state hu.work fun _ => rfl
  made := by
    rw [hu.pending, hu.commands]
    exact h.made
  controls := hu.controls.trans h.controls
  taken hp := by
    rw [hu.pending, hu.work.playing]
    exact h.taken (hu.place hp)

theorem Unmoved.set_state (s : Bridge S) {state : BridgeState} (h : SameStreams s.state state) :
    Unmoved s { s with state } :=
  ⟨h, .refl _, rfl, rfl, rfl, rfl, id⟩

theorem Unmoved.trans {r : Bridge S} (h : Unmoved r s) (h' : Unmoved s t) : Unmoved r t where
  state := h.state.trans h'.state
  work := ⟨h'.work.played.trans h.work.played, h'.work.appended.trans h.work.appended,
    h'.work.cancelled.trans h.work.cancelled, h'.work.playing.trans h.work.playing,
    fun hs => h'.work.output (h.work.output hs)⟩
  pending := h'.pending.trans h.pending
  commands := h'.commands.trans h.commands
  controls := h'.controls.trans h.controls
  admitted := h'.admitted.trans h.admitted
  place hp := h.place (h'.place hp)

theorem Unmoved.goto (s : Bridge S) {place : Place} (hp : place ≠ .receive) :
    Unmoved s (s.goto place) :=
  ⟨.refl _, ⟨rfl, rfl, rfl, rfl, id⟩, rfl, rfl, rfl, rfl, fun hplace => absurd hplace hp⟩

theorem Unmoved.try_send (s : Bridge S) {c : PlaybackCommand S} (hc : stream_command c = none) :
    Unmoved s ((s.try_send c).getD s) := by
  unfold Bridge.try_send
  split
  · refine ⟨.refl _, .refl _, rfl, ?_, rfl, rfl, id⟩
    simp [stream_commands, hc]
  · exact ⟨.refl _, .refl _, rfl, rfl, rfl, rfl, id⟩

theorem SameStreams.drop_jobs (s : Bridge S) (jobs : List (PlaybackJob S))
    (status : bridge_playback_ack.TranslationPlaybackStatusKind) {r : String}
    (hr : r ≠ STREAM_COMPLETED) : SameStreams s.state (s.drop_jobs jobs status r).state := by
  rw [Bridge.drop_jobs_eq]
  refine ⟨rfl, rfl, fun _ hs => ?_⟩
  obtain hold | hnew := List.mem_append.mp hs
  · exact Or.inl hold
  · obtain ⟨_, -, rfl⟩ := List.mem_map.mp hnew
    exact Or.inr hr

/-! ## The handlers -/

theorem non_playback_reason_ne {enabled audio empty : Bool} {reason : String}
    (h : Bridge.translation_non_playback_reason enabled audio empty = some reason) :
    reason ≠ STREAM_COMPLETED := by
  unfold Bridge.translation_non_playback_reason at h
  split at h
  · cases h
    decide
  split at h
  · cases h
    decide
  split at h
  · cases h
    decide
  · cases h

theorem Unmoved.complete_frame (s : Bridge S) (frame : TranslationFrame S) (now_ms : Nat) :
    Unmoved s (s.handle_complete_frame frame now_ms) := by
  unfold Bridge.handle_complete_frame
  split
  · rename_i _ hreason
    exact .set_state s (.emit _ _ _ (non_playback_reason_ne hreason))
  dsimp only
  have hqueued : Unmoved s { s.next_arrival with
      translation_queue :=
        (s.next_arrival.translation_queue.enqueue (s.job_of frame now_ms) now_ms).1 } :=
    ⟨⟨rfl, rfl, fun _ hs => Or.inl hs⟩, .refl _, rfl, rfl, rfl, rfl, id⟩
  have hdropped := hqueued.trans (.set_state _ (.drop_jobs _
    (s.next_arrival.translation_queue.enqueue (s.job_of frame now_ms) now_ms).2.1 .StaleDropped
    (r := "realtime-budget") (by decide)))
  split
  · exact hdropped.trans (.set_state _ (.emit _ _ _ (by decide)))
  · have hsent := hdropped.trans (.try_send _ (c := .TranslationQueued) rfl)
    exact hsent.trans (.set_state _ (.emit _ _ _ (by decide)))

theorem Steady.admit_stream_frame (h : Steady g s) (frame : TranslationFrame S)
    (hcue : frame.cue_id = some cue_id) (chunk_index : Nat) {stream_state : TranslationStreamState}
    (habort : stream_state ≠ .Abort) (now_ms : Nat) :
    Steady g (s.admit_stream_frame frame cue_id chunk_index stream_state now_ms) := by
  unfold Bridge.admit_stream_frame
  split
  · exact h
  · exact h
  rename_i _ _ hnew hentry
  rw [if_neg habort]
  dsimp only
  have harrival : Unmoved s s.next_arrival :=
    .set_state s ⟨rfl, rfl, fun _ hs => Or.inl hs⟩
  cases hsend : s.next_arrival.try_send
      (.TranslationStream ⟨s.job_of frame now_ms, stream_state⟩) with
  | none => exact h.keep harrival
  | some _ =>
    unfold Bridge.try_send at hsend
    split at hsend
    · cases hsend
      have hgen : s.state.translation_generation = g := h.stands.generation
      rw [hgen] at hentry
      have hrest : s.worker.pending_physical_streams ++ stream_commands (s.commands ++
            [.TranslationStream ⟨s.job_of frame now_ms, stream_state⟩]) =
          (s.worker.pending_physical_streams ++ stream_commands s.commands) ++
            [⟨s.job_of frame now_ms, stream_state⟩] := by
        rw [stream_commands_append, List.append_assoc]
        rfl
      refine ⟨⟨h.stands.generation, h.stands.cancelled, h.stands.output, ?_⟩, ?_, h.controls, h.taken⟩
      · intro d
        dsimp only [Bridge.next_arrival]
        rw [hrest]
        by_cases hdc : d = cue_id
        · rw [hdc]
          exact (h.stands.cue cue_id).admit_self hcue hentry hnew habort
        · exact (h.stands.cue d).admit_other hcue hdc hentry hnew habort
      · dsimp only [Bridge.next_arrival]
        rw [hrest]
        intro command hc
        obtain hold | hlast := List.mem_append.mp hc
        · exact h.made command hold
        · rw [List.mem_singleton.mp hlast]
          exact ⟨hgen, cue_id, hcue⟩
    · cases hsend

theorem Steady.translation_frame (h : Steady g s) (frame : TranslationFrame S)
    (habort : frame.stream_state ≠ some .Abort) (now_ms : Nat) :
    Steady g (s.handle_physical_translation_frame frame now_ms) := by
  unfold Bridge.handle_physical_translation_frame
  split
  · exact h
  split
  · rename_i stream_state hstate
    unfold Bridge.handle_physical_translation_stream_frame
    split
    · rename_i _ chunk_index hcue _
      split
      · exact h
      split
      · exact h
      split
      · exact h
      split
      · exact h
      · apply h.admit_stream_frame frame hcue chunk_index
        intro heq
        exact habort (by rw [hstate, heq])
    · exact h
  · exact h.keep (.complete_frame s frame now_ms)

/-! ## The worker -/

variable {pending : List (PhysicalTranslationStreamCommand S)}

/-- The first command of a cue is taken out of the buffer, before the other commands of its cue. -/
theorem of_cue_find {a : String} (h : pending.find? (·.job.cue_id = some a) = some command)
    (d : String) :
    of_cue d pending =
      of_cue d (command :: pending.eraseP (·.job.cue_id = some a)) := by
  have hcommand : command.job.cue_id = some a := by simpa using List.find?_some h
  induction pending with
  | nil => cases h
  | cons first pending ih =>
    by_cases hfirst : first.job.cue_id = some a
    · rw [List.find?_cons_of_pos (by simpa using hfirst)] at h
      cases h
      rw [List.eraseP_cons_of_pos (by simpa using hfirst)]
    · rw [List.find?_cons_of_neg (by simpa using hfirst)] at h
      have ih := ih h
      rw [List.eraseP_cons_of_neg (by simpa using hfirst)]
      by_cases hda : d = a
      · subst hda
        rw [of_cue_cons_ne hfirst, ih, of_cue_cons_self hcommand, of_cue_cons_self hcommand,
          of_cue_cons_ne hfirst]
      · have hne := other_cue hcommand hda
        rw [of_cue_cons_ne hne] at ih ⊢
        unfold of_cue at *
        rw [List.filter_cons, List.filter_cons, ih]

theorem take_ready_some {active_cue_id : Option String}
    {pending rest : List (PhysicalTranslationStreamCommand S)} {complete_playback_active : Bool}
    {sequence : Option Nat}
    (h : PlaybackWorker.take_ready_physical_stream_command active_cue_id pending
      complete_playback_active sequence = some (command, rest)) :
    (∀ d, of_cue d pending = of_cue d (command :: rest)) ∧ command ∈ pending ∧ rest ⊆ pending ∧
      ∀ a, active_cue_id = some a → command.job.cue_id = some a := by
  unfold PlaybackWorker.take_ready_physical_stream_command at h
  split at h
  · split at h
    · cases h
    · rename_i _ hfound
      cases h
      refine ⟨of_cue_find hfound, List.mem_of_find?_eq_some hfound, List.eraseP_subset, ?_⟩
      intro a' ha
      cases ha
      simpa using List.find?_some hfound
  · split at h
    · cases h
    · split at h
      · cases h
        refine ⟨fun _ => rfl, List.mem_cons_self, List.subset_cons_self _ _, ?_⟩
        intro a ha
        cases ha
      · cases h

theorem take_ready_none {a : String} {complete_playback_active : Bool} {sequence : Option Nat}
    (h : PlaybackWorker.take_ready_physical_stream_command (some a) pending
      complete_playback_active sequence = none) : of_cue a pending = [] := by
  unfold PlaybackWorker.take_ready_physical_stream_command at h
  dsimp only at h
  split at h
  · rename_i hnone
    apply List.filter_eq_nil_iff.mpr
    simpa using hnone
  · cases h

theorem active_cue_id_eq (s : Bridge S) :
    s.active_cue_id = (now_playing s.worker).map (·.1) := by
  unfold Bridge.active_cue_id now_playing
  rw [Option.map_map]
  rfl

variable {commands : List (PlaybackCommand S)}

/-- The worker goes on after it has played a command. -/
theorem Steady.go_on {place : Place} (h : Steady g s)
    (hstands : Stands g r.2 r.1 s.admitted (pending ++ stream_commands commands))
    (hpending : r.1.pending_physical_streams = pending)
    (hmade : pending ++ stream_commands commands ⊆
      s.worker.pending_physical_streams ++ stream_commands s.commands) (hplace : place ≠ .receive) :
    Steady g ((Bridge.with_worker { s with commands } r).goto place) := by
  subst hpending
  refine ⟨hstands.keep (.refl _) ⟨rfl, rfl, rfl, rfl, id⟩ fun _ => rfl, ?_, h.controls,
    fun hp => absurd hp hplace⟩
  intro command hc
  exact h.made command (hmade hc)

theorem Steady.take_ready (h : Steady g s) (he : e.open_error = none) :
    Steady g (s.take_ready e) := by
  unfold Bridge.take_ready
  split
  · rename_i command pending htake
    obtain ⟨hfirst, hmem, hsub, hactive⟩ := take_ready_some htake
    obtain ⟨hgen, c, hcue⟩ := h.made command (List.mem_append_left _ hmem)
    have hwork : SameWork s.worker { s.worker with pending_physical_streams := pending } :=
      ⟨rfl, rfl, rfl, rfl, id⟩
    have hstands := (h.stands.keep (.refl _) hwork fun _ => rfl).play
      (p := pending ++ stream_commands s.commands) hcue hgen ?_ ?_ he
    · apply h.go_on hstands (PlaybackWorker.play_pending _ _ _ _) _ (by decide)
      exact List.append_subset.mpr ⟨List.subset_append_of_subset_left _ hsub,
        List.subset_append_right _ _⟩
    · intro d
      rw [of_cue_append, hfirst d, ← of_cue_append]
      rfl
    · intro d generation ended hp
      have ha : s.active_cue_id = some d := by
        rw [active_cue_id_eq]
        exact congrArg (Option.map (·.1)) hp
      rw [hactive d ha] at hcue
      exact Option.some.inj hcue
  · rename_i hnone
    refine ⟨h.stands.keep (.refl _) ⟨rfl, rfl, rfl, rfl, id⟩ fun _ => rfl, h.made, h.controls, ?_⟩
    intro _ c generation ended hp
    have ha : s.active_cue_id = some c := by
      rw [active_cue_id_eq]
      exact congrArg (Option.map (·.1)) hp
    rw [ha] at hnone
    exact take_ready_none hnone

/-- A command that may be played at once finds nothing of its cue in the buffer. -/
theorem nothing_before (h : Steady g s) (hturn : overtakes s = false)
    (hplace : s.worker.place = .receive)
    (hcommands : s.commands = .TranslationStream command :: commands)
    (hcue : command.job.cue_id = some c)
    (hready : PlaybackWorker.pending_physical_stream_command_is_ready s.active_cue_id
      (some command) s.complete_playback_active s.pending_complete_sequence = true) :
    of_cue c s.worker.pending_physical_streams = [] ∧
      ∀ d generation ended, now_playing s.worker = some (d, generation, ended) → d = c := by
  rw [active_cue_id_eq] at hready
  cases hp : now_playing s.worker with
  | some key =>
    obtain ⟨d, generation, ended⟩ := key
    rw [hp] at hready
    have hdc : d = c := by
      simpa [PlaybackWorker.pending_physical_stream_command_is_ready, hcue] using hready
    subst hdc
    refine ⟨h.taken hplace d generation ended hp, ?_⟩
    intro d' generation' ended' heq
    cases heq
    rfl
  | none =>
    rw [hp] at hready
    refine ⟨?_, fun _ _ _ heq => by cases heq⟩
    have hstream : s.worker.physical_stream = none := Option.map_eq_none_iff.mp hp
    unfold overtakes at hturn
    rw [hplace, hstream, hcommands] at hturn
    have hready : PlaybackWorker.pending_physical_stream_command_is_ready none
        (some command) s.complete_playback_active s.pending_complete_sequence = true := hready
    simp only [hready, true_and, decide_eq_false_iff_not, hcue, List.any_eq_true,
      decide_eq_true_eq, not_exists, not_and] at hturn
    apply List.filter_eq_nil_iff.mpr
    intro command' hc
    simpa using hturn command' hc

theorem Steady.receive_stream (h : Steady g s) (hturn : overtakes s = false)
    (he : e.open_error = none) (hplace : s.worker.place = .receive)
    (hcommands : s.commands = .TranslationStream command :: commands) :
    Steady g ((Bridge.receive_stream_command { s with commands } command e).goto
      .control_again) := by
  have hchannel : stream_commands s.commands = command :: stream_commands commands := by
    rw [hcommands]
    rfl
  obtain ⟨hgen, c, hcue⟩ := h.made command (by rw [hchannel]; simp)
  unfold Bridge.receive_stream_command
  split
  · have hrest : (s.worker.pending_physical_streams ++ [command]) ++ stream_commands commands =
        s.worker.pending_physical_streams ++ stream_commands s.commands := by
      rw [hchannel, List.append_assoc]
      rfl
    have hwork : SameWork s.worker { s.worker with
        pending_physical_streams := s.worker.pending_physical_streams ++ [command] } :=
      ⟨rfl, rfl, rfl, rfl, id⟩
    have hstands := h.stands.keep (.refl _) hwork fun d => congrArg (of_cue d) hrest
    apply h.go_on (r := ({ s.worker with
      pending_physical_streams := s.worker.pending_physical_streams ++ [command] }, s.state))
      hstands rfl _ (by decide)
    rw [hrest]
    exact List.Subset.refl _
  · rename_i hready
    obtain ⟨hnil, halone⟩ := nothing_before h hturn hplace hcommands hcue
      (Decidable.not_not.mp hready)
    have hstands := h.stands.play
      (p := s.worker.pending_physical_streams ++ stream_commands commands) hcue hgen ?_ halone he
    · apply h.go_on hstands (PlaybackWorker.play_pending _ _ _ _) _ (by decide)
      rw [hchannel]
      exact List.append_subset.mpr ⟨List.subset_append_left _ _,
        List.subset_append_of_subset_right _ (List.subset_cons_self _ _)⟩
    · intro d
      rw [hchannel, of_cue_append]
      by_cases hdc : d = c
      · subst hdc
        rw [hnil, of_cue_cons_self hcue, of_cue_cons_self hcue, of_cue_append, hnil]
        rfl
      · have hne := other_cue hcue hdc
        rw [of_cue_cons_ne hne, of_cue_cons_ne hne, of_cue_append]

theorem Steady.receive (h : Steady g s) (hturn : overtakes s = false) (he : e.open_error = none)
    (hplace : s.worker.place = .receive) : Steady g ((s.receive e).goto .control_again) := by
  unfold Bridge.receive
  split
  · exact h.keep (.goto s (by decide))
  · rename_i command commands hcommands
    have hrest : stream_command command = none → Unmoved s { s with commands } := by
      intro hnone
      refine ⟨.refl _, .refl _, rfl, ?_, rfl, rfl, id⟩
      rw [hcommands]
      unfold stream_commands
      rw [List.filterMap_cons_none hnone]
    cases command with
    | Play device_id =>
      have hopened : SameWork s.worker { s.worker with
          output := (s.worker.output_for device_id e).toOption.or s.worker.output } := by
        refine ⟨rfl, rfl, rfl, rfl, fun hs => ?_⟩
        simp [Option.isSome_or, hs]
      have hplayed := (hrest rfl).trans (t := Bridge.play_source_job { s with commands } device_id e)
        ⟨.refl _, hopened, rfl, rfl, rfl, rfl, id⟩
      exact h.keep (hplayed.trans (.goto _ (by decide)))
    | TranslationQueued => exact h.keep ((hrest rfl).trans (.goto _ (by decide)))
    | TranslationStream command => exact h.receive_stream hturn he hplace hcommands
    | FlushSource => exact h.keep ((hrest rfl).trans (.goto _ (by decide)))

theorem Unmoved.finish_translation (s : Bridge S) (e : Outside) :
    Unmoved s (s.finish_completed_translation e) := by
  unfold Bridge.finish_completed_translation
  split
  · exact .set_state s (.refl _)
  split
  · exact .set_state s (.refl _)
  · exact ⟨.emit _ _ _ (by decide), .refl _, rfl, rfl, rfl, rfl, id⟩

theorem Unmoved.start_next_translation (s : Bridge S) (e : Outside) (he : e.open_error = none) :
    Unmoved s (s.start_next_translation e) := by
  have hdropped : Unmoved s (Bridge.drop_jobs
      { s with translation_queue := (s.translation_queue.start_next e.now_ms).1 }
      (s.translation_queue.start_next e.now_ms).2.2 .StaleDropped
      "realtime-budget-before-start") :=
    ⟨.drop_jobs { s with translation_queue := (s.translation_queue.start_next e.now_ms).1 } _ _
      (by decide), .refl _, rfl, rfl, rfl, rfl, id⟩
  unfold Bridge.start_next_translation
  dsimp only
  split
  · exact hdropped
  split
  · rename_i job _ _ error hfor
    obtain ⟨_, hout⟩ := s.worker.output_for_opened he job.device_id
    have herror : s.worker.output_for job.device_id e = .error error := hfor
    rw [hout] at herror
    cases herror
  · exact hdropped.trans ⟨.emit _ _ _ (by decide), ⟨rfl, rfl, rfl, rfl, fun _ => rfl⟩, rfl, rfl, rfl,
      rfl, id⟩

/-- Every step without a disturbance at which no command is overtaken keeps all cues steady. -/
theorem Steady.step {op : Op S} (h : Steady g s) (hquiet : undisturbed op) (hturn : in_turn s op) :
    Steady g (step s op) := by
  cases op with
  | translation_frame frame now_ms => exact h.translation_frame frame hquiet now_ms
  | source_frame | flush_source => exact h.keep (.try_send s rfl)
  | request_playback_stop | bridge_shutdown | bridge_init | rebind => exact hquiet.elim
  | work e =>
    have hcontrol : ∀ next, next ≠ .receive →
        Steady g (s.apply_playback_control_commands e next) := by
      intro next hnext
      unfold Bridge.apply_playback_control_commands
      rw [h.controls]
      exact h.keep (.goto s hnext)
    unfold playback.step Bridge.run_playback_worker
    dsimp only
    split
    · exact hcontrol _ (by decide)
    · obtain ⟨hb, hw⟩ := start_buffered_same s.state s.worker e
      have hstarted : Unmoved s (s.with_worker
          (s.worker.start_buffered_physical_stream_if_ready s.state e)) :=
        ⟨hb, hw, (PlaybackWorker.start_buffered_serves _ _ _).pending, rfl, rfl, rfl,
          fun hp => (PlaybackWorker.start_buffered_place _ _ _).symm.trans hp⟩
      exact h.keep (hstarted.trans (.goto _ (by decide)))
    · exact h.go_on (h.stands.finish_stream e) (PlaybackWorker.finish_stream_pending _ _ _)
        (List.Subset.refl _) (by decide)
    · exact h.keep ((Unmoved.finish_translation s e).trans (.goto _ (by decide)))
    · exact h.take_ready hquiet
    · rename_i hplace
      exact h.receive hturn hquiet hplace
    · exact hcontrol _ (by decide)
    · unfold Bridge.check_complete
      split
      · exact h.keep (.goto s (by decide))
      · exact h.keep (.goto s (by decide))
    · exact h.keep ((Unmoved.start_next_translation s e hquiet).trans (.goto _ (by decide)))

/-! ## Streams are played in order -/

theorem Steady.in_order (h : Steady g s) (cue_id : String) : InOrder s cue_id := by
  have hc := h.stands.cue cue_id
  refine ⟨?_, hc.appended, hc.chunks, ?_⟩
  · rw [← of_cue_append]
    exact hc.order
  · intro hs
    rw [hc.appended, hc.completed (hc.status hs)]

/-- In every run without a stop, a rebind, an abort or a device that does not open, of which no
step lets a command overtake its cue, all cues are in order. -/
theorem streams_are_played_in_order (device_id : String) (ops : List (Op S))
    (hquiet : ∀ op ∈ ops, undisturbed op)
    (hturn : Along step in_turn (Bridge.new device_id) ops) (cue_id : String) :
    InOrder (run step (Bridge.new device_id) ops) cue_id := by
  have hsteady : Steady 0 (run step (Bridge.new device_id) ops) :=
    (hturn.and_forall hquiet).keeps (Steady 0) (fun _ _ h hok => h.step hok.1 hok.2)
      (steady_new device_id)
  exact hsteady.in_order cue_id

instance : (op : Op S) → Decidable (undisturbed op)
  | .translation_frame _ _ => inferInstanceAs (Decidable (_ ≠ _))
  | .source_frame => isTrue trivial
  | .flush_source => isTrue trivial
  | .work _ => inferInstanceAs (Decidable (_ = _))
  | .request_playback_stop _ _ => isFalse id
  | .bridge_shutdown => isFalse id
  | .bridge_init _ _ _ => isFalse id
  | .rebind _ => isFalse id

instance (s : Bridge S) : (op : Op S) → Decidable (in_turn s op)
  | .work _ => inferInstanceAs (Decidable (_ = _))
  | .translation_frame _ _ => isTrue trivial
  | .source_frame => isTrue trivial
  | .flush_source => isTrue trivial
  | .request_playback_stop _ _ => isTrue trivial
  | .bridge_shutdown => isTrue trivial
  | .bridge_init _ _ _ => isTrue trivial
  | .rebind _ => isTrue trivial

/-- Steps of the worker, with what the player says and the clock. -/
def steps (n : Nat) (player_empty : Bool) (now_ms : Nat) : List (Op Nat) :=
  List.replicate n (.work ⟨player_empty, none, 0, now_ms⟩)

def a_complete_frame (cue_id : String) (created_at_ms now_ms : Nat) : Op Nat :=
  .translation_frame ⟨some cue_id, [0, 0], some created_at_ms, none, none, true, true, true⟩ now_ms

def a_stream_frame (state : TranslationStreamState) (chunk_index : Nat) (samples : List Nat) :
    Op Nat :=
  .translation_frame ⟨some "stream", samples, none, some state, some chunk_index, true, true, true⟩
    5000

/-- A stream starts behind the complete cue "second", which a later complete cue drives out of the
queue between the two readings of the worker. -/
def a_chunk_before_its_start : List (Op Nat) :=
  steps 5 true 5000 ++ [a_complete_frame "first" 5000 5000] ++ steps 4 true 5000 ++
    [a_complete_frame "second" 1 5000, a_stream_frame .Start 0 [1], a_stream_frame .Chunk 1 [2]] ++
    steps 16 false 5000 ++ steps 5 true 5002 ++ [a_complete_frame "third" 5002 5002] ++
    steps 1 true 5002

theorem a_chunk_overtakes_its_start :
    (∀ op ∈ a_chunk_before_its_start, undisturbed op) ∧
      ¬ InOrder (run step (Bridge.new "speakers") a_chunk_before_its_start) "stream" := by
  refine ⟨by decide +kernel, fun h => ?_⟩
  have hsequences := congrArg (List.map (·.job.translation_arrival_sequence)) h.order
  revert hsequences
  decide +kernel

/-- A stream from its start to its completion. -/
def a_whole_stream : List (Op Nat) :=
  steps 5 true 5000 ++ [a_stream_frame .Start 0 [1], a_stream_frame .Chunk 1 [2],
    a_stream_frame .End 2 []] ++ steps 22 true 5000

theorem a_whole_stream_is_played :
    InOrder (run step (Bridge.new "speakers") a_whole_stream) "stream" ∧
      appended_of "stream" (run step (Bridge.new "speakers") a_whole_stream).worker.appended =
        [[1], [2]] ∧
      ⟨some "stream", .Completed, STREAM_COMPLETED⟩ ∈
        (run step (Bridge.new "speakers") a_whole_stream).state.statuses :=
  ⟨streams_are_played_in_order "speakers" a_whole_stream (by decide +kernel) (by decide +kernel)
    "stream", by decide +kernel, by decide +kernel⟩

end omni_translate.playback
