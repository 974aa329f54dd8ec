-- The ledger of physical streams on its own (`PhysicalTranslationStreamLedger`): whatever frames and
-- claims come, in whatever order and however often, each stream is admitted once and in its order.
import OmniTranslate.StreamOrder

namespace omni_translate.playback

open runs

variable {S : Type}

/-! ## The ledger as the Bridge uses it -/

/-- A frame that was installed. -/
structure InstalledFrame where
  cue_id : String
  translation_generation : Nat
  state : TranslationStreamState
  chunk_index : Nat
deriving DecidableEq

/-- The ledger, and what happened since it was reset: the frames that were installed and the terminals
that were claimed. -/
structure LedgerLife where
  ledger : PhysicalTranslationStreamLedger
  installed : List InstalledFrame
  claimed : List (String × Nat)

/-- `queued` says whether the worker's channel takes what the frame gives rise to. -/
inductive LedgerOp
  | frame (cue_id : String) (chunk_index : Nat) (state : TranslationStreamState)
      (translation_generation : Nat) (queued : Bool)
  | claim_terminal (cue_id : String) (translation_generation : Nat)
  | reset
deriving DecidableEq

namespace LedgerLife

variable (l : LedgerLife)

def claim (cue_id : String) (translation_generation : Nat) : LedgerLife :=
  match l.ledger.claim_terminal cue_id translation_generation with
  | (ledger, true) =>
    { l with ledger, claimed := l.claimed ++ [(cue_id, translation_generation)] }
  | (ledger, false) => { l with ledger }

/-- `handle_physical_translation_stream_frame`: the admission is prepared on a clone, which is
installed when the frame is queued. An abort claims the terminal instead. -/
def handle_frame (cue_id : String) (chunk_index : Nat) (state : TranslationStreamState)
    (translation_generation : Nat) (queued : Bool) : LedgerLife :=
  match l.ledger.admit_frame cue_id chunk_index state translation_generation with
  | none => l
  | some (_, .Duplicate) => l
  | some (next_ledger, _) =>
    if ¬ queued then l
    else if state = .Abort then l.claim cue_id translation_generation
    else { l with
      ledger := next_ledger
      installed := l.installed ++ [⟨cue_id, translation_generation, state, chunk_index⟩] }

def step : LedgerOp → LedgerLife
  | .frame cue_id chunk_index state translation_generation queued =>
    l.handle_frame cue_id chunk_index state translation_generation queued
  | .claim_terminal cue_id translation_generation => l.claim cue_id translation_generation
  | .reset => ⟨.new, [], []⟩

/-- The frames of a stream that were installed. -/
def frames (cue_id : String) (translation_generation : Nat) :
    List (TranslationStreamState × Nat) :=
  (l.installed.filter fun frame => frame.cue_id = cue_id ∧
    frame.translation_generation = translation_generation).map fun frame =>
      (frame.state, frame.chunk_index)

end LedgerLife

def new_ledger : LedgerLife := ⟨.new, [], []⟩

/-! ## The ledger of the Bridge -/

/-- The frame of a command that was sent to the worker. -/
def installed_frame (sent : PhysicalTranslationStreamCommand S × Nat) : InstalledFrame :=
  ⟨sent.1.job.cue_id.getD "", sent.1.job.translation_generation, sent.1.state, sent.2⟩

/-- A life leads to the ledger of the Bridge, and what it installed is the end of what was sent to
the worker. -/
def Lives (s : Bridge S) : Prop :=
  ∃ ops l, l = run LedgerLife.step new_ledger ops ∧
    l.ledger = s.state.physical_translation_stream_ledger ∧
    l.installed <:+ s.admitted.map installed_frame

section

variable {s : Bridge S} {b : BridgeState}

theorem lives_of_new (hnew : s.state.physical_translation_stream_ledger = .new) : Lives s :=
  ⟨[], _, rfl, hnew.symm, List.nil_suffix⟩

variable (h : Lives s)

include h

theorem Lives.claim (cue_id generation status reason) :
    Lives { s with state := s.state.claim_terminal_status cue_id generation status reason } := by
  obtain ⟨ops, l, rfl, hledger, hinstalled⟩ := h
  refine ⟨ops ++ [.claim_terminal cue_id generation], _, rfl, ?_⟩
  rw [run_snoc, LedgerLife.step, LedgerLife.claim, BridgeState.claim_terminal_status, hledger]
  rcases s.state.physical_translation_stream_ledger.claim_terminal cue_id generation with
    ⟨_, _ | _⟩ <;> exact ⟨rfl, hinstalled⟩

/-- While it plays, the worker only claims terminals. -/
theorem Lives.reports (hreports : Reports s.state b) : Lives { s with state := b } := by
  induction hreports with
  | nothing => exact h
  | emit _ _ _ _ ih => exact ih
  | claim _ cue_id generation _ reason ih => exact ih.claim cue_id generation _ reason

theorem Lives.admit {frame : TranslationFrame S} {cue_id : String} (hcue : frame.cue_id = some cue_id)
    (chunk_index : Nat) (state : TranslationStreamState) (now_ms : Nat) :
    Lives (s.admit_stream_frame frame cue_id chunk_index state now_ms) := by
  unfold Bridge.admit_stream_frame
  split
  · exact h
  · exact h
  · rename_i hnew hadmit
    split
    · exact h.claim _ _ _ _
    · rename_i habort
      dsimp only [Bridge.try_send]
      by_cases hroom : s.next_arrival.commands.length < PLAYBACK_CHANNEL_CAPACITY
      · rw [if_pos hroom]
        obtain ⟨ops, l, rfl, hledger, before, hbefore⟩ := h
        refine ⟨ops ++ [.frame cue_id chunk_index state s.state.translation_generation true], _,
          rfl, ?_⟩
        rw [run_snoc, LedgerLife.step, LedgerLife.handle_frame, hledger, hadmit]
        simp only [not_true_eq_false, if_false, if_neg habort, true_and]
        refine ⟨before, ?_⟩
        rw [← List.append_assoc, hbefore, List.map_append]
        simp [installed_frame, Bridge.job_of, hcue, Bridge.next_arrival]
      · rw [if_neg hroom]
        exact h

theorem Lives.frame (frame : TranslationFrame S) (now_ms : Nat) :
    Lives (s.handle_physical_translation_frame frame now_ms) := by
  unfold Bridge.handle_physical_translation_frame Bridge.handle_complete_frame Bridge.try_send
  simp only [Bridge.drop_jobs_eq]
  split
  · exact h
  split
  · unfold Bridge.handle_physical_translation_stream_frame
    split
    · rename_i hcue _
      repeat' split
      all_goals first | exact h | exact h.admit hcue _ _ _
    · exact h
  · repeat' split
    all_goals exact h

/-- At each place the worker leaves the ledger alone or claims terminals. -/
theorem Lives.work (e : Outside) : Lives (s.run_playback_worker e) := by
  unfold Bridge.run_playback_worker Bridge.apply_playback_control_commands
    Bridge.apply_playback_control_command Bridge.finish_completed_translation Bridge.take_ready
    Bridge.receive Bridge.receive_stream_command Bridge.check_complete Bridge.start_next_translation
  simp only [Bridge.drop_jobs_eq]
  repeat' split
  all_goals first
    | exact h
    | exact h.reports (PlaybackWorker.start_buffered_serves _ _ e).state
    | exact h.reports (PlaybackWorker.finish_stream_serves _ _ e).state
    | exact h.reports (PlaybackWorker.play_serves _ _ _ e).state

theorem Lives.step (op : Op S) : Lives (step s op) := by
  cases op with
  | translation_frame frame now_ms => exact h.frame frame now_ms
  | source_frame | flush_source =>
    dsimp only [playback.step, Bridge.try_send]
    split <;> exact h
  | request_playback_stop | bridge_shutdown => exact lives_of_new rfl
  | bridge_init =>
    dsimp only [playback.step, Bridge.handle_bridge_init]
    split
    · exact lives_of_new rfl
    · split
      · exact lives_of_new rfl
      · exact h
  | rebind => exact h
  | work e => exact h.work e

end

/-- In every run of the Bridge its ledger is one that frames, claims of terminals and resets lead to,
and the frames installed in it are the last ones that were sent to the worker. -/
theorem the_bridge_keeps_its_streams_in_the_ledger (device_id : String) (ops : List (Op S)) :
    ∃ s, s = run step (Bridge.new device_id) ops ∧
      ∃ life l, l = run LedgerLife.step new_ledger life ∧
        l.ledger = s.state.physical_translation_stream_ledger ∧
        l.installed <:+ s.admitted.map installed_frame :=
  ⟨_, rfl, run_keeps step Lives (fun _ op h => h.step op) (lives_of_new rfl) ops⟩

/-! ## The order of a stream -/

/-- A start, the chunks before `n` and, if the stream has ended, its end. -/
def stream_of (n : Nat) (ended : Bool) : List (TranslationStreamState × Nat) :=
  (.Start, 0) :: (List.range' 1 (n - 1)).map (fun chunk_index => (.Chunk, chunk_index)) ++
    if ended then [(.End, n)] else []

theorem stream_of_chunk {n : Nat} (h : 0 < n) :
    stream_of (n + 1) false = stream_of n false ++ [(.Chunk, n)] := by
  obtain ⟨m, rfl⟩ : ∃ m, n = m + 1 := ⟨n - 1, by omega⟩
  simp [stream_of, List.range'_concat, Nat.add_comm]

theorem stream_of_end (n : Nat) : stream_of n true = stream_of n false ++ [(.End, n)] := by
  simp [stream_of]

/-- What was installed of each stream goes with where the ledger has it. -/
structure Ordered (l : LedgerLife) : Prop where
  running : ∀ cue_id cursor, l.ledger.active.lookup cue_id = some cursor →
    0 < cursor.next_chunk_index ∧ (cue_id, cursor.translation_generation) ∉ l.ledger.completed ∧
    l.frames cue_id cursor.translation_generation =
      stream_of cursor.next_chunk_index cursor.ended
  done : ∀ cue_id generation, (cue_id, generation) ∈ l.ledger.completed →
    ∃ n ended, 0 < n ∧ l.frames cue_id generation = stream_of n ended
  idle : ∀ cue_id generation, (cue_id, generation) ∉ l.ledger.completed →
    (∀ cursor ∈ l.ledger.active.lookup cue_id, cursor.translation_generation ≠ generation) →
    l.frames cue_id generation = []
  claims : ∀ stream, l.claimed.count stream = if stream ∈ l.ledger.completed then 1 else 0

section

variable {l : LedgerLife}

theorem new_ledger_ordered : Ordered new_ledger := by
  refine ⟨fun cue_id _ hcursor => ?_, fun cue_id _ hdone => ?_, fun _ _ _ _ => rfl,
    fun _ => ?_⟩
  · simp [new_ledger, PhysicalTranslationStreamLedger.new] at hcursor
  · simp [new_ledger, PhysicalTranslationStreamLedger.new] at hdone
  · simp [new_ledger, PhysicalTranslationStreamLedger.new]

theorem frames_append (l : LedgerLife) (ledger : PhysicalTranslationStreamLedger)
    (frame : InstalledFrame) (cue_id : String) (generation : Nat) :
    ({ l with ledger, installed := l.installed ++ [frame] } : LedgerLife).frames cue_id generation =
      l.frames cue_id generation ++
        if frame.cue_id = cue_id ∧ frame.translation_generation = generation then
          [(frame.state, frame.chunk_index)] else [] := by
  unfold LedgerLife.frames
  by_cases hsame : frame.cue_id = cue_id ∧ frame.translation_generation = generation
  · simp [hsame]
  · simp [hsame]

/-- A terminal can be claimed only for a stream that is active. -/
theorem claim_terminal_eq (ledger : PhysicalTranslationStreamLedger) (cue_id : String)
    (generation : Nat) :
    (∃ cursor, ledger.active.lookup cue_id = some cursor ∧
      cursor.translation_generation = generation ∧
      ledger.claim_terminal cue_id generation =
        (⟨ledger.active.erase cue_id, insert (cue_id, generation) ledger.completed⟩, true)) ∨
    ((∀ cursor ∈ ledger.active.lookup cue_id, cursor.translation_generation ≠ generation) ∧
      ledger.claim_terminal cue_id generation = (ledger, false)) := by
  unfold PhysicalTranslationStreamLedger.claim_terminal
  cases hcursor : ledger.active.lookup cue_id with
  | none => exact Or.inr ⟨by simp, by simp⟩
  | some cursor =>
    by_cases hgeneration : cursor.translation_generation = generation
    · exact Or.inl ⟨cursor, rfl, hgeneration, by simp [hgeneration]⟩
    · exact Or.inr ⟨by simpa using hgeneration, by simp [hgeneration]⟩

theorem Ordered.claim (h : Ordered l) (cue_id : String) (generation : Nat) :
    Ordered (l.claim cue_id generation) := by
  unfold LedgerLife.claim
  rcases claim_terminal_eq l.ledger cue_id generation with
    ⟨cursor, hcursor, hgeneration, hclaim⟩ | ⟨-, hclaim⟩
  · rw [hclaim]
    subst hgeneration
    obtain ⟨hpos, hopen, hframes⟩ := h.running cue_id cursor hcursor
    refine ⟨fun other found hfound => ?_, fun other generation hdone => ?_,
      fun other generation hopen' hidle => ?_, fun stream => ?_⟩
    · by_cases hother : other = cue_id
      · rw [hother, AList.lookup_erase] at hfound
        cases hfound
      · rw [AList.lookup_erase_ne hother] at hfound
        obtain ⟨hpos', hnot, hframes'⟩ := h.running other found hfound
        refine ⟨hpos', fun hin => ?_, hframes'⟩
        rcases Finset.mem_insert.mp hin with hsame | hold
        · exact hother (Prod.mk.inj hsame).1
        · exact hnot hold
    · rcases Finset.mem_insert.mp hdone with hsame | hold
      · obtain ⟨rfl, rfl⟩ := Prod.mk.inj hsame
        exact ⟨_, _, hpos, hframes⟩
      · exact h.done other generation hold
    · rw [Finset.mem_insert, not_or] at hopen'
      refine h.idle other generation hopen'.2 fun found hfound hsame => ?_
      by_cases hother : other = cue_id
      · subst hother
        obtain rfl : cursor = found := Option.some.inj (hcursor.symm.trans hfound)
        exact hopen'.1 (by rw [hsame])
      · exact hidle found (by rw [AList.lookup_erase_ne hother]; exact hfound) hsame
    · have hcount := h.claims stream
      rw [List.count_append, hcount]
      by_cases hsame : stream = (cue_id, cursor.translation_generation)
      · simp [hsame, hopen]
      · simp [hsame, Ne.symm hsame]
  · rw [hclaim]
    exact h

theorem Ordered.install (h : Ordered l) {cue_id : String} {generation chunk_index n : Nat}
    {state : TranslationStreamState} {ended : Bool} {next : PhysicalTranslationStreamLedger}
    (hopen : (cue_id, generation) ∉ l.ledger.completed)
    (hmine : ∀ cursor ∈ l.ledger.active.lookup cue_id, cursor.translation_generation = generation)
    (hactive : next.active = l.ledger.active.insert cue_id ⟨n, ended, generation⟩)
    (hcompleted : next.completed = l.ledger.completed) (hpos : 0 < n)
    (hframes : l.frames cue_id generation ++ [(state, chunk_index)] = stream_of n ended) :
    Ordered { l with
      ledger := next
      installed := l.installed ++ [⟨cue_id, generation, state, chunk_index⟩] } := by
  refine ⟨fun other cursor hcursor => ?_, fun other other_generation hdone => ?_,
    fun other other_generation hopen' hidle => ?_, ?_⟩
  · rw [hactive] at hcursor
    rw [hcompleted, frames_append]
    by_cases hother : other = cue_id
    · subst hother
      rw [AList.lookup_insert] at hcursor
      obtain rfl := Option.some.inj hcursor
      simp only [and_self, if_true]
      exact ⟨hpos, hopen, hframes⟩
    · rw [AList.lookup_insert_ne hother] at hcursor
      simp only [Ne.symm hother, false_and, if_false, List.append_nil]
      exact h.running other cursor hcursor
  · rw [hcompleted] at hdone
    have hnot : ¬ (cue_id = other ∧ generation = other_generation) := by
      rintro ⟨rfl, rfl⟩
      exact hopen hdone
    rw [frames_append, if_neg hnot, List.append_nil]
    exact h.done other other_generation hdone
  · rw [hcompleted] at hopen'
    rw [hactive] at hidle
    rw [frames_append]
    by_cases hother : other = cue_id
    · subst hother
      rw [AList.lookup_insert] at hidle
      have hne : generation ≠ other_generation := hidle _ rfl
      rw [if_neg fun hsame => hne hsame.2, List.append_nil]
      refine h.idle other other_generation hopen' fun cursor hcursor => ?_
      rw [hmine cursor hcursor]
      exact hne
    · rw [if_neg fun hsame => hother hsame.1.symm, List.append_nil]
      refine h.idle other other_generation hopen' fun cursor hcursor => ?_
      exact hidle cursor (by rw [AList.lookup_insert_ne hother]; exact hcursor)
  · rw [hcompleted]
    exact h.claims

/-- A frame whose index is below the limit of its type. -/
theorem Ordered.frame (h : Ordered l) (cue_id : String) {chunk_index : Nat}
    (hindex : chunk_index < MAX_CHUNK_INDEX) (state : TranslationStreamState) (generation : Nat)
    (queued : Bool) : Ordered (l.handle_frame cue_id chunk_index state generation queued) := by
  unfold LedgerLife.handle_frame
  split
  · exact h
  · exact h
  · rename_i _ _ hnew hadmit
    split
    · exact h
    · split
      · exact h.claim cue_id generation
      · rename_i habort
        obtain ⟨hopen, hcompleted, hcases⟩ :=
          admit_frame_cases hadmit hnew habort
        rcases hcases with ⟨rfl, hnone, rfl, hactive⟩ |
          ⟨cursor, hcursor, rfl, hrunning, rfl, ⟨rfl, hactive⟩ | ⟨rfl, hactive⟩⟩
        · have hidle := h.idle cue_id generation hopen (by simp [hnone])
          refine h.install hopen (by simp [hnone]) hactive hcompleted Nat.one_pos ?_
          rw [hidle]
          rfl
        · obtain ⟨hpos, -, hframes⟩ := h.running cue_id cursor hcursor
          have hnext : min (cursor.next_chunk_index + 1) MAX_CHUNK_INDEX =
              cursor.next_chunk_index + 1 := min_eq_left hindex
          rw [hnext, hrunning] at hactive
          refine h.install hopen (by simp [hcursor]) hactive hcompleted (Nat.succ_pos _) ?_
          rw [hframes, hrunning, stream_of_chunk hpos]
        · obtain ⟨hpos, -, hframes⟩ := h.running cue_id cursor hcursor
          refine h.install hopen (by simp [hcursor]) hactive hcompleted hpos ?_
          rw [hframes, hrunning, stream_of_end]

/-- The index of a frame is one that can be followed by another. -/
def LedgerOp.in_range : LedgerOp → Prop
  | .frame _ chunk_index _ _ _ => chunk_index < MAX_CHUNK_INDEX
  | _ => True

theorem Ordered.step (h : Ordered l) {op : LedgerOp} (hop : op.in_range) : Ordered (l.step op) := by
  cases op with
  | frame cue_id _ state generation queued =>
    exact h.frame cue_id hop state generation queued
  | claim_terminal cue_id generation => exact h.claim cue_id generation
  | reset => exact new_ledger_ordered

theorem run_ordered {ops : List LedgerOp} (hops : ∀ op ∈ ops, op.in_range) :
    Ordered (run LedgerLife.step new_ledger ops) :=
  (Along.of_mem hops new_ledger).keeps Ordered (fun _ _ h hop => h.step hop) new_ledger_ordered

end

/-- Since the last reset, the frames that were installed of a stream are its start, its chunks from 1
on, each once, and at most one end, with nothing after it. -/
def InSequence (frames : List (TranslationStreamState × Nat)) : Prop :=
  frames = [] ∨ ∃ n, frames = (.Start, 0) :: (List.range' 1 n).map (fun i => (.Chunk, i)) ∨
    frames = (.Start, 0) :: (List.range' 1 n).map (fun i => (.Chunk, i)) ++ [(.End, n + 1)]

theorem stream_of_in_sequence {n : Nat} (h : 0 < n) (ended : Bool) :
    InSequence (stream_of n ended) := by
  refine Or.inr ⟨n - 1, ?_⟩
  cases ended with
  | false => exact Or.inl (by simp [stream_of])
  | true => exact Or.inr (by simp [stream_of, Nat.sub_add_cancel h])

/-- In every run of frames, claims and resets, with indexes below the limit: each stream is installed
in sequence; its terminal is claimed at most once, and then every frame of it is a duplicate; and a
frame that is refused, a duplicate or not queued changes nothing. -/
theorem streams_are_admitted_once_in_sequence (ops : List LedgerOp)
    (hops : ∀ op ∈ ops, op.in_range) :
    let l := run LedgerLife.step new_ledger ops
    (∀ cue_id generation, InSequence (l.frames cue_id generation)) ∧
    (∀ stream, l.claimed.count stream ≤ 1) ∧
    (∀ cue_id generation, (cue_id, generation) ∈ l.claimed → ∀ chunk_index state,
      l.ledger.admit_frame cue_id chunk_index state generation = some (l.ledger, .Duplicate)) ∧
    (∀ cue_id chunk_index state generation queued,
      (l.ledger.admit_frame cue_id chunk_index state generation = none ∨
        (∃ next, l.ledger.admit_frame cue_id chunk_index state generation =
          some (next, .Duplicate)) ∨ queued = false) →
      l.step (.frame cue_id chunk_index state generation queued) = l) := by
  intro l
  have h : Ordered l := run_ordered hops
  have hclaimed (stream : String × Nat) : stream ∈ l.claimed ↔ stream ∈ l.ledger.completed := by
    rw [← List.count_pos_iff, h.claims]
    split <;> simp [*]
  refine ⟨fun cue_id generation => ?_, fun stream => ?_, fun cue_id generation hin chunk_index state
    => ?_, fun cue_id chunk_index state generation queued hunchanged => ?_⟩
  · by_cases hdone : (cue_id, generation) ∈ l.ledger.completed
    · obtain ⟨_, ended, hpos, hframes⟩ := h.done cue_id generation hdone
      rw [hframes]
      exact stream_of_in_sequence hpos ended
    · by_cases hactive : ∃ cursor ∈ l.ledger.active.lookup cue_id,
          cursor.translation_generation = generation
      · obtain ⟨cursor, hcursor, rfl⟩ := hactive
        obtain ⟨hpos, -, hframes⟩ := h.running cue_id cursor hcursor
        rw [hframes]
        exact stream_of_in_sequence hpos cursor.ended
      · push Not at hactive
        exact Or.inl (h.idle cue_id generation hdone hactive)
  · rw [h.claims]
    split <;> simp
  · unfold PhysicalTranslationStreamLedger.admit_frame
    rw [if_pos ((hclaimed _).mp hin)]
  · unfold LedgerLife.step LedgerLife.handle_frame
    dsimp only
    rcases hunchanged with hnone | ⟨next, hdup⟩ | rfl
    · rw [hnone]
    · rw [hdup]
    · split
      · rfl
      · rfl
      · simp

/-- Two cues whose frames come mixed, repeated and out of order. -/
theorem two_streams_are_admitted_in_sequence :
    let ops : List LedgerOp := [.frame "a" 0 .Start 3 true, .frame "b" 0 .Start 3 true,
      .frame "a" 2 .Chunk 3 true, .frame "a" 1 .Chunk 3 true, .frame "a" 1 .Chunk 3 true,
      .frame "a" 2 .Chunk 3 false, .frame "a" 2 .End 3 true, .claim_terminal "a" 3,
      .claim_terminal "a" 3, .frame "a" 0 .Start 3 true, .frame "b" 1 .Abort 3 true]
    (∀ op ∈ ops, op.in_range) ∧
      (run LedgerLife.step new_ledger ops).frames "a" 3 = [(.Start, 0), (.Chunk, 1), (.End, 2)] ∧
      InSequence ((run LedgerLife.step new_ledger ops).frames "a" 3) := by
  intro ops
  have hops : ∀ op ∈ ops, op.in_range := by
    simp [ops, LedgerOp.in_range, MAX_CHUNK_INDEX]
  exact ⟨hops, by decide +kernel, (streams_are_admitted_once_in_sequence ops hops).1 "a" 3⟩

end omni_translate.playback
