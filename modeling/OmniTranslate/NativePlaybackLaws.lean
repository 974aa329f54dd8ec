-- What the worker of native playback is given, for every interleaving with the
-- producers: the accepted commands of the cues that nobody aborted, once and
-- in order, and after the abort of a cue one command of it, the abort, unless
-- a command of an aborted cue finds a way back into the queue.
import OmniTranslate.NativePlaybackQueue

namespace omni_translate.native_playback

open runs
open sentence (Instant Duration)
open playback (TranslationStreamState)

variable {S : Type}

namespace Playback

open OmniPlaybackQueueState

variable {capacity : Nat} {s s' : Playback S} {op : Op S}

/-! ## What one step does -/

/-- The command in the worker's hands was received after its cue was aborted. -/
def held_late (s : Playback S) : Prop := s.delivered.getLast?.map (·.late) = some true

/-- A command of an aborted cue comes into the queue or stays in it: the worker puts back a command whose cue
was aborted in the meantime, or there is a whole cue that the abort of its stream does not touch. -/
def Slips (capacity : Nat) (s : Playback S) : Op S → Prop
  | .enqueue _ _ command =>
    command.is_stream = false ∧ command.cue_id ∈ s.queue.terminated_stream_cues ∧
      s.queue.shutdown ≠ .Draining ∧ s.queue.shutdown ≠ .Aborted ∧ s.queue.pending.length < capacity
  | .abort_stream cue_id _ _ _ =>
    s.queue.shutdown ≠ .Aborted ∧ cue_id ∉ s.queue.terminated_stream_cues ∧
      ∃ command ∈ s.queue.pending, command.is_stream = false ∧ command.cue_id = cue_id
  | .return_pending =>
    s.queue.shutdown ≠ .Aborted ∧ ¬ s.held_late ∧
      ∃ command, s.held = some command ∧ command.cue_id ∈ s.queue.terminated_stream_cues
  | _ => False

/-- The queue and the records are as they were, and the worker holds nothing new. -/
structure Idle (s s' : Playback S) : Prop where
  pending : s'.queue.pending = s.queue.pending
  cues : s'.queue.terminated_stream_cues = s.queue.terminated_stream_cues
  aborted : s'.queue.shutdown = .Aborted ↔ s.queue.shutdown = .Aborted
  held : s'.held = s.held ∨ s'.held = none
  accepted : s'.accepted = s.accepted
  delivered : s'.delivered = s.delivered

theorem Idle.refl (s : Playback S) : Idle s s := ⟨rfl, rfl, .rfl, .inl rfl, rfl, rfl⟩

/-- The ways in which a step moves commands. -/
inductive Effect (capacity : Nat) (s : Playback S) : Op S → Playback S → Prop
  | accepts {now : Instant} {unix_ms : Nat} {command : OmniPlaybackCommand S}
      (hrunning : s.queue.shutdown ≠ .Aborted)
      (hcue : command.is_stream = true → command.cue_id ∉ s.queue.terminated_stream_cues)
      (hslips : Slips capacity s (.enqueue now unix_ms command) ↔
        command.cue_id ∈ s.queue.terminated_stream_cues) :
      Effect capacity s (.enqueue now unix_ms command)
        { s with queue := { s.queue with pending := s.queue.pending ++ [command] }
                 accepted := s.accepted ++ [command] }
  | aborts {cue_id : String} {chunk_index : Nat} {now : Instant} {created_at_ms : Nat}
      (hrunning : s.queue.shutdown ≠ .Aborted) (hcue : cue_id ∉ s.queue.terminated_stream_cues) :
      Effect capacity s (.abort_stream cue_id chunk_index now created_at_ms)
        { s with queue := { s.queue with
                            terminated_stream_cues := insert cue_id s.queue.terminated_stream_cues
                            pending := abort_command cue_id chunk_index now created_at_ms ::
                              s.queue.pending.filter (fun command => !streams cue_id command) } }
  | delivers {op : Op S} {command : OmniPlaybackCommand S} {pending : List (OmniPlaybackCommand S)}
      {active_expected_end : Option Instant} (hrunning : s.queue.shutdown ≠ .Aborted)
      (hpending : s.queue.pending = command :: pending) (hcalm : ¬ Slips capacity s op) :
      Effect capacity s op
        { s with queue := { s.queue with pending, active_expected_end }
                 waiting := none, held := some command
                 delivered := s.delivered ++
                   [⟨command, decide (command.cue_id ∈ s.queue.terminated_stream_cues)⟩] }
  | returns {command : OmniPlaybackCommand S} (hrunning : s.queue.shutdown ≠ .Aborted)
      (hheld : s.held = some command) :
      Effect capacity s .return_pending
        { s with queue := { s.queue with pending := command :: s.queue.pending }
                 held := none, delivered := s.delivered.dropLast }
  | forgets (haborted : s.queue.shutdown = .Aborted) :
      Effect capacity s .return_pending { s with held := none, delivered := s.delivered.dropLast }
  | stops : Effect capacity s .abort { s with queue := s.queue.abort }
  | idles {op : Op S} {s' : Playback S} (hidle : Idle s s') (hcalm : ¬ Slips capacity s op) :
      Effect capacity s op s'

/-- The queue takes a command at its end, unless it is closed, full, or the command comes too late. -/
theorem enqueue_takes (capacity : Nat) (now : Instant) (unix_ms : Nat) (command : OmniPlaybackCommand S)
    (queue : OmniPlaybackQueueState S) :
    ((queue.enqueue capacity now unix_ms command).2.accepted = true ∧
        (queue.enqueue capacity now unix_ms command).1 =
          { queue with pending := queue.pending ++ [command] } ∧
        queue.shutdown ≠ .Draining ∧ queue.shutdown ≠ .Aborted ∧ queue.pending.length < capacity ∧
        (command.is_stream = true → command.cue_id ∉ queue.terminated_stream_cues)) ∨
      ((queue.enqueue capacity now unix_ms command).2.accepted = false ∧
        (queue.enqueue capacity now unix_ms command).1 = queue ∧
        (queue.shutdown = .Draining ∨ queue.shutdown = .Aborted ∨ capacity ≤ queue.pending.length ∨
          command.is_stream = true)) := by
  unfold enqueue
  by_cases hclosed : queue.shutdown = .Draining ∨ queue.shutdown = .Aborted
  · rw [if_pos hclosed]
    exact .inr ⟨rfl, rfl, hclosed.elim .inl fun h => .inr (.inl h)⟩
  rw [if_neg hclosed]
  rw [not_or] at hclosed
  by_cases hcue : command.is_stream = true ∧ command.cue_id ∈ queue.terminated_stream_cues
  · rw [if_pos hcue]
    exact .inr ⟨rfl, rfl, .inr (.inr (.inr hcue.1))⟩
  rw [if_neg hcue]
  by_cases hfull : capacity ≤ queue.pending.length
  · rw [if_pos hfull]
    exact .inr ⟨rfl, rfl, .inr (.inr (.inl hfull))⟩
  rw [if_neg hfull]
  by_cases hold : (realtime_start_age unix_ms command).any omni_playback_queue_age_expired = true
  · rw [if_pos hold]
    refine .inr ⟨rfl, rfl, .inr (.inr (.inr ?_))⟩
    cases command with
    | Play clip => simp [realtime_start_age] at hold
    | Stream clip _ _ => rfl
  · rw [if_neg hold]
    refine .inl ⟨rfl, rfl, hclosed.1, hclosed.2, Nat.not_le.mp hfull, fun hstream hmem => ?_⟩
    exact hcue ⟨hstream, hmem⟩

theorem enqueue_effect (now : Instant) (unix_ms : Nat) (command : OmniPlaybackCommand S) :
    Effect capacity s (.enqueue now unix_ms command) (s.step capacity (.enqueue now unix_ms command)) := by
  dsimp only [step]
  rcases enqueue_takes capacity now unix_ms command s.queue with
    ⟨htaken, hqueue, hopen, hrunning, hroom, hcue⟩ | ⟨hrefused, hqueue, hwhy⟩
  · rw [hqueue, if_pos htaken]
    refine .accepts hrunning hcue ⟨fun h => h.2.1, fun hmem => ?_⟩
    refine ⟨?_, hmem, hopen, hrunning, hroom⟩
    by_contra hstream
    exact hcue (Bool.eq_true_of_not_eq_false hstream) hmem
  · rw [hqueue, if_neg (by simp [hrefused])]
    refine .idles (.refl s) fun hslips => ?_
    obtain ⟨hplay, -, hopen, hrunning, hroom⟩ := hslips
    rcases hwhy with hwhy | hwhy | hwhy | hwhy
    · exact hopen hwhy
    · exact hrunning hwhy
    · exact absurd hroom (Nat.not_lt.mpr hwhy)
    · simp [hplay] at hwhy

theorem abort_stream_effect (cue_id : String) (chunk_index : Nat) (now : Instant) (created_at_ms : Nat) :
    Effect capacity s (.abort_stream cue_id chunk_index now created_at_ms)
      (s.step capacity (.abort_stream cue_id chunk_index now created_at_ms)) := by
  dsimp only [step]
  unfold abort_stream
  split
  · next haborted => exact .idles (.refl s) fun hslips => hslips.1 haborted
  · next hrunning =>
    split
    · next hknown => exact .idles (.refl s) fun hslips => hslips.2.1 hknown
    · next hcue => exact .aborts hrunning hcue

theorem receive_effect {now deadline : Instant} (hcalm : ¬ Slips capacity s op) :
    Effect capacity s op
      (s.receive (s.queue.recv_turn now deadline).1 (s.queue.recv_turn now deadline).2 deadline) := by
  unfold recv_turn
  split
  · exact .idles ⟨rfl, rfl, .rfl, .inr rfl, rfl, rfl⟩ hcalm
  · next hrunning =>
    dsimp only
    split
    · next command pending hpending => exact .delivers hrunning hpending hcalm
    · split
      · exact .idles ⟨rfl, rfl, .rfl, .inr rfl, rfl, rfl⟩ hcalm
      · split
        · exact .idles ⟨rfl, rfl, .rfl, .inr rfl, rfl, rfl⟩ hcalm
        · split
          · exact .idles ⟨rfl, rfl, .rfl, .inr rfl, rfl, rfl⟩ hcalm
          · exact .idles ⟨rfl, rfl, .rfl, .inr rfl, rfl, rfl⟩ hcalm

theorem return_effect : Effect capacity s .return_pending (s.step capacity .return_pending) := by
  dsimp only [step]
  split
  · next hnone =>
    refine .idles (.refl s) fun hslips => ?_
    obtain ⟨command, hheld, -⟩ := hslips.2.2
    rw [hnone] at hheld
    cases hheld
  · next command hheld =>
    unfold return_pending
    split
    · next hrunning => exact .returns hrunning hheld
    · next haborted => exact .forgets (not_not.mp haborted)

theorem step_effect (capacity : Nat) (s : Playback S) (op : Op S) : Effect capacity s op (s.step capacity op) := by
  cases op with
  | enqueue now unix_ms command => exact enqueue_effect now unix_ms command
  | abort_stream cue_id chunk_index now created_at_ms =>
    exact abort_stream_effect cue_id chunk_index now created_at_ms
  | recv now _ =>
    dsimp only [step, turn]
    split
    · next hturn =>
      split at hturn
      · cases hturn
      · exact .idles (.refl s) id
    · next queue answer deadline hturn =>
      split at hturn
      · cases hturn
        exact receive_effect id
      · cases hturn
  | woken now _ =>
    dsimp only [step, turn]
    cases hwaiting : s.waiting with
    | none => exact .idles (.refl s) id
    | some deadline =>
      dsimp only [Option.map_some]
      unfold recv_woken
      split
      · exact .idles ⟨rfl, rfl, .rfl, .inr rfl, rfl, rfl⟩ id
      · exact receive_effect id
  | return_pending => exact return_effect
  | finish_active => exact .idles ⟨rfl, rfl, .rfl, .inl rfl, rfl, rfl⟩ id
  | begin_provider_finishing =>
    dsimp only [step, OmniPlaybackQueueState.begin_provider_finishing]
    split
    · next hrunning => exact .idles ⟨rfl, rfl, by simp [hrunning], .inl rfl, rfl, rfl⟩ id
    · exact .idles (.refl s) id
  | drain_and_stop =>
    dsimp only [step, OmniPlaybackQueueState.drain_and_stop]
    split
    · next hopen =>
      refine .idles ⟨rfl, rfl, ?_, .inl rfl, rfl, rfl⟩ id
      rcases hopen with hopen | hopen <;> simp [hopen]
    · exact .idles (.refl s) id
  | abort => exact .stops

/-! ## In order, and once -/

/-- Nobody aborted the cue of the command. -/
def live (s : Playback S) (command : OmniPlaybackCommand S) : Bool :=
  decide (command.cue_id ∉ s.queue.terminated_stream_cues)

/-- The commands that the worker received and did not put back. -/
def received (s : Playback S) : List (OmniPlaybackCommand S) := s.delivered.map (·.command)

/-- Of the cues that nobody aborted, what was received and what is pending is what was accepted. -/
def Kept (s : Playback S) : Prop :=
  s.accepted.filter s.live = (s.received ++ s.queue.pending).filter s.live

/-- What the worker holds is what it received last. -/
def Holds (s : Playback S) : Prop :=
  ∀ command, s.held = some command → ∃ before late, s.delivered = before ++ [⟨command, late⟩]

theorem filter_of_imp {α : Type} {p q : α → Bool} (h : ∀ a, p a = true → q a = true) (l : List α) :
    (l.filter q).filter p = l.filter p := by
  rw [List.filter_filter]
  refine List.filter_congr fun a _ => ?_
  cases hp : p a
  · simp
  · simp [h a hp]

theorem Idle.keeps (h : Idle s s') (hkept : s.Kept) : s'.Kept := by
  unfold Kept live received at *
  rw [h.accepted, h.delivered, h.pending, h.cues]
  exact hkept

theorem Idle.holds (h : Idle s s') (hholds : s.Holds) : s'.Holds := by
  intro command hheld
  rw [h.delivered]
  rcases h.held with hsame | hnone
  · exact hholds command (hsame ▸ hheld)
  · rw [hnone] at hheld
    cases hheld

theorem Effect.holds (h : Effect capacity s op s') (hholds : s.Holds) : s'.Holds := by
  cases h with
  | accepts _ _ _ => exact hholds
  | aborts _ _ => exact hholds
  | delivers _ _ _ =>
    rintro command ⟨rfl⟩
    exact ⟨_, _, rfl⟩
  | returns _ _ => rintro command ⟨⟩
  | forgets _ => rintro command ⟨⟩
  | stops => exact hholds
  | idles hidle _ => exact hidle.holds hholds

theorem Effect.running (h : Effect capacity s op s') (hrunning : s'.queue.shutdown ≠ .Aborted) :
    s.queue.shutdown ≠ .Aborted := by
  cases h with
  | accepts h _ _ => exact h
  | aborts h _ => exact h
  | delivers h _ _ => exact h
  | returns h _ => exact h
  | forgets _ => exact hrunning
  | stops => exact absurd rfl hrunning
  | idles hidle _ => exact fun h => hrunning (hidle.aborted.mpr h)

variable {cue_id : String} {now : Instant}

/-- After an abort, fewer commands are live; those that are removed are not among them. -/
theorem aborts_kept {chunk_index : Nat} {created_at_ms : Nat} (hkept : s.Kept) :
    ({ s with queue := { s.queue with
                         terminated_stream_cues := insert cue_id s.queue.terminated_stream_cues
                         pending := abort_command cue_id chunk_index now created_at_ms ::
                           s.queue.pending.filter (fun command => !streams cue_id command) } } :
      Playback S).Kept := by
  unfold Kept live received at *
  have hsplit : ∀ l : List (OmniPlaybackCommand S),
      (l.filter fun command => decide (command.cue_id ∉ s.queue.terminated_stream_cues)).filter
          (fun command => decide (command.cue_id ∉ insert cue_id s.queue.terminated_stream_cues)) =
        l.filter fun command => decide (command.cue_id ∉ insert cue_id s.queue.terminated_stream_cues) := by
    refine fun l => filter_of_imp (fun command h => ?_) l
    simp only [Finset.mem_insert, not_or, decide_eq_true_eq] at h ⊢
    exact h.2
  rw [← hsplit s.accepted, hkept, hsplit, List.filter_append, List.filter_append, List.filter_cons_of_neg]
  · rw [filter_of_imp]
    intro command h
    simp only [Finset.mem_insert, not_or, decide_eq_true_eq] at h
    simp [streams, h.1]
  · simp [abort_command, OmniPlaybackCommand.cue_id, OmniPlaybackCommand.clip]

theorem Effect.kept (h : Effect capacity s op s') (hholds : s.Holds)
    (hrunning : s'.queue.shutdown ≠ .Aborted) (hkept : s.Kept) : s'.Kept := by
  cases h with
  | accepts _ _ _ =>
    unfold Kept live received at *
    simp only [List.filter_append, hkept, List.append_assoc]
  | aborts _ _ => exact aborts_kept hkept
  | delivers _ hpending _ =>
    unfold Kept live received at *
    rw [hkept, hpending]
    simp
  | returns _ hheld =>
    obtain ⟨_, _, hdelivered⟩ := hholds _ hheld
    unfold Kept live received at *
    rw [hkept, hdelivered]
    simp
  | forgets haborted => exact absurd haborted hrunning
  | stops => exact absurd rfl hrunning
  | idles hidle _ => exact hidle.keeps hkept

theorem run_kept (capacity : Nat) (ops : List (Op S)) :
    (run (step capacity) {} ops : Playback S).queue.shutdown ≠ .Aborted →
      (run (step capacity) {} ops : Playback S).Kept := by
  refine (run_keeps (step capacity) (fun s : Playback S => s.Holds ∧ (s.queue.shutdown ≠ .Aborted → s.Kept))
    (fun s op h => ?_) ?_ ops).2
  · have heffect := step_effect capacity s op
    exact ⟨heffect.holds h.1, fun hrunning => heffect.kept h.1 hrunning (h.2 (heffect.running hrunning))⟩
  · exact ⟨by rintro _ ⟨⟩, fun _ => rfl⟩

/-! ## Nothing stays behind -/

/-- A turn takes the first pending command, if there is one. -/
theorem turn_takes (capacity : Nat) (hrunning : s.queue.shutdown ≠ .Aborted) (hturn : (s.turn op).isSome = true) :
    (s.step capacity op).queue.pending = s.queue.pending.tail ∧
      (s.step capacity op).queue.shutdown = s.queue.shutdown ∧ (s.step capacity op).accepted = s.accepted := by
  have htakes : ∀ now deadline, (s.queue.recv_turn now deadline).1.pending = s.queue.pending.tail ∧
      (s.queue.recv_turn now deadline).1.shutdown = s.queue.shutdown := by
    intro now deadline
    unfold recv_turn
    rw [if_neg hrunning]
    dsimp only
    split
    · next command pending hpending => simp [hpending]
    · next hpending =>
      split_ifs <;> simp [hpending]
  have hreceive : ∀ queue answer deadline, (s.receive queue answer deadline).queue = queue ∧
      (s.receive queue answer deadline).accepted = s.accepted := by
    intro queue answer deadline
    unfold receive
    split <;> exact ⟨rfl, rfl⟩
  cases op with
  | recv now _ =>
    dsimp only [step, turn] at hturn ⊢
    by_cases hwaiting : s.waiting = none
    · rw [if_pos hwaiting]
      rw [(hreceive _ _ _).1, (hreceive _ _ _).2, ← and_assoc]
      exact ⟨htakes _ _, rfl⟩
    · simp [hwaiting] at hturn
  | woken now timed_out =>
    dsimp only [step, turn] at hturn ⊢
    cases hwaiting : s.waiting with
    | none => simp [hwaiting] at hturn
    | some deadline =>
      dsimp only [Option.map_some]
      rw [(hreceive _ _ _).1, (hreceive _ _ _).2]
      unfold recv_woken
      by_cases hempty : timed_out = true ∧ s.queue.pending.isEmpty = true
      · rw [if_pos hempty]
        simp [List.isEmpty_iff.mp hempty.2]
      · rw [if_neg hempty, ← and_assoc]
        exact ⟨htakes _ _, rfl⟩
  | _ => simp [turn] at hturn

theorem turns_take {turns : List (Op S)} (hrunning : s.queue.shutdown ≠ .Aborted)
    (hturns : Along (step capacity) (fun s op => (s.turn op).isSome = true) s turns) :
    (run (step capacity) s turns).queue.pending = s.queue.pending.drop turns.length ∧
      (run (step capacity) s turns).queue.shutdown = s.queue.shutdown ∧
        (run (step capacity) s turns).accepted = s.accepted := by
  induction turns generalizing s with
  | nil => exact ⟨rfl, rfl, rfl⟩
  | cons op turns ih =>
    obtain ⟨hpending, hshutdown, haccepted⟩ := turn_takes capacity hrunning hturns.1
    have hrest := ih (hshutdown ▸ hrunning) hturns.2
    rw [hpending, hshutdown, haccepted] at hrest
    simpa using hrest

/-- `Stopped` is the answer of an aborted queue or of one that drains and is empty. -/
theorem stopped_is_empty (hstopped : s.answer op = some .Stopped) :
    s.queue.shutdown = .Aborted ∨ (s.queue.shutdown = .Draining ∧ s.queue.pending = []) := by
  have hturn : ∀ now deadline, (s.queue.recv_turn now deadline).2 = some .Stopped →
      s.queue.shutdown = .Aborted ∨ (s.queue.shutdown = .Draining ∧ s.queue.pending = []) := by
    intro now deadline h
    unfold recv_turn at h
    split at h
    · next haborted => exact .inl haborted
    · dsimp only at h
      split at h
      · cases h
      · next hempty =>
        split at h
        · cases h
        · split at h
          · next hdraining => exact .inr ⟨hdraining, hempty⟩
          · split at h <;> cases h
  unfold answer turn at hstopped
  cases op with
  | recv now _ =>
    dsimp only at hstopped
    split at hstopped
    · exact hturn _ _ hstopped
    · cases hstopped
  | woken now _ =>
    cases hwaiting : s.waiting with
    | none => simp [hwaiting] at hstopped
    | some deadline =>
      simp only [hwaiting, Option.map_some, Option.bind_some, recv_woken] at hstopped
      split at hstopped
      · cases hstopped
      · exact hturn _ _ hstopped
  | _ => cases hstopped

/-! ## After the abort of a cue -/

/-- The commands of the cue that were received after its abort. -/
def received_late (s : Playback S) (cue_id : String) : List (OmniPlaybackCommand S) :=
  (s.delivered.filter fun delivery => delivery.late && decide (delivery.command.cue_id = cue_id)).map (·.command)

/-- Those, and the ones of the cue that are still pending. -/
def late_or_pending (s : Playback S) (cue_id : String) : List (OmniPlaybackCommand S) :=
  s.received_late cue_id ++ s.queue.pending.filter fun command => decide (command.cue_id = cue_id)

/-- Of each aborted cue there is one more command to receive or received since, and it is the abort. -/
def OneAbort (s : Playback S) : Prop :=
  s.queue.shutdown ≠ .Aborted → ∀ cue_id ∈ s.queue.terminated_stream_cues,
    ∃ command, command.is_abort = true ∧ s.late_or_pending cue_id = [command]

/-- A cue counts as aborted before a command of it is received late. -/
def LateAborted (s : Playback S) : Prop :=
  s.queue.shutdown ≠ .Aborted → ∀ delivery ∈ s.delivered, delivery.late = true →
    delivery.command.cue_id ∈ s.queue.terminated_stream_cues

theorem received_late_nil (hlate : s.LateAborted) (hrunning : s.queue.shutdown ≠ .Aborted)
    (hcue : cue_id ∉ s.queue.terminated_stream_cues) : s.received_late cue_id = [] := by
  unfold received_late
  rw [List.filter_eq_nil_iff.mpr, List.map_nil]
  intro delivery hmem h
  simp only [Bool.and_eq_true, decide_eq_true_eq] at h
  exact hcue (h.2 ▸ hlate hrunning delivery hmem h.1)

theorem Effect.late_aborted (h : Effect capacity s op s') (hlate : s.LateAborted) : s'.LateAborted := by
  intro hrunning delivery hmem hwas
  have hbefore := hlate (h.running hrunning)
  cases h with
  | accepts _ _ _ => exact hbefore delivery hmem hwas
  | aborts _ _ => exact Finset.mem_insert_of_mem (hbefore delivery hmem hwas)
  | delivers _ _ _ =>
    rcases List.mem_append.mp hmem with hmem | hmem
    · exact hbefore delivery hmem hwas
    · rw [List.mem_singleton.mp hmem] at hwas ⊢
      exact of_decide_eq_true hwas
  | returns _ _ => exact hbefore delivery (List.mem_of_mem_dropLast hmem) hwas
  | forgets haborted => exact absurd haborted hrunning
  | stops => exact absurd rfl hrunning
  | idles hidle _ =>
    rw [hidle.delivered] at hmem
    rw [hidle.cues]
    exact hbefore delivery hmem hwas

variable {command : OmniPlaybackCommand S}

theorem late_or_pending_accepts :
    ({ s with queue := { s.queue with pending := s.queue.pending ++ [command] }
              accepted := s.accepted ++ [command] } : Playback S).late_or_pending cue_id =
      s.late_or_pending cue_id ++ if command.cue_id = cue_id then [command] else [] := by
  unfold late_or_pending received_late
  rw [List.filter_append, List.filter_singleton, List.append_assoc]
  simp

theorem late_or_pending_aborts {aborted cue_id : String} {chunk_index : Nat} {created_at_ms : Nat} :
    ({ s with queue := { s.queue with
                         terminated_stream_cues := insert aborted s.queue.terminated_stream_cues
                         pending := abort_command aborted chunk_index now created_at_ms ::
                           s.queue.pending.filter (fun command => !streams aborted command) } } :
      Playback S).late_or_pending cue_id =
      if aborted = cue_id then
        s.received_late cue_id ++ abort_command aborted chunk_index now created_at_ms ::
          s.queue.pending.filter fun command => !command.is_stream && decide (command.cue_id = cue_id)
      else s.late_or_pending cue_id := by
  unfold late_or_pending received_late
  rw [List.filter_cons]
  split_ifs with hhead hcue hcue
  · rw [List.filter_filter]
    congr 2
    refine List.filter_congr fun command _ => ?_
    by_cases h : command.cue_id = cue_id <;> simp [streams, h, hcue]
  · exact absurd (of_decide_eq_true hhead) hcue
  · exact absurd (decide_eq_true hcue) hhead
  · congr 1
    refine filter_of_imp (fun command h => ?_) _
    have hother : command.cue_id ≠ aborted := fun h' => hcue (h' ▸ of_decide_eq_true h)
    simp [streams, hother]

/-- A delivery moves the command from the pending ones to those received late, if its cue was aborted. -/
theorem late_or_pending_delivers {pending : List (OmniPlaybackCommand S)}
    {active_expected_end : Option Instant} (hpending : s.queue.pending = command :: pending)
    (hcue : cue_id ∈ s.queue.terminated_stream_cues) :
    ({ s with queue := { s.queue with pending, active_expected_end }
              waiting := none, held := some command
              delivered := s.delivered ++
                [⟨command, decide (command.cue_id ∈ s.queue.terminated_stream_cues)⟩] } :
      Playback S).late_or_pending cue_id = s.late_or_pending cue_id := by
  unfold late_or_pending received_late
  rw [hpending]
  by_cases h : command.cue_id = cue_id <;> simp [h, hcue]

/-- A command that comes back stands where it stood, if it was received late. -/
theorem late_or_pending_returns {before : List (Delivery S)} {late : Bool}
    (hdelivered : s.delivered = before ++ [⟨command, late⟩]) (cue_id : String) :
    ({ s with queue := { s.queue with pending := command :: s.queue.pending }
              held := none, delivered := s.delivered.dropLast } : Playback S).late_or_pending cue_id =
      if command.cue_id = cue_id ∧ late = false then
        s.received_late cue_id ++ command ::
          s.queue.pending.filter fun command => decide (command.cue_id = cue_id)
      else s.late_or_pending cue_id := by
  unfold late_or_pending received_late
  rw [hdelivered]
  cases late <;> by_cases h : command.cue_id = cue_id <;> simp [h]

theorem one_abort_accepts (hone : s.OneAbort) (hrunning : s.queue.shutdown ≠ .Aborted) :
    ({ s with queue := { s.queue with pending := s.queue.pending ++ [command] }
              accepted := s.accepted ++ [command] } : Playback S).OneAbort ↔
      command.cue_id ∉ s.queue.terminated_stream_cues := by
  constructor
  · intro h hmem
    obtain ⟨abort, -, hbefore⟩ := hone hrunning _ hmem
    obtain ⟨_, -, hafter⟩ := h hrunning _ hmem
    rw [late_or_pending_accepts, hbefore, if_pos rfl] at hafter
    simp at hafter
  · intro hcue _ cue_id hmem
    obtain ⟨abort, habort, hbefore⟩ := hone hrunning cue_id hmem
    have hother : command.cue_id ≠ cue_id := fun h => hcue (h ▸ hmem)
    refine ⟨abort, habort, ?_⟩
    rw [late_or_pending_accepts, hbefore, if_neg hother]
    rfl

theorem one_abort_aborts {aborted : String} {chunk_index : Nat} {created_at_ms : Nat}
    (hone : s.OneAbort) (hlate : s.LateAborted) (hrunning : s.queue.shutdown ≠ .Aborted)
    (hcue : aborted ∉ s.queue.terminated_stream_cues) :
    ({ s with queue := { s.queue with
                         terminated_stream_cues := insert aborted s.queue.terminated_stream_cues
                         pending := abort_command aborted chunk_index now created_at_ms ::
                           s.queue.pending.filter (fun command => !streams aborted command) } } :
      Playback S).OneAbort ↔
      ¬ Slips capacity s (.abort_stream aborted chunk_index now created_at_ms) := by
  have hnone := received_late_nil hlate hrunning hcue
  constructor
  · rintro h ⟨-, -, command, hmem, hplay, rfl⟩
    obtain ⟨only, -, hafter⟩ := h hrunning _ (Finset.mem_insert_self _ _)
    rw [late_or_pending_aborts, if_pos rfl, hnone, List.nil_append, List.cons.injEq,
      List.filter_eq_nil_iff] at hafter
    exact hafter.2 command hmem (by simp [hplay])
  · intro hcalm _ cue_id hmem
    rw [late_or_pending_aborts]
    by_cases hsame : aborted = cue_id
    · subst hsame
      refine ⟨abort_command aborted chunk_index now created_at_ms, rfl, ?_⟩
      rw [if_pos rfl, hnone, List.filter_eq_nil_iff.mpr, List.nil_append]
      intro command hcommand h
      simp only [Bool.and_eq_true, Bool.not_eq_true', decide_eq_true_eq] at h
      exact hcalm ⟨hrunning, hcue, command, hcommand, h.1, h.2⟩
    · rw [if_neg hsame]
      exact hone hrunning cue_id (Finset.mem_of_mem_insert_of_ne hmem (Ne.symm hsame))

theorem one_abort_returns (hone : s.OneAbort) (hholds : s.Holds)
    (hrunning : s.queue.shutdown ≠ .Aborted) (hheld : s.held = some command) :
    ({ s with queue := { s.queue with pending := command :: s.queue.pending }
              held := none, delivered := s.delivered.dropLast } : Playback S).OneAbort ↔
      ¬ Slips capacity s .return_pending := by
  obtain ⟨_, late, hdelivered⟩ := hholds command hheld
  have hlast : s.held_late ↔ late = true := by simp [held_late, hdelivered]
  constructor
  · rintro h ⟨-, hearly, held, hsame, hmem⟩
    rw [hheld] at hsame
    cases hsame
    rw [hlast, Bool.not_eq_true] at hearly
    obtain ⟨_, -, hbefore⟩ := hone hrunning _ hmem
    obtain ⟨only, -, hafter⟩ := h hrunning _ hmem
    rw [late_or_pending_returns hdelivered, if_pos ⟨rfl, hearly⟩] at hafter
    have hlengths := congrArg List.length hafter
    have hwas := congrArg List.length hbefore
    simp only [late_or_pending, List.length_append, List.length_cons, List.length_nil] at hlengths hwas
    omega
  · intro hcalm _ cue_id hmem
    rw [late_or_pending_returns hdelivered, if_neg]
    · exact hone hrunning cue_id hmem
    · rintro ⟨rfl, hearly⟩
      exact hcalm ⟨hrunning, by simp [hlast, hearly], command, hheld, hmem⟩

/-- A step keeps the aborted cues to their one abort exactly when it does not slip. -/
theorem Effect.one_abort_iff (h : Effect capacity s op s') (hone : s.OneAbort) (hlate : s.LateAborted)
    (hholds : s.Holds) : s'.OneAbort ↔ ¬ Slips capacity s op := by
  cases h with
  | accepts hrunning _ hslips => rw [one_abort_accepts hone hrunning, hslips]
  | aborts hrunning hcue => exact one_abort_aborts hone hlate hrunning hcue
  | delivers hrunning hpending hcalm =>
    refine iff_of_true (fun _ cue_id hmem => ?_) hcalm
    obtain ⟨abort, habort, hbefore⟩ := hone hrunning cue_id hmem
    exact ⟨abort, habort, (late_or_pending_delivers hpending hmem).trans hbefore⟩
  | returns hrunning hheld => exact one_abort_returns hone hholds hrunning hheld
  | forgets haborted => exact iff_of_true (fun hrunning => absurd haborted hrunning) fun hslips => hslips.1 haborted
  | stops => exact iff_of_true (fun hrunning => absurd rfl hrunning) id
  | idles hidle hcalm =>
    refine iff_of_true (fun hrunning cue_id hmem => ?_) hcalm
    unfold late_or_pending received_late
    rw [hidle.delivered, hidle.pending]
    exact hone (mt hidle.aborted.mpr hrunning) cue_id (hidle.cues ▸ hmem)

/-- After the abort of a cue at most one command of it is received, and it is the abort. -/
def AbortIsLast (s : Playback S) : Prop :=
  ∀ cue_id, s.received_late cue_id = [] ∨
    ∃ command, command.is_abort = true ∧ s.received_late cue_id = [command]

theorem OneAbort.is_last (hone : s.OneAbort) (hlate : s.LateAborted) (hrunning : s.queue.shutdown ≠ .Aborted) :
    s.AbortIsLast := by
  intro cue_id
  by_cases hcue : cue_id ∈ s.queue.terminated_stream_cues
  · obtain ⟨abort, habort, hall⟩ := hone hrunning cue_id hcue
    rcases List.append_eq_singleton_iff.mp hall with ⟨hnone, -⟩ | ⟨hsome, -⟩
    · exact .inl hnone
    · exact .inr ⟨abort, habort, hsome⟩
  · exact .inl (received_late_nil hlate hrunning hcue)

theorem received_late_sublist (h : s'.delivered.Sublist s.delivered) (cue_id : String) :
    (s'.received_late cue_id).Sublist (s.received_late cue_id) :=
  (h.filter _).map _

/-- Once the queue is aborted, nothing more is received. -/
theorem Effect.delivered_sublist (h : Effect capacity s op s') (hafter : s'.queue.shutdown = .Aborted) :
    s'.delivered.Sublist s.delivered := by
  cases h with
  | accepts hrunning _ _ => exact absurd hafter hrunning
  | aborts hrunning _ => exact absurd hafter hrunning
  | delivers hrunning _ _ => exact absurd hafter hrunning
  | returns _ _ => exact List.dropLast_sublist _
  | forgets _ => exact List.dropLast_sublist _
  | stops => exact List.Sublist.refl _
  | idles hidle _ => exact hidle.delivered ▸ List.Sublist.refl _

theorem AbortIsLast.mono (h : s.AbortIsLast) (hsub : s'.delivered.Sublist s.delivered) : s'.AbortIsLast := by
  intro cue_id
  have hlate := received_late_sublist hsub cue_id
  rcases h cue_id with hnone | ⟨abort, habort, hone⟩
  · rw [hnone, List.sublist_nil] at hlate
    exact .inl hlate
  · rw [hone, List.sublist_singleton] at hlate
    rcases hlate with hnone | hsame
    · exact .inl hnone
    · exact .inr ⟨abort, habort, hsame⟩

/-! ## Who ends a stream -/

/-- `Terminated` is the answer for a cue whose stream was aborted. -/
theorem enqueue_terminated {unix_ms : Nat} {queue : OmniPlaybackQueueState S}
    (h : (queue.enqueue capacity now unix_ms command).2 = .Terminated) :
    command.cue_id ∈ queue.terminated_stream_cues := by
  unfold enqueue at h
  split at h
  · cases h
  · split at h
    · next hcue => exact hcue.2
    · dsimp only at h
      split at h
      · cases h
      · split at h
        · cases h
        · split at h <;> cases h

theorem Effect.new_cue (h : Effect capacity s op s')
    (hmem : cue_id ∈ s'.queue.terminated_stream_cues) : cue_id ∈ s.queue.terminated_stream_cues ∨
      ∃ chunk_index now created_at_ms, op = .abort_stream cue_id chunk_index now created_at_ms := by
  cases h with
  | aborts _ _ =>
    rcases Finset.mem_insert.mp hmem with rfl | hwas
    · exact .inr ⟨_, _, _, rfl⟩
    · exact .inl hwas
  | stops => cases hmem
  | idles hidle _ => exact .inl (hidle.cues ▸ hmem)
  | _ => exact .inl hmem

theorem terminated_was_aborted (capacity : Nat) (ops : List (Op S))
    (hmem : cue_id ∈ (run (step capacity) {} ops : Playback S).queue.terminated_stream_cues) :
    ∃ chunk_index now created_at_ms, Op.abort_stream cue_id chunk_index now created_at_ms ∈ ops := by
  induction ops using List.reverseRecOn with
  | nil => cases hmem
  | append_singleton _ op ih =>
    rw [run_snoc] at hmem
    rcases (step_effect capacity _ op).new_cue hmem with hwas | ⟨chunk_index, now, created_at_ms, rfl⟩
    · obtain ⟨chunk_index, now, created_at_ms, hbefore⟩ := ih hwas
      exact ⟨chunk_index, now, created_at_ms, List.mem_append_left _ hbefore⟩
    · exact ⟨chunk_index, now, created_at_ms, by simp⟩

/-- A command is answered `Terminated` only for a cue whose stream was aborted before. -/
theorem only_an_aborted_stream_is_terminated (capacity : Nat) (ops : List (Op S)) :
    ∃ s, s = (run (step capacity) {} ops : Playback S) ∧ ∀ now unix_ms command,
      (s.queue.enqueue capacity now unix_ms command).2 = .Terminated →
        ∃ chunk_index now created_at_ms,
          Op.abort_stream command.cue_id chunk_index now created_at_ms ∈ ops :=
  ⟨_, rfl, fun _ _ _ h => terminated_was_aborted capacity ops (enqueue_terminated h)⟩

/-! ## Every run -/

/-- What the worker is given over a run, and after it. -/
structure PlaysOut (capacity : Nat) (ops : List (Op S)) (s : Playback S) : Prop where
  /-- While the queue is not aborted, nothing that was accepted is lost, doubled or moved. -/
  in_order : s.queue.shutdown ≠ .Aborted → s.Kept
  /-- Enough turns of the receive deliver all of it. -/
  delivers : s.queue.shutdown ≠ .Aborted → ∀ turns : List (Op S),
    Along (step capacity) (fun s op => (s.turn op).isSome = true) s turns →
      s.queue.pending.length ≤ turns.length →
        ∃ s', s' = run (step capacity) s turns ∧ s'.accepted = s.accepted ∧
          s'.accepted.filter s'.live = s'.received.filter s'.live
  /-- An orderly stop is answered when all of it was delivered. -/
  stops : ∀ op, s.answer op = some .Stopped → s.queue.shutdown = .Aborted ∨
    (s.queue.shutdown = .Draining ∧ s.accepted.filter s.live = s.received.filter s.live)
  /-- An aborted cue has its abort as its only command in every state, exactly when no step slips. -/
  one_abort : Along (step capacity) (fun s op => (s.step capacity op).OneAbort) {} ops ↔
    Along (step capacity) (fun s op => ¬ Slips capacity s op) {} ops
  /-- Where no step slips, the abort is the last that is received of a cue. -/
  abort_is_last : Along (step capacity) (fun s op => ¬ Slips capacity s op) {} ops → s.AbortIsLast

/-- What every step of a run keeps, slips or not. -/
structure Sound (s : Playback S) : Prop where
  holds : s.Holds
  late_aborted : s.LateAborted

theorem step_sound (capacity : Nat) (s : Playback S) (op : Op S) (h : s.Sound) : (s.step capacity op).Sound :=
  ⟨(step_effect capacity s op).holds h.holds, (step_effect capacity s op).late_aborted h.late_aborted⟩

theorem start_sound : ({} : Playback S).Sound := by
  refine ⟨?_, ?_⟩
  · rintro _ ⟨⟩
  · intro _ delivery hmem
    cases hmem

theorem start_one_abort : ({} : Playback S).OneAbort := by
  intro _ cue_id hmem
  cases hmem

/-- The queue gives the worker what it accepted, in order and once, and stops when all of it is delivered;
and where no command of an aborted cue slips back in, the abort is the last of its cue. -/
theorem queue_plays_out (capacity : Nat) (ops : List (Op S)) :
    PlaysOut capacity ops (run (step capacity) {} ops) := by
  refine ⟨run_kept capacity ops, fun hrunning turns hturns hlength => ?_, fun op hstopped => ?_, ?_, fun hcalm => ?_⟩
  · obtain ⟨hpending, hshutdown, haccepted⟩ := turns_take hrunning hturns
    refine ⟨_, rfl, haccepted, ?_⟩
    have hkept := run_kept capacity (ops ++ turns)
    rw [run_append, hshutdown] at hkept
    have hall := hkept hrunning
    unfold Kept at hall
    rwa [hpending, List.drop_eq_nil_of_le hlength, List.append_nil] at hall
  · by_cases haborted : (run (step capacity) {} ops : Playback S).queue.shutdown = .Aborted
    · exact .inl haborted
    · rcases stopped_is_empty hstopped with h | ⟨hdraining, hempty⟩
      · exact .inl h
      · have hkept := run_kept capacity ops haborted
        unfold Kept at hkept
        rw [hempty, List.append_nil] at hkept
        exact .inr ⟨hdraining, hkept⟩
  · refine Along.congr (fun s : Playback S => s.Sound ∧ s.OneAbort) ⟨start_sound, start_one_abort⟩
      (Along.of_forall (fun _ _ => True) (fun _ _ => trivial) _ _) (fun s op h _ => ?_) fun s op h _ hone => ?_
    · exact (step_effect capacity s op).one_abort_iff h.2 h.1.late_aborted h.1.holds
    · exact ⟨step_sound capacity s op h.1, hone⟩
  · refine (Along.keeps (fun s : Playback S => s.Sound ∧ s.OneAbort ∧ s.AbortIsLast) (fun s op h hcalm => ?_)
      ⟨start_sound, start_one_abort, fun _ => .inl rfl⟩ hcalm).2.2
    have heffect := step_effect capacity s op
    have hsound := step_sound capacity s op h.1
    have hone := (heffect.one_abort_iff h.2.1 h.1.late_aborted h.1.holds).mpr hcalm
    refine ⟨hsound, hone, ?_⟩
    by_cases hafter : (s.step capacity op).queue.shutdown = .Aborted
    · exact h.2.2.mono (heffect.delivered_sublist hafter)
    · exact hone.is_last hsound.late_aborted hafter

end Playback

/-- The start of a stream, as the audio of a response begins it. -/
def sample_start (cue_id : String) : OmniPlaybackCommand Int :=
  .Stream { samples := [11], cue_id, response_id := some cue_id, queued_at := 0, created_at_ms := 0,
            estimated_duration_ms := 10 } 0 .Start

/-- The worker plays `cue-a` and finds the start of `cue-b`; while it holds that, the stream of `cue-b` is
aborted. The worker puts the start back in front of the abort and gives up `cue-a`. -/
def overtaken : List (Op Int) :=
  [.enqueue 0 0 (sample_start "cue-a"), .recv 0 1, .enqueue 0 0 (sample_start "cue-b"), .recv 0 1,
    .abort_stream "cue-b" 1 0 0, .return_pending, .abort_stream "cue-a" 1 0 0, .finish_active,
    .recv 0 1, .recv 0 1, .recv 0 1]

/-- Then it receives the start of the aborted cue, and after it the abort. -/
theorem aborted_start_comes_back : ¬ (run (Playback.step 8) {} overtaken : Playback Int).AbortIsLast := by
  intro h
  have hlate : (run (Playback.step 8) {} overtaken : Playback Int).received_late "cue-b" =
      [sample_start "cue-b", OmniPlaybackQueueState.abort_command "cue-b" 1 0 0] := by
    decide +kernel
  rcases h "cue-b" with hnone | ⟨_, -, hone⟩
  · rw [hlate] at hnone
    cases hnone
  · rw [hlate] at hone
    cases hone

end omni_translate.native_playback
