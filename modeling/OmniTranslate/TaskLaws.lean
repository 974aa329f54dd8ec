-- The order of what a speech task answers: sentences come one by one, sound
-- only where it was announced, and nothing comes after the end or a failure.
import OmniTranslate.TaskLifecycle

namespace omni_translate.bailian_tasks

open json runs

/-! ## Reading a history -/

def received : Call × Reply → Bool
  | (.receive _, _) => true
  | _ => false

/-- The output of a frame that was taken. -/
def answer : Call × Reply → Option TaskOutput
  | (_, .output (.ok output)) => some output
  | _ => none

def refused : Call × Reply → Bool
  | (_, .output (.error _)) => true
  | _ => false

def finish_sent : Call × Reply → Bool
  | (.finish, .command (.ok _)) => true
  | _ => false

variable (e : Call × Reply)

/-- The identity of a final transcript. -/
def final_id : Option Nat :=
  match answer e with
  | some (.transcript id _ true) => some id
  | _ => none

def preview_id : Option Nat :=
  match answer e with
  | some (.transcript id _ false) => some id
  | _ => none

def is_audio : Bool :=
  match answer e with
  | some (.audio _) => true
  | _ => false

variable (serde : Serde)

/-- The synthesis result that a frame carries. -/
def tts_output_of (text : String) : Option TtsOutput := do
  let envelope ← (serde.envelope text).toOption
  let output ← envelope.payload.get "output"
  (serde.tts_output output).toOption

/-- The sentence of a synthesis result of one kind that was taken. -/
def tts_index (kind : String) : Call × Reply → Option Nat
  | (.receive (.text text), .output (.ok .metadata)) =>
    ((tts_output_of serde text).filter (·.kind = kind)).map (·.index)
  | _ => none

def begins := tts_index serde "sentence-begin"

def synthesizes := tts_index serde "sentence-synthesis"

def closes := tts_index serde "sentence-end"

/-- The identities of the final transcripts, in order. -/
def finals (log : History) : List Nat := log.filterMap final_id

/-- The sentences that synthesis has closed, in order. -/
def closed (log : History) : List Nat := log.filterMap (closes serde)

/-- The last frame was a synthesis result of the open sentence. -/
def Announced (log : History) : Prop :=
  ∃ before e after i, log = before ++ e :: after ∧ synthesizes serde e = some i ∧
    (∀ f ∈ after, received f = false) ∧ (∃ g ∈ before, begins serde g = some i) ∧
    i ∉ closed serde before

/-- Sound came after the sentence was begun. -/
def Heard (i : Nat) (log : History) : Prop :=
  ∃ before e after, log = before ++ e :: after ∧ begins serde e = some i ∧
    ∃ f ∈ after, is_audio f = true

/-- No sound that was announced is missing. -/
def NothingOwed (serde : Serde) (log : History) : Prop :=
  ∀ before e after i, log = before ++ e :: after → synthesizes serde e = some i →
    ∃ f ∈ after, is_audio f = true

/-- What the history of a task keeps to. -/
structure Orderly (serde : Serde) (role : TaskRole) (log : History) : Prop where
  failure : Each (fun before e => received e = true → (∃ f ∈ before, refused f = true) →
    refused e = true) log
  finals : finals log = List.range' 1 (finals log).length
  previews : Each (fun before e => ∀ k, preview_id e = some k →
    1 ≤ k ∧ bailian_tasks.finals before = List.range' 1 (k - 1)) log
  audio : Each (fun before e => is_audio e = true → role = .tts ∧ Announced serde before) log
  closed : role = .tts → closed serde log = List.range (closed serde log).length
  heard : role = .tts → Each (fun before e => ∀ i, closes serde e = some i →
    Heard serde i before) log
  finished : Each (fun before e => answer e = some .finished →
    (∃ f ∈ before, finish_sent f = true) ∧
    (∀ f ∈ before, ∀ k, preview_id f = some k → k ∈ bailian_tasks.finals before) ∧
    (role = .tts → (∀ f ∈ before, ∀ i, begins serde f = some i →
      i ∈ bailian_tasks.closed serde before) ∧ NothingOwed serde before)) log
  last : Each (fun before e => (∃ f ∈ before, answer f = some .finished) → answer e = none) log

/-! ## What a frame can do -/

variable {serde : Serde} {l l' : TaskLifecycle} {log : History}

/-- The effect of a frame that was taken. -/
inductive Taken (serde : Serde) (l : TaskLifecycle) : Message → TaskLifecycle → TaskOutput → Prop
  | started (text) (hphase : l.phase = .awaiting_started) (hpending : l.pending_binary = false) :
    Taken serde l (.text text) { l with phase := .active } .started
  | heartbeat (text) (hrole : l.role = .asr) (hlive : l.phase = .active ∨ l.phase = .finishing) :
    Taken serde l (.text text) l .metadata
  | preview (text words) (hrole : l.role = .asr) (hlive : l.phase = .active ∨ l.phase = .finishing) :
    Taken serde l (.text text) { l with active_sentence := some l.next_sentence }
      (.transcript l.next_sentence words false)
  | final (text words) (hrole : l.role = .asr) (hlive : l.phase = .active ∨ l.phase = .finishing) :
    Taken serde l (.text text)
      { l with active_sentence := none, next_sentence := l.next_sentence + 1 }
      (.transcript l.next_sentence words true)
  | sentence_begin (text output words) (hrole : l.role = .tts)
    (hlive : l.phase = .active ∨ l.phase = .finishing) (hsent : l.tts_text_sent = true)
    (houtput : tts_output_of serde text = some output)
    (hkind : output.kind = "sentence-begin") (hindex : output.index = l.next_sentence)
    (hactive : l.active_sentence = none) (hpending : l.pending_binary = false) :
    Taken serde l (.text text)
      { l with
        active_sentence := some l.next_sentence, sentence_text := some words
        sentence_audio_received := false } .metadata
  | sentence_synthesis (text output) (hrole : l.role = .tts)
    (hlive : l.phase = .active ∨ l.phase = .finishing)
    (houtput : tts_output_of serde text = some output)
    (hkind : output.kind = "sentence-synthesis") (hindex : output.index = l.next_sentence)
    (hactive : l.active_sentence = some l.next_sentence) (hpending : l.pending_binary = false) :
    Taken serde l (.text text) { l with pending_binary := true } .metadata
  | sentence_end (text output) (hrole : l.role = .tts)
    (hlive : l.phase = .active ∨ l.phase = .finishing)
    (houtput : tts_output_of serde text = some output)
    (hkind : output.kind = "sentence-end") (hindex : output.index = l.next_sentence)
    (hactive : l.active_sentence = some l.next_sentence) (hpending : l.pending_binary = false)
    (hheard : l.sentence_audio_received = true) :
    Taken serde l (.text text)
      { l with
        active_sentence := none, sentence_text := none
        next_sentence := l.next_sentence + 1 } .metadata
  | finished (text) (hphase : l.phase = .finishing) (hactive : l.active_sentence = none)
    (hpending : l.pending_binary = false) :
    Taken serde l (.text text) { l with phase := .finished } .finished
  | audio (bytes pcm) (hlive : ¬ (l.phase = .new ∨ l.phase = .failed ∨ l.phase = .finished))
    (hrole : l.role = .tts) (hpending : l.pending_binary = true) :
    Taken serde l (.binary bytes)
      { l with pending_binary := false, sentence_audio_received := true } (.audio pcm)

theorem next_identity_ok {n : Nat} (h : l.next_identity = .ok n) : n = l.next_sentence + 1 := by
  unfold TaskLifecycle.next_identity at h
  split at h <;> simp_all

variable {out : TaskOutput}

theorem asr_result_taken {output : Value} (text : String) (hrole : l.role = .asr)
    (hlive : l.phase = .active ∨ l.phase = .finishing)
    (h : l.asr_result serde output = (l', .ok out)) : Taken serde l (.text text) l' out := by
  unfold TaskLifecycle.asr_result at h
  split at h
  · simp at h
  split at h
  · split at h
    · simp at h
    split at h
    · simp at h
    · obtain ⟨rfl, rfl⟩ : l = l' ∧ TaskOutput.metadata = out := by simpa using h
      exact .heartbeat text hrole hlive
  split at h
  · simp at h
  rename_i sentence _
  unfold TaskLifecycle.asr_sentence at h
  split at h
  · split at h
    · simp at h
    · obtain ⟨rfl, rfl⟩ : l = l' ∧ TaskOutput.metadata = out := by simpa using h
      exact .heartbeat text hrole hlive
  split at h
  · simp at h
  rename_i _ hid
  have hid : sentence.sentence_id = l.next_sentence := by
    by_contra hne
    exact hid (.inl hne)
  split at h
  · simp at h
  split at h
  · simp at h
  split at h
  · split at h
    · dsimp only at h
      split at h
      · simp at h
      · rename_i _ hnext
        obtain ⟨rfl, rfl⟩ : _ = l' ∧ _ = out := by simpa only [Prod.mk.injEq, Except.ok.injEq] using h
        rw [next_identity_ok hnext, hid]
        exact .final text _ hrole hlive
    · simp at h
  split at h
  · simp at h
  · obtain ⟨rfl, rfl⟩ : _ = l' ∧ _ = out := by simpa only [Prod.mk.injEq, Except.ok.injEq] using h
    rw [hid]
    exact .preview text _ hrole hlive

variable {text : String}

theorem tts_result_taken {output : Value} {envelope : Envelope}
    (htext : serde.envelope text = .ok envelope)
    (houtput : envelope.payload.get "output" = some output) (hrole : l.role = .tts)
    (hlive : l.phase = .active ∨ l.phase = .finishing) (hpending : l.pending_binary = false)
    (h : l.tts_result serde output = (l', .ok out)) : Taken serde l (.text text) l' out := by
  unfold TaskLifecycle.tts_result at h
  split at h
  · simp at h
  rename_i hsent
  split at h
  · simp at h
  rename_i decoded hdecoded
  have hof : tts_output_of serde text = some decoded := by
    simp [tts_output_of, htext, houtput, hdecoded, Except.toOption]
  unfold TaskLifecycle.tts_sentence at h
  split at h
  · simp at h
  rename_i hindex
  have hindex : decoded.index = l.next_sentence := not_not.mp hindex
  rw [hindex] at h
  split at h
  · rename_i hbegin
    split at h
    · simp at h
    · obtain ⟨rfl, rfl⟩ : _ = l' ∧ _ = out := by simpa only [Prod.mk.injEq, Except.ok.injEq] using h
      exact .sentence_begin text decoded _ hrole hlive (by simpa using hsent) hof hbegin.1 hindex
        hbegin.2 hpending
  split at h
  · rename_i hsynthesis
    obtain ⟨rfl, rfl⟩ : _ = l' ∧ _ = out := by simpa only [Prod.mk.injEq, Except.ok.injEq] using h
    exact .sentence_synthesis text decoded hrole hlive hof hsynthesis.1 hindex hsynthesis.2 hpending
  split at h
  · rename_i hend
    split at h
    · simp at h
    rename_i hheard
    split at h
    · simp at h
    dsimp only at h
    split at h
    · simp at h
    · rename_i _ hnext
      obtain ⟨rfl, rfl⟩ : _ = l' ∧ _ = out := by simpa only [Prod.mk.injEq, Except.ok.injEq] using h
      rw [next_identity_ok hnext]
      exact .sentence_end text decoded hrole hlive hof hend.1 hindex hend.2 hpending
        (by simpa using hheard)
  · simp at h

theorem receive_event_taken {envelope : Envelope} (htext : serde.envelope text = .ok envelope)
    (hpending : l.pending_binary = true → envelope.header.event = "task-failed")
    (h : l.receive_event serde envelope = (l', .ok out)) : Taken serde l (.text text) l' out := by
  unfold TaskLifecycle.receive_event at h
  dsimp only at h
  split at h
  · simp at h
  rename_i hevent
  have hpending : l.pending_binary = false := by
    by_contra hne
    exact hevent (hpending (by simpa using hne))
  split at h
  · rename_i hstarted
    obtain ⟨rfl, rfl⟩ : _ = l' ∧ _ = out := by simpa only [Prod.mk.injEq, Except.ok.injEq] using h
    exact .started text hstarted.2 hpending
  split at h
  · rename_i hresult
    split at h
    · simp at h
    rename_i _ houtput
    split at h
    · exact asr_result_taken text ‹_› hresult.2 h
    · exact tts_result_taken htext houtput ‹_› hresult.2 hpending h
  split at h
  · rename_i hfinished
    split at h
    · simp at h
    · rename_i hopen
      obtain ⟨rfl, rfl⟩ : _ = l' ∧ _ = out := by simpa only [Prod.mk.injEq, Except.ok.injEq] using h
      refine .finished text hfinished.2 ?_ hpending
      simpa using fun hsome => hopen (.inl hsome)
  · simp at h

variable {message : Message}

theorem receive_inner_taken (h : l.receive_inner serde message = (l', .ok out)) :
    Taken serde l message l' out := by
  unfold TaskLifecycle.receive_inner at h
  split at h
  · simp at h
  rename_i hlive
  split at h
  · split at h
    · simp at h
    rename_i _ htext
    split at h
    · simp at h
    split at h
    · simp at h
    split at h
    · simp at h
    · rename_i hbinary
      refine receive_event_taken htext (fun hp => ?_) h
      by_contra hne
      exact hbinary ⟨hp, hne⟩
  · split at h
    · simp at h
    · rename_i hbad
      obtain ⟨rfl, rfl⟩ : _ = l' ∧ _ = out := by simpa only [Prod.mk.injEq, Except.ok.injEq] using h
      refine .audio _ _ hlive ?_ ?_
      · by_contra hne
        exact hbad (.inl hne)
      · by_contra hne
        exact hbad (.inr (.inl (by simpa using hne)))
  · simp at h

/-! ## What an entry adds to a history -/

variable {e : Call × Reply}

@[simp] theorem finals_nil : finals [] = [] := rfl

@[simp] theorem finals_snoc : finals (log ++ [e]) = finals log ++ (final_id e).toList := by
  cases h : final_id e <;> simp [finals, h]

@[simp] theorem closed_nil : closed serde [] = [] := rfl

@[simp] theorem closed_snoc :
    closed serde (log ++ [e]) = closed serde log ++ (closes serde e).toList := by
  cases h : closes serde e <;> simp [closed, h]

@[simp] theorem tts_index_none {kind : String} (h : answer e = none) :
    tts_index serde kind e = none := by
  unfold tts_index
  split
  · simp [answer] at h
  · rfl

variable {output : TtsOutput}

theorem tts_index_eq {kind text : String} (h : tts_output_of serde text = some output) :
    tts_index serde kind (.receive (.text text), .output (.ok .metadata))
      = if output.kind = kind then some output.index else none := by
  by_cases hkind : output.kind = kind <;> simp [tts_index, h, Option.filter, hkind]

theorem Heard.snoc {i : Nat} (h : Heard serde i log) : Heard serde i (log ++ [e]) := by
  obtain ⟨before, g, after, rfl, hbegin, f, hf, haudio⟩ := h
  exact ⟨before, g, after ++ [e], by simp, hbegin, f, by simp [hf], haudio⟩

theorem Heard.first {i : Nat} (h : ∃ f ∈ log, begins serde f = some i) (haudio : is_audio e = true) :
    Heard serde i (log ++ [e]) := by
  obtain ⟨f, hf, hbegin⟩ := h
  obtain ⟨before, after, rfl⟩ := List.append_of_mem hf
  exact ⟨before, f, after ++ [e], by simp, hbegin, e, by simp, haudio⟩

theorem Announced.snoc (h : Announced serde log) (hr : received e = false) :
    Announced serde (log ++ [e]) := by
  obtain ⟨before, s, after, i, rfl, hs, hquiet, hopen⟩ := h
  refine ⟨before, s, after ++ [e], i, by simp, hs, fun f hf => ?_, hopen⟩
  rcases List.mem_append.mp hf with hf | hf
  · exact hquiet f hf
  · rw [List.mem_singleton.mp hf]
    exact hr

theorem NothingOwed.snoc (h : NothingOwed serde log) (hs : synthesizes serde e = none) :
    NothingOwed serde (log ++ [e]) := by
  intro before s after i hlog hsyn
  rcases split_snoc hlog with ⟨-, -, rfl⟩ | ⟨rest, rfl, hold⟩
  · rw [hs] at hsyn
    cases hsyn
  · obtain ⟨f, hf, haudio⟩ := h before s rest i hold hsyn
    exact ⟨f, by simp [hf], haudio⟩

theorem NothingOwed.paid (haudio : is_audio e = true) (hs : synthesizes serde e = none) :
    NothingOwed serde (log ++ [e]) := by
  intro before s after i hlog hsyn
  rcases split_snoc hlog with ⟨-, -, rfl⟩ | ⟨_, rfl, -⟩
  · rw [hs] at hsyn
    cases hsyn
  · exact ⟨e, by simp, haudio⟩

/-! ## What the state says of the history -/

/-- The transcripts so far. -/
structure Words (l : TaskLifecycle) (log : History) : Prop where
  next : l.role = .asr → l.next_sentence = (finals log).length + 1
  finals : finals log = List.range' 1 (finals log).length
  previews : l.role = .asr → ∀ f ∈ log, ∀ k, preview_id f = some k →
    k ∈ bailian_tasks.finals log ∨ l.active_sentence = some k
  active : l.role = .asr → ∀ k, l.active_sentence = some k → k = l.next_sentence
  silent : l.role = .tts → bailian_tasks.finals log = [] ∧ ∀ f ∈ log, preview_id f = none

/-- The sound so far. -/
structure Sound (serde : Serde) (l : TaskLifecycle) (log : History) : Prop where
  closed : closed serde log = List.range l.next_sentence
  begun : ∀ f ∈ log, ∀ i, begins serde f = some i →
    i ∈ bailian_tasks.closed serde log ∨ l.active_sentence = some i
  active : ∀ i, l.active_sentence = some i → i = l.next_sentence ∧ ∃ f ∈ log, begins serde f = some i
  heard : l.sentence_audio_received = true → ∀ i, l.active_sentence = some i → Heard serde i log
  pending : l.pending_binary = true → Announced serde log
  owed : l.pending_binary = false → NothingOwed serde log

/-- How far the task is. -/
structure Stage (l : TaskLifecycle) (log : History) : Prop where
  finish : l.phase = .finishing ∨ l.phase = .finished → ∃ f ∈ log, finish_sent f = true
  finished : (∃ f ∈ log, answer f = some .finished) → l.phase = .finished

structure Live (serde : Serde) (l : TaskLifecycle) (log : History) : Prop where
  stage : Stage l log
  words : Words l log
  sound : l.role = .tts → Sound serde l log

/-- A refused frame poisons the task; a task that is not poisoned knows its history. -/
structure Tracks (serde : Serde) (l : TaskLifecycle) (log : History) : Prop where
  poisoned : (∃ f ∈ log, refused f = true) → l.phase = .failed
  live : l.phase ≠ .failed → Live serde l log

/-! ## Commands -/

theorem mem_snoc {P : Call × Reply → Prop} :
    (∃ f ∈ log ++ [e], P f) ↔ (∃ f ∈ log, P f) ∨ P e := by
  simp [or_and_right, exists_or]

theorem forall_snoc {P : Call × Reply → Prop} :
    (∀ f ∈ log ++ [e], P f) ↔ (∀ f ∈ log, P f) ∧ P e := by
  simp [or_imp, forall_and]

theorem final_id_none (h : answer e = none) : final_id e = none := by simp [final_id, h]

theorem preview_id_none (h : answer e = none) : preview_id e = none := by simp [preview_id, h]

theorem Words.command (h : Words l log) (p : Phase) (b : Bool) (ha : answer e = none) :
    Words { l with phase := p, tts_text_sent := b } (log ++ [e]) where
  next := by simpa [final_id_none ha] using h.next
  finals := by simpa [final_id_none ha] using h.finals
  previews := by
    intro hrole
    rw [forall_snoc]
    simpa [final_id_none ha, preview_id_none ha] using h.previews hrole
  active := h.active
  silent := by
    intro hrole
    rw [forall_snoc]
    simpa [final_id_none ha, preview_id_none ha] using h.silent hrole

theorem Sound.command (h : Sound serde l log) (p : Phase) (b : Bool) (ha : answer e = none)
    (hr : received e = false) :
    Sound serde { l with phase := p, tts_text_sent := b } (log ++ [e]) where
  closed := by simpa [closes, ha] using h.closed
  begun := by
    rw [forall_snoc]
    simpa [closes, begins, ha] using h.begun
  active := by
    intro i hi
    refine ⟨(h.active i hi).1, ?_⟩
    rw [mem_snoc]
    exact .inl (h.active i hi).2
  heard := fun hheard i hi => (h.heard hheard i hi).snoc
  pending := fun hpending => (h.pending hpending).snoc hr
  owed := fun hpending => (h.owed hpending).snoc (tts_index_none ha)

theorem Live.command (h : Live serde l log) (p : Phase) (b : Bool) (ha : answer e = none)
    (hr : received e = false) (hstage : Stage { l with phase := p, tts_text_sent := b } (log ++ [e])) :
    Live serde { l with phase := p, tts_text_sent := b } (log ++ [e]) where
  stage := hstage
  words := h.words.command p b ha
  sound := fun hrole => (h.sound hrole).command p b ha hr

theorem Tracks.command (h : Tracks serde l log) (p : Phase) (b : Bool) (result : Except TaskError Value)
    {c : Call} (hc : received (c, .command result) = false)
    (hfailed : p = .failed ↔ l.phase = .failed)
    (hstage : Stage l log →
      Stage { l with phase := p, tts_text_sent := b } (log ++ [(c, .command result)])) :
    Tracks serde { l with phase := p, tts_text_sent := b } (log ++ [(c, .command result)]) where
  poisoned := by
    rw [mem_snoc]
    rintro (hold | hnew)
    · exact hfailed.mpr (h.poisoned hold)
    · simp [refused] at hnew
  live := by
    intro hp
    have hlive := h.live fun hf => hp (hfailed.mpr hf)
    exact hlive.command p b rfl hc (hstage hlive.stage)

/-- A command that changes nothing but what was sent. -/
theorem Tracks.sent (h : Tracks serde l log) (b : Bool) (result : Except TaskError Value) {c : Call}
    (hc : received (c, .command result) = false) :
    Tracks serde { l with tts_text_sent := b } (log ++ [(c, .command result)]) := by
  refine h.command l.phase b result hc Iff.rfl fun hstage => ⟨fun hp => ?_, ?_⟩
  · rw [mem_snoc]
    exact .inl (hstage.finish hp)
  · rw [mem_snoc]
    rintro (hold | hnew)
    · exact hstage.finished hold
    · simp [answer] at hnew

theorem Tracks.refused_command (h : Tracks serde l log) (result : Except TaskError Value) {c : Call}
    (hc : received (c, .command result) = false) : Tracks serde l (log ++ [(c, .command result)]) :=
  h.sent l.tts_text_sent result hc

theorem run_effect (l : TaskLifecycle) (model voice language : String) :
    (l.run model voice language).1 = l ∨
      l.phase = .new ∧ (l.run model voice language).1 = { l with phase := .awaiting_started } := by
  unfold TaskLifecycle.run
  split
  · exact .inl rfl
  rename_i hnew
  split
  · exact .inl rfl
  split
  · exact .inl rfl
  split
  · exact .inl rfl
  · exact .inr ⟨not_not.mp hnew, rfl⟩

theorem Tracks.run (h : Tracks serde l log) (model voice language : String) :
    Tracks serde (l.run model voice language).1
      (log ++ [(.run model voice language, .command (l.run model voice language).2)]) := by
  rcases run_effect l model voice language with hsame | ⟨hnew, hrun⟩
  · rw [hsame]
    exact h.refused_command _ rfl
  · rw [hrun]
    refine h.command .awaiting_started l.tts_text_sent _ rfl (by simp [hnew]) fun hstage => ⟨?_, ?_⟩
    · simp
    · rw [mem_snoc]
      rintro (hold | hlast)
      · have := hstage.finished hold
        simp [hnew] at this
      · simp [answer] at hlast

theorem continue_text_effect (l : TaskLifecycle) (text : String) :
    ∃ b, (l.continue_text text).1 = { l with tts_text_sent := b } := by
  unfold TaskLifecycle.continue_text
  split
  · exact ⟨l.tts_text_sent, rfl⟩
  split
  · exact ⟨l.tts_text_sent, rfl⟩
  · exact ⟨true, rfl⟩

theorem finish_effect (l : TaskLifecycle) :
    l.finish.1 = l ∨ l.phase = .active ∧ l.finish.1 = { l with phase := .finishing } ∧
      ∃ v, l.finish.2 = .ok v := by
  unfold TaskLifecycle.finish
  split
  · exact .inl rfl
  · rename_i hactive
    refine .inr ⟨?_, rfl, _, rfl⟩
    by_contra hne
    exact hactive (.inl hne)

theorem Tracks.finish (h : Tracks serde l log) :
    Tracks serde l.finish.1 (log ++ [(.finish, .command l.finish.2)]) := by
  rcases finish_effect l with hsame | ⟨hactive, hfinish, _, hv⟩
  · rw [hsame]
    exact h.refused_command _ rfl
  · rw [hfinish, hv]
    refine h.command .finishing l.tts_text_sent _ rfl (by simp [hactive]) fun hstage => ⟨fun _ => ?_, ?_⟩
    · rw [mem_snoc]
      exact .inr rfl
    · rw [mem_snoc]
      rintro (hold | hlast)
      · have := hstage.finished hold
        simp [hactive] at this
      · simp [answer] at hlast

/-! ## Frames -/

theorem Taken.phase (h : Taken serde l message l' out) :
    l.phase ≠ .failed ∧ l.phase ≠ .finished ∧ l'.phase ≠ .failed := by
  cases h with
  | started text hphase => simp [hphase]
  | heartbeat text hrole hlive => rcases hlive with hp | hp <;> simp [hp]
  | preview text words hrole hlive => rcases hlive with hp | hp <;> simp [hp]
  | final text words hrole hlive => rcases hlive with hp | hp <;> simp [hp]
  | sentence_begin text output words hrole hlive => rcases hlive with hp | hp <;> simp [hp]
  | sentence_synthesis text output hrole hlive => rcases hlive with hp | hp <;> simp [hp]
  | sentence_end text output hrole hlive => rcases hlive with hp | hp <;> simp [hp]
  | finished text hphase => simp [hphase]
  | audio _ _ hlive =>
    push Not at hlive
    exact ⟨hlive.2.1, hlive.2.2, hlive.2.1⟩

theorem Taken.role (h : Taken serde l message l' out) : l'.role = l.role := by
  cases h <;> rfl

theorem Stage.taken (hstage : Stage l log) (h : Taken serde l message l' out) :
    Stage l' (log ++ [(.receive message, .output (.ok out))]) where
  finish := by
    intro hp
    rw [mem_snoc]
    refine .inl (hstage.finish ?_)
    cases h with
    | started text hphase => simp at hp
    | finished text hphase => exact .inl hphase
    | _ => exact hp
  finished := by
    rw [mem_snoc]
    rintro (hold | hnew)
    · exact absurd (hstage.finished hold) h.phase.2.1
    · cases h <;> simp [answer] at hnew ⊢

theorem Words.taken (hwords : Words l log) (h : Taken serde l message l' out) :
    Words l' (log ++ [(.receive message, .output (.ok out))]) := by
  -- a frame that is no transcript leaves the words as they are
  have hquiet : final_id (.receive message, .output (.ok out)) = none →
      preview_id (.receive message, .output (.ok out)) = none →
      (l.role = .asr → l'.next_sentence = l.next_sentence ∧ l'.active_sentence = l.active_sentence) →
      Words l' (log ++ [(.receive message, .output (.ok out))]) := by
    intro hf hp hsame
    refine ⟨fun hr => ?_, ?_, fun hr => ?_, fun hr => ?_, fun hr => ?_⟩
    · rw [h.role] at hr
      simpa [hf, (hsame hr).1] using hwords.next hr
    · simpa [hf] using hwords.finals
    · rw [h.role] at hr
      rw [forall_snoc]
      simpa [hf, hp, (hsame hr).2] using hwords.previews hr
    · rw [h.role] at hr
      simpa [hsame hr] using hwords.active hr
    · rw [h.role] at hr
      rw [forall_snoc]
      simpa [hf, hp] using hwords.silent hr
  cases h with
  | preview text words hrole hlive =>
    refine ⟨fun _ => ?_, ?_, fun _ => ?_, fun _ => ?_, fun hr => ?_⟩
    · simpa [final_id, answer] using hwords.next hrole
    · simpa [final_id, answer] using hwords.finals
    · rw [forall_snoc]
      refine ⟨fun f hf k hk => ?_, fun k hk => ?_⟩
      · -- what was open before is this sentence
        rcases hwords.previews hrole f hf k hk with hfinal | hactive
        · exact .inl (by simp [hfinal])
        · exact .inr (congrArg some (hwords.active hrole k hactive).symm)
      · exact .inr (by simpa [preview_id, answer] using hk)
    · simp
    · simp [hrole] at hr
  | final text words hrole hlive =>
    have hnext := hwords.next hrole
    refine ⟨fun _ => ?_, ?_, fun _ => ?_, fun _ => ?_, fun hr => ?_⟩
    · simp [final_id, answer, hnext]
    · have hfinals := hwords.finals
      simp only [finals_snoc, final_id, answer, Option.toList_some, List.length_append,
        List.length_singleton]
      rw [List.range'_concat, ← hfinals, hnext]
      simp [Nat.add_comm]
    · rw [forall_snoc]
      refine ⟨fun f hf k hk => ?_, fun k hk => ?_⟩
      · rcases hwords.previews hrole f hf k hk with hfinal | hactive
        · exact .inl (by simp [hfinal])
        · simp [final_id, answer, hwords.active hrole k hactive]
      · simp [preview_id, answer] at hk
    · simp
    · simp [hrole] at hr
  | started text hphase => exact hquiet rfl rfl fun _ => ⟨rfl, rfl⟩
  | heartbeat text hrole hlive => exact hquiet rfl rfl fun _ => ⟨rfl, rfl⟩
  | sentence_begin text output words hrole => exact hquiet rfl rfl fun hr => by simp [hrole] at hr
  | sentence_synthesis text output hrole => exact hquiet rfl rfl fun hr => by simp [hrole] at hr
  | sentence_end text output hrole => exact hquiet rfl rfl fun hr => by simp [hrole] at hr
  | finished text hphase => exact hquiet rfl rfl fun _ => ⟨rfl, rfl⟩
  | audio _ _ hlive hrole => exact hquiet rfl rfl fun _ => ⟨rfl, rfl⟩

section

variable (h : Sound serde l log)

include h

/-- A frame that is no synthesis result and no sound leaves the sound as it is. -/
theorem Sound.other
    (hout : ∀ kind, tts_index serde kind (.receive message, .output (.ok out)) = none)
    (hpending : l.pending_binary = false) (p : Phase) :
    Sound serde { l with phase := p } (log ++ [(.receive message, .output (.ok out))]) where
  closed := by simpa [closes, hout] using h.closed
  begun := by
    rw [forall_snoc]
    simpa [closes, begins, hout] using h.begun
  active := by
    intro i hi
    refine ⟨(h.active i hi).1, ?_⟩
    rw [mem_snoc]
    exact .inl (h.active i hi).2
  heard := fun hheard i hi => (h.heard hheard i hi).snoc
  pending := fun hp => by simp [hpending] at hp
  owed := fun _ => (h.owed hpending).snoc (hout _)

theorem Sound.sentence_begin {text words : String}
    (houtput : tts_output_of serde text = some output) (hkind : output.kind = "sentence-begin")
    (hindex : output.index = l.next_sentence) (hactive : l.active_sentence = none)
    (hpending : l.pending_binary = false) :
    Sound serde
      { l with
        active_sentence := some l.next_sentence, sentence_text := some words
        sentence_audio_received := false }
      (log ++ [(.receive (.text text), .output (.ok .metadata))]) where
  closed := by simpa [closes, tts_index_eq houtput, hkind] using h.closed
  begun := by
    rw [forall_snoc]
    refine ⟨fun f hf i hi => ?_, fun i hi => ?_⟩
    · rcases h.begun f hf i hi with hclosed | hopen
      · exact .inl (by simp [hclosed])
      · simp [hactive] at hopen
    · refine .inr ?_
      simpa [begins, tts_index_eq houtput, hkind, hindex] using hi
  active := by
    intro i hi
    obtain rfl : l.next_sentence = i := by simpa using hi
    refine ⟨rfl, ?_⟩
    rw [mem_snoc]
    exact .inr (by simp [begins, tts_index_eq houtput, hkind, hindex])
  heard := by simp
  pending := fun hp => by simp [hpending] at hp
  owed := fun _ => (h.owed hpending).snoc (by simp [synthesizes, tts_index_eq houtput, hkind])

theorem Sound.sentence_synthesis (houtput : tts_output_of serde text = some output)
    (hkind : output.kind = "sentence-synthesis") (hindex : output.index = l.next_sentence)
    (hactive : l.active_sentence = some l.next_sentence) :
    Sound serde { l with pending_binary := true }
      (log ++ [(.receive (.text text), .output (.ok .metadata))]) where
  closed := by simpa [closes, tts_index_eq houtput, hkind] using h.closed
  begun := by
    rw [forall_snoc]
    simpa [closes, begins, tts_index_eq houtput, hkind] using h.begun
  active := by
    intro i hi
    refine ⟨(h.active i hi).1, ?_⟩
    rw [mem_snoc]
    exact .inl (h.active i hi).2
  heard := fun hheard i hi => (h.heard hheard i hi).snoc
  pending := by
    intro _
    refine ⟨log, _, [], l.next_sentence, rfl, ?_, by simp, (h.active _ hactive).2, ?_⟩
    · simp [synthesizes, tts_index_eq houtput, hkind, hindex]
    · simp [h.closed]
  owed := by simp

theorem Sound.sentence_end (houtput : tts_output_of serde text = some output)
    (hkind : output.kind = "sentence-end") (hindex : output.index = l.next_sentence)
    (hpending : l.pending_binary = false) :
    Sound serde
      { l with
        active_sentence := none, sentence_text := none
        next_sentence := l.next_sentence + 1 }
      (log ++ [(.receive (.text text), .output (.ok .metadata))]) where
  closed := by simp [closes, tts_index_eq houtput, hkind, hindex, h.closed, List.range_succ]
  begun := by
    rw [forall_snoc]
    refine ⟨fun f hf i hi => .inl ?_, fun i hi => ?_⟩
    · rcases h.begun f hf i hi with hclosed | hopen
      · simp [hclosed]
      · simp [closes, tts_index_eq houtput, hkind, hindex, (h.active i hopen).1]
    · simp [begins, tts_index_eq houtput, hkind] at hi
  active := by simp
  heard := by simp
  pending := fun hp => by simp [hpending] at hp
  owed := fun _ => (h.owed hpending).snoc (by simp [synthesizes, tts_index_eq houtput, hkind])

theorem Sound.audio {bytes : List UInt8} {pcm : List Int16} :
    Sound serde { l with pending_binary := false, sentence_audio_received := true }
      (log ++ [(.receive (.binary bytes), .output (.ok (.audio pcm)))]) where
  closed := by simpa [closes, tts_index] using h.closed
  begun := by
    rw [forall_snoc]
    simpa [closes, begins, tts_index] using h.begun
  active := by
    intro i hi
    refine ⟨(h.active i hi).1, ?_⟩
    rw [mem_snoc]
    exact .inl (h.active i hi).2
  heard := fun _ i hi => Heard.first (h.active i hi).2 rfl
  pending := by simp
  owed := fun _ => NothingOwed.paid rfl rfl

end

theorem Sound.taken (hsound : Sound serde l log) (htts : l.role = .tts)
    (h : Taken serde l message l' out) :
    Sound serde l' (log ++ [(.receive message, .output (.ok out))]) := by
  cases h with
  | started text hphase hpending => exact hsound.other (fun _ => rfl) hpending .active
  | heartbeat text hrole => simp [hrole] at htts
  | preview text words hrole => simp [hrole] at htts
  | final text words hrole => simp [hrole] at htts
  | sentence_begin text output words hrole hlive _ houtput hkind hindex hactive hpending =>
    exact hsound.sentence_begin houtput hkind hindex hactive hpending
  | sentence_synthesis text output hrole hlive houtput hkind hindex hactive hpending =>
    exact hsound.sentence_synthesis houtput hkind hindex hactive
  | sentence_end text output hrole hlive houtput hkind hindex hactive hpending _ =>
    exact hsound.sentence_end houtput hkind hindex hpending
  | finished text hphase hactive hpending => exact hsound.other (fun _ => rfl) hpending .finished
  | audio _ _ hlive hrole hpending => exact hsound.audio

/-! ## Whole runs -/

theorem receive_cases (serde : Serde) (l : TaskLifecycle) (message : Message) :
    (∃ out, (l.receive serde message).2 = .ok out ∧ Taken serde l message (l.receive serde message).1 out) ∨
      (∃ error, (l.receive serde message).2 = .error error) ∧ (l.receive serde message).1.phase = .failed := by
  unfold TaskLifecycle.receive
  rcases h : l.receive_inner serde message with ⟨_, error | out⟩
  · exact .inr ⟨⟨error, rfl⟩, rfl⟩
  · exact .inl ⟨out, rfl, receive_inner_taken h⟩

theorem Tracks.receive (h : Tracks serde l log) (message : Message) :
    Tracks serde (l.receive serde message).1
      (log ++ [(.receive message, .output (l.receive serde message).2)]) := by
  rcases receive_cases serde l message with ⟨_, hout, htaken⟩ | ⟨⟨_, _⟩, hfailed⟩
  · have hlive := h.live htaken.phase.1
    refine ⟨?_, fun _ => ?_⟩
    · rw [mem_snoc]
      rintro (hold | hnew)
      · exact absurd (h.poisoned hold) htaken.phase.1
      · simp [refused, hout] at hnew
    · rw [hout]
      refine ⟨hlive.stage.taken htaken, hlive.words.taken htaken, fun hr => ?_⟩
      rw [htaken.role] at hr
      exact (hlive.sound hr).taken hr htaken
  · exact ⟨fun _ => hfailed, fun hp => absurd hfailed hp⟩

theorem Tracks.call (h : Tracks serde l log) (c : Call) :
    Tracks serde (l.call serde c).1 (log ++ [(c, (l.call serde c).2)]) := by
  cases c with
  | run model voice language => exact h.run model voice language
  | continue_text text =>
    obtain ⟨b, hb⟩ := continue_text_effect l text
    simp only [TaskLifecycle.call, hb]
    exact h.sent b _ rfl
  | finish => exact h.finish
  | receive message => exact h.receive message

theorem call_role (c : Call) (hlive : (l.call serde c).1.phase ≠ .failed) :
    l.phase ≠ .failed ∧ (l.call serde c).1.role = l.role := by
  cases c with
  | run model voice language =>
    rcases run_effect l model voice language with h | ⟨hnew, h⟩
    · simp only [TaskLifecycle.call, h] at hlive ⊢
      exact ⟨hlive, trivial⟩
    · simp [TaskLifecycle.call, h, hnew]
  | continue_text text =>
    obtain ⟨_, hb⟩ := continue_text_effect l text
    simp only [TaskLifecycle.call, hb] at hlive ⊢
    exact ⟨hlive, trivial⟩
  | finish =>
    rcases finish_effect l with h | ⟨hactive, h, -⟩
    · simp only [TaskLifecycle.call, h] at hlive ⊢
      exact ⟨hlive, trivial⟩
    · simp [TaskLifecycle.call, h, hactive]
  | receive message =>
    rcases receive_cases serde l message with ⟨_, _, htaken⟩ | ⟨-, hfailed⟩
    · exact ⟨htaken.phase.1, htaken.role⟩
    · exact absurd hfailed hlive

variable {role : TaskRole}

theorem Orderly.quiet (h : Orderly serde role log) (ha : answer e = none)
    (hr : received e = true → refused e = true) : Orderly serde role (log ++ [e]) where
  failure := Each.snoc.mpr ⟨h.failure, fun he _ => hr he⟩
  finals := by simpa [final_id_none ha] using h.finals
  previews := Each.snoc.mpr ⟨h.previews, fun _ hk => by simp [preview_id_none ha] at hk⟩
  audio := Each.snoc.mpr ⟨h.audio, fun he => by simp [is_audio, ha] at he⟩
  closed := fun hrole => by simpa [closes, ha] using h.closed hrole
  heard := fun hrole => Each.snoc.mpr ⟨h.heard hrole, fun _ hi => by simp [closes, ha] at hi⟩
  finished := Each.snoc.mpr ⟨h.finished, fun he => by simp [ha] at he⟩
  last := Each.snoc.mpr ⟨h.last, fun _ => ha⟩

/-- An entry with the output of a frame that was taken. -/
theorem Orderly.taken (h : Orderly serde role log) (hrole : l.role = role)
    (htracks : Tracks serde l log) (htaken : Taken serde l message l' out)
    (hnext : Live serde l' (log ++ [(.receive message, .output (.ok out))])) :
    Orderly serde role (log ++ [(.receive message, .output (.ok out))]) := by
  have hlive := htracks.live htaken.phase.1
  subst hrole
  refine ⟨Each.snoc.mpr ⟨h.failure, fun _ hold => ?_⟩, hnext.words.finals,
    Each.snoc.mpr ⟨h.previews, fun k hk => ?_⟩, Each.snoc.mpr ⟨h.audio, fun ha => ?_⟩,
    fun hrole => ?_, fun hrole => Each.snoc.mpr ⟨h.heard hrole, fun i hi => ?_⟩,
    Each.snoc.mpr ⟨h.finished, fun hf => ?_⟩, Each.snoc.mpr ⟨h.last, fun hf => ?_⟩⟩
  · exact absurd (htracks.poisoned hold) htaken.phase.1
  · cases htaken with
    | preview text words hasr =>
      obtain rfl : l.next_sentence = k := by simpa [preview_id, answer] using hk
      have hn := hlive.words.next hasr
      refine ⟨by omega, ?_⟩
      rw [hn, Nat.add_sub_cancel]
      exact hlive.words.finals
    | _ => simp [preview_id, answer] at hk
  · cases htaken with
    | audio _ _ hphase htts hpending => exact ⟨htts, (hlive.sound htts).pending hpending⟩
    | _ => simp [is_audio, answer] at ha
  · have hclosed := (hnext.sound (htaken.role ▸ hrole)).closed
    rw [hclosed, List.length_range]
  · cases htaken with
    | heartbeat text hasr => simp [hasr] at hrole
    | sentence_begin text output words htts hphase _ houtput hkind =>
      simp [closes, tts_index_eq houtput, hkind] at hi
    | sentence_synthesis text output htts hphase houtput hkind =>
      simp [closes, tts_index_eq houtput, hkind] at hi
    | sentence_end text output htts hphase houtput hkind hindex hactive hpending hheard =>
      obtain rfl : l.next_sentence = i := by
        simpa [closes, tts_index_eq houtput, hkind, hindex] using hi
      exact (hlive.sound htts).heard hheard _ hactive
    | _ => simp [closes, tts_index] at hi
  · cases htaken with
    | finished text hphase hactive hpending =>
      refine ⟨hlive.stage.finish (.inl hphase), fun f hf k hk => ?_, fun htts => ⟨fun f hf i hi => ?_, ?_⟩⟩
      · cases hr : l.role with
        | asr =>
          rcases hlive.words.previews hr f hf k hk with hfinal | hopen
          · exact hfinal
          · simp [hactive] at hopen
        | tts => simp [(hlive.words.silent hr).2 f hf] at hk
      · rcases (hlive.sound htts).begun f hf i hi with hclosed | hopen
        · exact hclosed
        · simp [hactive] at hopen
      · exact (hlive.sound htts).owed hpending
    | _ => simp [answer] at hf
  · exact absurd (hlive.stage.finished hf) htaken.phase.2.1

theorem Orderly.call (h : Orderly serde role log) (htracks : Tracks serde l log)
    (hrole : l.phase ≠ .failed → l.role = role) (c : Call) :
    Orderly serde role (log ++ [(c, (l.call serde c).2)]) := by
  cases c with
  | receive message =>
    have hnext := htracks.receive message
    simp only [TaskLifecycle.call]
    rcases receive_cases serde l message with ⟨_, hout, htaken⟩ | ⟨⟨_, he⟩, -⟩
    · rw [hout] at hnext ⊢
      exact h.taken (hrole htaken.phase.1) htracks htaken (hnext.live htaken.phase.2.2)
    · rw [he]
      exact h.quiet rfl fun _ => rfl
  | _ => exact h.quiet rfl fun hr => by simp [received] at hr

/-- Along every list of calls the state tracks the history and the history is orderly. -/
theorem drive_keeps (calls : List Call) (s : TaskLifecycle × History) (htracks : Tracks serde s.1 s.2)
    (hrole : s.1.phase ≠ .failed → s.1.role = role) (h : Orderly serde role s.2) :
    Orderly serde role (run (TaskLifecycle.drive serde) s calls).2 := by
  refine (run_keeps (TaskLifecycle.drive serde)
    (fun s => Tracks serde s.1 s.2 ∧ (s.1.phase ≠ .failed → s.1.role = role) ∧
      Orderly serde role s.2) ?_ ⟨htracks, hrole, h⟩ calls).2.2
  rintro ⟨_, _⟩ c ⟨htracks, hrole, h⟩
  refine ⟨htracks.call c, fun hlive => ?_, h.call htracks hrole c⟩
  obtain ⟨hbefore, hsame⟩ := call_role c hlive
  exact hsame.trans (hrole hbefore)

theorem Orderly.nil (serde : Serde) (role : TaskRole) : Orderly serde role [] where
  failure := Each.nil _
  finals := rfl
  previews := Each.nil _
  audio := Each.nil _
  closed := fun _ => rfl
  heard := fun _ => Each.nil _
  finished := Each.nil _
  last := Each.nil _

theorem new_tracks {task_id : String} (h : TaskLifecycle.new serde role task_id = .ok l) :
    l.role = role ∧ Tracks serde l [] := by
  unfold TaskLifecycle.new at h
  split at h
  · obtain rfl := Except.ok.inj h
    refine ⟨rfl, by simp, fun _ => ⟨⟨by simp, by simp⟩, ⟨?_, rfl, ?_, ?_, ?_⟩, ?_⟩⟩
    · intro hrole
      simp [show role = .asr from hrole]
    · simp
    · simp
    · simp
    · intro hrole
      refine ⟨?_, by simp, by simp, by simp, by simp, ?_⟩
      · simp [show role = .tts from hrole]
      · intro _ before s after i hlog
        simp at hlog
  · simp at h

/-- Whatever is called on a task and whatever the server sends, the history is orderly. -/
theorem task_outputs_come_in_order {task_id : String}
    (hnew : TaskLifecycle.new serde role task_id = .ok l) (calls : List Call) :
    Orderly serde role (l.history serde calls) := by
  obtain ⟨hrole, htracks⟩ := new_tracks hnew
  exact drive_keeps calls (l, []) htracks (fun _ => hrole) (Orderly.nil serde role)

/-! A recognition task that hears one sentence. -/

def sample_id : String := "67e55044-10b1-426f-9247-bb680e5fe0c8"

/-- The text of a frame for the sample task. -/
def sample_frame (event payload : String) : String :=
  "\x7b\"header\":\x7b\"task_id\":\"" ++ sample_id ++ "\",\"event\":\"" ++ event ++
    "\"\x7d,\"payload\":" ++ payload ++ "\x7d"

def sample_sentence : Value :=
  .object [("begin_time", .number (.pos 0)), ("end_time", .number (.pos 900)),
    ("sentence_end", .bool true), ("sentence_id", .number (.pos 1)), ("text", .string "Hello")]

def sample_result : String :=
  "\x7b\"output\":\x7b\"sentence\":\x7b\"sentence_id\":1,\"text\":\"Hello\",\"sentence_end\":true," ++
    "\"begin_time\":0,\"end_time\":900\x7d\x7d\x7d"

/-- The parser on the frames of the sample. -/
def sample_serde : Serde where
  is_uuid id := id == sample_id
  envelope text :=
    let header event : ServerHeader :=
      { task_id := sample_id, event, error_code := none, error_message := none }
    if text = sample_frame "task-started" "\x7b\x7d" then
      .ok { header := header "task-started", payload := .object [] }
    else if text = sample_frame "task-finished" "\x7b\x7d" then
      .ok { header := header "task-finished", payload := .object [] }
    else if text = sample_frame "result-generated" sample_result then
      .ok {
        header := header "result-generated"
        payload := .object [("output", .object [("sentence", sample_sentence)])] }
    else .error "expected value at line 1 column 1"
  asr_heartbeat _ := .error "missing field"
  asr_sentence v :=
    if v = sample_sentence then
      .ok {
        sentence_id := 1, text := "Hello", heartbeat := false, sentence_begin := false
        sentence_end := true, begin_time := 0, end_time := some 900 }
    else .error "missing field"
  tts_output _ := .error "missing field"

def sample_task : TaskLifecycle where
  role := .asr
  task_id := sample_id
  phase := .new
  next_sentence := 1
  active_sentence := none
  sentence_text := none
  pending_binary := false
  tts_text_sent := false
  sentence_audio_received := false

def sample_calls : List Call :=
  [.run "qwen-audio-3.1-asr-flash-streaming" "" "", .receive (.text (sample_frame "task-started" "\x7b\x7d")),
    .receive (.text (sample_frame "result-generated" sample_result)), .finish,
    .receive (.text (sample_frame "task-finished" "\x7b\x7d")), .receive .ping]

theorem outputs_of_the_sample_task_come_in_order :
    Orderly sample_serde .asr (sample_task.history sample_serde sample_calls) ∧
      (sample_task.history sample_serde sample_calls).filterMap answer =
        [.started, .transcript 1 "Hello" true, .finished] := by
  have hnew : TaskLifecycle.new sample_serde .asr sample_id = .ok sample_task := by rfl
  refine ⟨task_outputs_come_in_order hnew sample_calls, ?_⟩
  decide +kernel

end omni_translate.bailian_tasks
