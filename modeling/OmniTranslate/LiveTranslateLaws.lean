-- What the admitted events of a live-translation session keep: everything
-- under way hangs on a response that is under way, and nothing comes after
-- the end; and when a provider identity is used once only.
import OmniTranslate.Brackets
import OmniTranslate.LiveTranslateTaken

namespace omni_translate.bailian_protocol

open calls json runs brackets

/-! ## Sessions -/

inductive Op where
  | session_update (event : Value)
  | finish
  | receive (event : Value)

/-- An admitted event and what it meant. -/
abbrev Entry := Value × LiveTranslateServerMutation

/-- The state and the events admitted so far. -/
structure Session where
  state : LiveTranslateServerState
  log : List Entry

namespace Session

def new : Session := ⟨.default, []⟩

def step (codec : Codec) (authority : AuthorizedModelProtocolProfile) (session : Session) : Op → Session
  | .session_update event =>
    match session.state.record_client_session_update codec authority event with
    | .ok next => { session with state := next }
    | .error _ => session
  | .finish =>
    match session.state.record_client_finish with
    | .ok next => { session with state := next }
    | .error _ => session
  | .receive event =>
    match session.state.admit_event codec authority event with
    | (next, .ok mutation) => { state := next, log := session.log ++ [(event, mutation)] }
    | (next, .error _) => { session with state := next }

/-- A call under any authority. -/
def call (codec : Codec) (session : Session) (c : AuthorizedModelProtocolProfile × Op) : Session :=
  session.step codec c.1 c.2

end Session

/-! ## Reading the log -/

/-- What an entry of one kind names. -/
def names {α : Type} (kind : EventType) (read : Value → Except String α) (e : Entry) : Option α :=
  if kind_of e.1 = kind then (read e.1).toOption else none

def created : Entry → Option String :=
  names .response_created fun event => (·.response_id) <$> validate_response_created event

def done : Entry → Option String :=
  names .response_done fun event => (·.response_id) <$> validate_response_done event

def item_added : Entry → Option (String × Nat) :=
  names .output_item_added fun event =>
    (fun item => (item.response_id, item.output_index)) <$> validate_output_item event false

def item_done : Entry → Option (String × Nat) :=
  names .output_item_done fun event =>
    (fun item => (item.response_id, item.output_index)) <$> validate_output_item event true

def part_added : Entry → Option (ContentKey × String) :=
  names .content_part_added validate_content_part

def sound : Entry → Option ContentKey := names .audio_delta response_content_identity

def sound_done : Entry → Option ContentKey := names .audio_done response_content_identity

variable {codec : Codec} {authority : AuthorizedModelProtocolProfile}
  {s s' : LiveTranslateServerState} {event : Value} {mutation : LiveTranslateServerMutation}
  {log : List Entry} {e : Entry}

variable {kind : EventType}

theorem names_other {α : Type} {read : Value → Except String α} (h : kind_of e.1 ≠ kind) : names kind read e = none := if_neg h

theorem names_same {α : Type} {read : Value → Except String α} {a : α} (h : kind_of e.1 = kind)
    (hread : read e.1 = .ok a) : names kind read e = some a := by
  rw [names, if_pos h, hread]
  rfl

theorem names_eq {α : Type} {read : Value → Except String α} {a : α} (h : names kind read e = some a) : kind_of e.1 = kind ∧ read e.1 = .ok a := by
  unfold names at h
  split at h
  · refine ⟨‹_›, ?_⟩
    cases hread : read e.1 with
    | error error => simp [hread, Except.toOption] at h
    | ok _ =>
      rw [hread] at h
      rw [Option.some.inj h]
  · cases h

/-! ## The parts hang together -/

/-- Everything under way hangs on a response under way. -/
structure Closed (s : LiveTranslateServerState) : Prop where
  audio : ∀ key ∈ s.active_audio_streams, s.active_content_parts.lookup key = some "audio"
  content : ∀ key ∈ s.active_content_parts, s.active_output_items.lookup key.output = some key.item_id
  output : ∀ key ∈ s.active_output_items, key.1 ∈ s.active_responses
  completed : ∀ key ∈ s.completed_output_items, key.1 ∈ s.active_responses
  committed : ∀ id ∈ s.committed_by_response, id ∈ s.active_responses
  status : ∀ id, id ∈ s.response_creation_status ↔ id ∈ s.active_responses
  conversation : ∀ id, id ∈ s.response_conversation_ids ↔ id ∈ s.active_responses
  apart : ∀ key ∈ s.active_audio_streams, key ∉ s.completed_audio_streams

theorem Closed.of_same (h : Closed s) (hsame : SameResponses s s') : Closed s' := by
  obtain ⟨-, hr, hst, hc, ho, hco, hp, ha, hca, -, hcm⟩ := hsame
  refine ⟨?_, ?_, ?_, ?_, ?_, ?_, ?_, ?_⟩
  · rw [ha, hp]; exact h.audio
  · rw [hp, ho]; exact h.content
  · rw [ho, hr]; exact h.output
  · rw [hco, hr]; exact h.completed
  · rw [hcm, hr]; exact h.committed
  · rw [hst, hr]; exact h.status
  · rw [hc, hr]; exact h.conversation
  · rw [ha, hca]; exact h.apart

theorem Closed.default : Closed .default := by
  refine ⟨?_, ?_, ?_, ?_, ?_, ?_, ?_, ?_⟩ <;> simp [LiveTranslateServerState.default]

theorem Closed.taken (h : Closed s) (htaken : Taken authority s event kind s' mutation) : Closed s' := by
  cases htaken with
  | session_created | session_updated | session_finished =>
    exact ⟨h.1, h.2, h.3, h.4, h.5, h.6, h.7, h.8⟩
  | response_created r hrunning hr hnew =>
    refine ⟨h.audio, h.content, fun key hk => ?_, fun key hk => ?_, fun id hid => ?_, fun id => ?_,
      fun id => ?_, h.apart⟩
    · exact Finset.mem_insert_of_mem (h.output key hk)
    · exact Finset.mem_insert_of_mem (h.completed key hk)
    · exact Finset.mem_insert_of_mem (h.committed id hid)
    · simp [AList.mem_insert, h.status id]
    · simp [AList.mem_insert, h.conversation id]
  | output_item_added item hrunning hitem hactive hnew =>
    refine ⟨h.audio, fun key hk => ?_, fun key hk => ?_, h.completed, h.committed, h.status,
      h.conversation, h.apart⟩
    · have hlookup := h.content key hk
      have hne : key.output ≠ (item.response_id, item.output_index) := by
        intro heq
        rw [heq] at hlookup
        exact hnew (maps.mem_of_lookup hlookup)
      simpa [AList.lookup_insert_ne hne] using hlookup
    · rcases AList.mem_insert _ |>.mp hk with rfl | hk
      · exact hactive
      · exact h.output key hk
  | output_item_done item completed hrunning hitem hactive _ hfree =>
    refine ⟨h.audio, fun key hk => ?_, fun key hk => ?_, fun key hk => ?_, h.committed, h.status,
      h.conversation, h.apart⟩
    · simpa [AList.lookup_erase_ne (hfree key hk)] using h.content key hk
    · exact h.output key (AList.mem_erase.mp hk).2
    · rcases AList.mem_insert _ |>.mp hk with rfl | hk
      · exact hactive
      · exact h.completed key hk
  | content_part_added key part_type hrunning _ hitem hover hnew =>
    have hcases : ∀ k, k ∈ (if part_type = "audio" then insert key s.active_audio_streams
        else s.active_audio_streams) → (k = key ∧ part_type = "audio") ∨ k ∈ s.active_audio_streams := by
      intro k hk
      split at hk
      · rcases Finset.mem_insert.mp hk with rfl | hk
        · exact .inl ⟨rfl, ‹_›⟩
        · exact .inr hk
      · exact .inr hk
    refine ⟨fun k hk => ?_, fun k hk => ?_, h.output, h.completed, h.committed, h.status,
      h.conversation, fun k hk => ?_⟩
    · rcases hcases k hk with ⟨rfl, rfl⟩ | hold
      · exact AList.lookup_insert _
      · have hne : k ≠ key := by
          rintro rfl
          exact hnew (maps.mem_of_lookup (h.audio k hold))
        simpa [AList.lookup_insert_ne hne] using h.audio k hold
    · rcases AList.mem_insert _ |>.mp hk with rfl | hk
      · exact hitem
      · exact h.content k hk
    · rcases hcases k hk with ⟨rfl, haudio⟩ | hk
      · exact hover haudio
      · exact h.apart k hk
  | content_part_done key hrunning hstream =>
    refine ⟨fun k hk => ?_, fun k hk => ?_, h.output, h.completed, h.committed, h.status,
      h.conversation, h.apart⟩
    · have hne : k ≠ key := by
        rintro rfl
        exact hstream hk
      simpa [AList.lookup_erase_ne hne] using h.audio k hk
    · exact h.content k (AList.mem_erase.mp hk).2
  | text_delta kind stream _ transcriptions => exact ⟨h.1, h.2, h.3, h.4, h.5, h.6, h.7, h.8⟩
  | text_snapshot kind stream text transcriptions => exact ⟨h.1, h.2, h.3, h.4, h.5, h.6, h.7, h.8⟩
  | text_done kind stream id text _ hrunning hstream hid hactive _ =>
    refine ⟨h.audio, h.content, h.output, h.completed, fun r hr => ?_, h.status, h.conversation, h.apart⟩
    rcases AList.mem_insert _ |>.mp hr with rfl | hr
    · exact hactive
    · exact h.committed r hr
  | response_done _ hrunning _ hactive hchildren =>
    -- no part of the response is under way, so nothing loses its response
    simp only [LiveTranslateServerState.has_active_response_children, not_or, not_exists, not_and] at hchildren
    refine ⟨h.audio, h.content, fun key hk => ?_, fun key hk => ?_, fun id hid => ?_, fun id => ?_,
      fun id => ?_, h.apart⟩
    · exact Finset.mem_erase.mpr ⟨hchildren.1 key (AList.mem_keys.mp hk), h.output key hk⟩
    · obtain ⟨_, hv⟩ := Option.isSome_iff_exists.mp (AList.lookup_isSome.mpr hk)
      rw [maps.lookup_retain] at hv
      split at hv
      · rename_i hkeep
        exact Finset.mem_erase.mpr ⟨by simpa using hkeep, h.completed key (maps.mem_of_lookup hv)⟩
      · cases hv
    · obtain ⟨hne, hin⟩ := AList.mem_erase.mp hid
      exact Finset.mem_erase.mpr ⟨hne, h.committed id hin⟩
    · simp [AList.mem_erase, h.status id]
    · simp [AList.mem_erase, h.conversation id]
  | audio_delta key hrunning hkey hopen => exact h
  | audio_done key hrunning hkey hopen =>
    refine ⟨fun k hk => h.audio k (Finset.mem_of_mem_erase hk), h.content, h.output, h.completed,
      h.committed, h.status, h.conversation, fun k hk => ?_⟩
    simp only [Finset.mem_insert, not_or]
    exact ⟨Finset.ne_of_mem_erase hk, h.apart k (Finset.mem_of_mem_erase hk)⟩
  | aside kind _ _ hsame => exact h.of_same hsame

/-! ## What the state says of the log -/

theorem mem_snoc {P : Entry → Prop} : (∃ f ∈ log ++ [e], P f) ↔ (∃ f ∈ log, P f) ∨ P e := by
  simp [or_and_right, exists_or]

theorem forall_snoc {P : Entry → Prop} : (∀ f ∈ log ++ [e], P f) ↔ (∀ f ∈ log, P f) ∧ P e := by
  simp [or_imp, forall_and]

/-- The responses under way are those that were created and are not done. -/
def Answered (s : LiveTranslateServerState) (log : List Entry) : Prop :=
  ∀ id, Open created done log id ↔ id ∈ s.active_responses

theorem Answered.taken (h : Answered s log) (htaken : Taken authority s event (kind_of event) s' mutation) :
    Answered s' (log ++ [(event, mutation)]) := by
  have hquiet : kind_of event ≠ .response_created → kind_of event ≠ .response_done →
      s'.active_responses = s.active_responses → Answered s' (log ++ [(event, mutation)]) := by
    intro hc hd hsame id
    have hcreated : created (event, mutation) = none := names_other hc
    have hdone : done (event, mutation) = none := names_other hd
    simp [open_snoc, hcreated, hdone, h id, hsame]
  generalize hkind : kind_of event = kind at htaken hquiet
  cases htaken with
  | response_created r hrunning hr _ =>
    intro id
    have hcreated : created (event, {}) = some r.response_id := names_same hkind (by rw [hr]; rfl)
    have hdone : done (event, {}) = none := names_other (by simp [hkind])
    simp [open_snoc, hcreated, hdone, h id, eq_comm]
  | response_done d hrunning hd _ _ =>
    intro id
    have hcreated : ∀ μ, created (event, μ) = none := fun _ => names_other (by simp [hkind])
    have hdone : ∀ μ, done (event, μ) = some d.response_id :=
      fun _ => names_same hkind (by rw [hd]; rfl)
    simp [open_snoc, hcreated, hdone, h id, and_comm, eq_comm]
  | aside kind _ hk hsame =>
    refine hquiet ?_ ?_ hsame.active_responses <;> rintro rfl <;> simp [EventType.aside] at hk
  | _ => exact hquiet (by simp) (by simp) rfl

/-- The output items under way are those that were added and are not done. -/
def Itemized (s : LiveTranslateServerState) (log : List Entry) : Prop :=
  ∀ key, Open item_added item_done log key ↔ key ∈ s.active_output_items

theorem Itemized.taken (h : Itemized s log) (htaken : Taken authority s event (kind_of event) s' mutation) :
    Itemized s' (log ++ [(event, mutation)]) := by
  have hquiet : kind_of event ≠ .output_item_added → kind_of event ≠ .output_item_done →
      s'.active_output_items = s.active_output_items → Itemized s' (log ++ [(event, mutation)]) := by
    intro ha hd hsame key
    have hadded : item_added (event, mutation) = none := names_other ha
    have hdone : item_done (event, mutation) = none := names_other hd
    simp [open_snoc, hadded, hdone, h key, hsame]
  generalize hkind : kind_of event = kind at htaken hquiet
  cases htaken with
  | output_item_added item hrunning hitem hactive _ =>
    intro key
    have hadded : item_added (event, {}) = some (item.response_id, item.output_index) :=
      names_same hkind (by rw [hitem]; rfl)
    have hdone : item_done (event, {}) = none := names_other (by simp [hkind])
    simp [open_snoc, hadded, hdone, h key, AList.mem_insert, eq_comm]
  | output_item_done item _ hrunning hitem hactive hadded _ =>
    intro key
    have hnone : item_added (event, {}) = none := names_other (by simp [hkind])
    have hdone : item_done (event, {}) = some (item.response_id, item.output_index) :=
      names_same hkind (by rw [hitem]; rfl)
    simp [open_snoc, hnone, hdone, h key, AList.mem_erase, and_comm, eq_comm]
  | aside kind _ hk hsame =>
    refine hquiet ?_ ?_ hsame.active_output_items <;> rintro rfl <;> simp [EventType.aside] at hk
  | _ => exact hquiet (by simp) (by simp) rfl

/-- Each sound under way was opened, and each that was ended is over. -/
structure Sounded (s : LiveTranslateServerState) (log : List Entry) : Prop where
  opened : ∀ key ∈ s.active_audio_streams, ∃ f ∈ log, part_added f = some (key, "audio")
  ended : ∀ f ∈ log, ∀ key, sound_done f = some key → key ∈ s.completed_audio_streams

theorem Sounded.other (h : Sounded s log) (hdone : sound_done e = none)
    (haudio : s'.active_audio_streams = s.active_audio_streams)
    (hover : s'.completed_audio_streams = s.completed_audio_streams) : Sounded s' (log ++ [e]) where
  opened := by
    intro key hk
    exact mem_snoc.mpr (.inl (h.opened key (haudio ▸ hk)))
  ended := by
    rw [forall_snoc, hover]
    exact ⟨h.ended, fun key hk => by simp [hdone] at hk⟩

theorem Sounded.taken (h : Sounded s log) (htaken : Taken authority s event (kind_of event) s' mutation) :
    Sounded s' (log ++ [(event, mutation)]) := by
  have hquiet : kind_of event ≠ .audio_done → s'.active_audio_streams = s.active_audio_streams →
      s'.completed_audio_streams = s.completed_audio_streams →
      Sounded s' (log ++ [(event, mutation)]) := fun hd ha ho => h.other (names_other hd) ha ho
  generalize hkind : kind_of event = kind at htaken hquiet
  cases htaken with
  | content_part_added key part_type hrunning hpart _ _ _ =>
    refine ⟨fun k hk => ?_, ?_⟩
    · rw [mem_snoc]
      by_cases haudio : part_type = "audio"
      · simp only [haudio, if_pos] at hk
        rcases Finset.mem_insert.mp hk with rfl | hold
        · exact .inr (names_same hkind (by rw [hpart, haudio]))
        · exact .inl (h.opened k hold)
      · simp only [haudio, if_false] at hk
        exact .inl (h.opened k hk)
    · rw [forall_snoc]
      refine ⟨h.ended, fun k hk => ?_⟩
      rw [sound_done, names_other (by simp [hkind])] at hk
      cases hk
  | audio_done key hrunning hkey _ =>
    refine ⟨fun k hk => mem_snoc.mpr (.inl (h.opened k (Finset.mem_of_mem_erase hk))), ?_⟩
    rw [forall_snoc]
    refine ⟨fun f hf k hk => Finset.mem_insert_of_mem (h.ended f hf k hk), fun k hk => ?_⟩
    rw [sound_done, names_same hkind hkey] at hk
    exact Finset.mem_insert.mpr (.inl (Option.some.inj hk).symm)
  | aside kind _ hk hsame =>
    refine hquiet ?_ hsame.active_audio_streams hsame.completed_audio_streams
    rintro rfl
    simp [EventType.aside] at hk
  | _ => exact hquiet (by simp) rfl rfl

/-- A session whose end was admitted is finished. -/
def Ended (s : LiveTranslateServerState) (log : List Entry) : Prop :=
  (∃ f ∈ log, kind_of f.1 = .session_finished) → s.phase = .finished

theorem Ended.taken (h : Ended s log) (hlive : s.phase ≠ .finished)
    (htaken : Taken authority s event (kind_of event) s' mutation) :
    Ended s' (log ++ [(event, mutation)]) := by
  intro hex
  rcases mem_snoc.mp hex with hold | hnew
  · exact absurd (h hold) hlive
  · rw [show kind_of event = .session_finished from hnew] at htaken
    cases htaken with
    | session_finished _ _ => rfl
    | aside _ _ hk _ => simp [EventType.aside] at hk

/-! ## Whole sessions -/

/-- What the log of a session keeps to: the session is finished when each response that was created
is done, a sound comes between the start of its content and its one end, and nothing comes after
the end of the session. -/
structure InOrder (log : List Entry) : Prop where
  finished : Each (fun before e => kind_of e.1 = .session_finished →
    ∀ x c y id, before = x ++ c :: y → created c = some id → ∃ f ∈ y, done f = some id) log
  sound : Each (fun before e => ∀ key, sound e = some key ∨ sound_done e = some key →
    (∃ f ∈ before, part_added f = some (key, "audio")) ∧ ∀ f ∈ before, sound_done f ≠ some key) log
  last : Each (fun before _ => ∀ f ∈ before, kind_of f.1 ≠ .session_finished) log

/-- What a session keeps. -/
structure Kept (session : Session) : Prop where
  closed : Closed session.state
  answered : Answered session.state session.log
  itemized : Itemized session.state session.log
  sounded : Sounded session.state session.log
  ended : Ended session.state session.log
  in_order : InOrder session.log

/-- The responses do not see the identities of the events. -/
theorem same_seen (ids : Finset String) : SameResponses s { s with seen_event_ids := ids } :=
  ⟨rfl, rfl, rfl, rfl, rfl, rfl, rfl, rfl, rfl, rfl, rfl⟩

theorem InOrder.taken (h : InOrder log) (hclosed : Closed s) (hanswered : Answered s log)
    (hsounded : Sounded s log) (hended : Ended s log) (hlive : s.phase ≠ .finished)
    (htaken : Taken authority s event (kind_of event) s' mutation) :
    InOrder (log ++ [(event, mutation)]) := by
  refine ⟨Each.snoc.mpr ⟨h.finished, fun hkind _ _ y id hlog hc => ?_⟩,
    Each.snoc.mpr ⟨h.sound, fun key hkey => ?_⟩, Each.snoc.mpr ⟨h.last, fun f hf hkind => ?_⟩⟩
  · rw [show kind_of event = .session_finished from hkind] at htaken
    have hcases : (∃ f ∈ y, done f = some id) ∨ Open created done log id := answered hlog hc
    rcases hcases with hdone | hopen
    · exact hdone
    · have hactive := (hanswered id).mp hopen
      cases htaken with
      | session_finished _ hnone => simp [hnone] at hactive
      | aside kind after hk hsame => simp [EventType.aside] at hk
  · -- both kinds find the sound open
    have hopen : key ∈ s.active_audio_streams := by
      rcases hkey with hkey | hkey
      · obtain ⟨hkind, hread⟩ := names_eq hkey
        rw [show kind_of event = .audio_delta from hkind] at htaken
        cases htaken with
        | audio_delta key' hrunning hkey' hopen =>
          rw [show key = key' from Except.ok.inj (hread.symm.trans hkey')]
          exact hopen
        | aside kind after hk hsame => simp [EventType.aside] at hk
      · obtain ⟨hkind, hread⟩ := names_eq hkey
        rw [show kind_of event = .audio_done from hkind] at htaken
        cases htaken with
        | audio_done key' hrunning hkey' hopen =>
          rw [show key = key' from Except.ok.inj (hread.symm.trans hkey')]
          exact hopen
        | aside kind after hk hsame => simp [EventType.aside] at hk
    refine ⟨hsounded.opened key hopen, fun f hf hdone => ?_⟩
    exact hclosed.apart key hopen (hsounded.ended f hf key hdone)
  · exact hlive (hended ⟨f, hf, hkind⟩)

theorem Answered.of_same (h : Answered s log) (hsame : SameResponses s s') : Answered s' log := by
  intro id
  rw [hsame.active_responses]
  exact h id

theorem Itemized.of_same (h : Itemized s log) (hsame : SameResponses s s') : Itemized s' log := by
  intro key
  rw [hsame.active_output_items]
  exact h key

theorem Sounded.of_same (h : Sounded s log) (hsame : SameResponses s s') : Sounded s' log := by
  refine ⟨?_, ?_⟩
  · rw [hsame.active_audio_streams]; exact h.opened
  · rw [hsame.completed_audio_streams]; exact h.ended

/-- What a call does to a session: nothing that counts, or the finish of the client, or one admitted
event. -/
theorem step_cases (codec : Codec) (authority : AuthorizedModelProtocolProfile) (session : Session) (op : Op) :
    (∃ update, session.step codec authority op =
        { session with state := { session.state with expected_session_update := update } }) ∨
      (session.state.phase = .active ∧ session.step codec authority op =
        { session with state := { session.state with phase := .finishing } }) ∨
      ∃ event next mutation name ids, op = .receive event ∧ session.state.phase ≠ .finished ∧
        session.step codec authority op = ⟨next, session.log ++ [(event, mutation)]⟩ ∧
        event_type event = .ok name ∧ name ∈ event_types authority.wire_dialect .server ∧
        Taken authority { session.state with seen_event_ids := ids } event (kind_of event) next mutation := by
  have hsame : ∃ update, session =
      { session with state := { session.state with expected_session_update := update } } := ⟨_, rfl⟩
  cases op with
  | session_update event =>
    refine .inl ?_
    simp only [Session.step]
    split
    · rename_i next h
      iterate 2 obtain ⟨_, -, h⟩ := bind_ok h
      obtain ⟨update, -, h⟩ := bind_ok h
      exact ⟨some update, by rw [← Except.ok.inj h]⟩
    · exact hsame
  | finish =>
    simp only [Session.step]
    split
    · rename_i next h
      obtain ⟨_, hphase, h⟩ := bind_ok h
      exact .inr (.inl ⟨require_ok hphase, by rw [← Except.ok.inj h]⟩)
    · exact .inl hsame
  | receive event =>
    simp only [Session.step, LiveTranslateServerState.admit_event]
    rcases h : session.state.admit_inner codec authority event with _ | ⟨next, mutation⟩
    · exact .inl hsame
    · obtain ⟨hphase, name, ids, hname, hallowed, htaken⟩ := admit_inner_taken h
      exact .inr (.inr ⟨event, next, mutation, name, ids, rfl, hphase, rfl, hname, hallowed, htaken⟩)

theorem Kept.step {session : Session} (h : Kept session) (op : Op) :
    Kept (session.step codec authority op) := by
  obtain ⟨hclosed, hanswered, hitemized, hsounded, hended, horder⟩ := h
  rcases step_cases codec authority session op with ⟨update, heq⟩ | ⟨hphase, heq⟩ |
    ⟨_, _, _, _, ids, -, hlive, heq, -, -, htaken⟩
  · rw [heq]
    have hsame : SameResponses session.state { session.state with expected_session_update := update } :=
      ⟨rfl, rfl, rfl, rfl, rfl, rfl, rfl, rfl, rfl, rfl, rfl⟩
    exact ⟨hclosed.of_same hsame, hanswered.of_same hsame, hitemized.of_same hsame,
      hsounded.of_same hsame, hended, horder⟩
  · rw [heq]
    refine ⟨⟨hclosed.1, hclosed.2, hclosed.3, hclosed.4, hclosed.5, hclosed.6, hclosed.7, hclosed.8⟩,
      hanswered, hitemized, ⟨hsounded.1, hsounded.2⟩, fun hex => ?_, horder⟩
    have := hended hex
    simp [hphase] at this
  · rw [heq]
    have hclosed := hclosed.of_same (same_seen ids)
    have hanswered := hanswered.of_same (same_seen ids)
    have hsounded := hsounded.of_same (same_seen ids)
    have hended : Ended { session.state with seen_event_ids := ids } session.log := hended
    exact ⟨hclosed.taken htaken, hanswered.taken htaken,
      (hitemized.of_same (same_seen ids)).taken htaken, hsounded.taken htaken,
      hended.taken hlive htaken, horder.taken hclosed hanswered hsounded hended hlive htaken⟩

theorem Kept.new : Kept Session.new where
  closed := Closed.default
  answered := by simp [Answered, Session.new, LiveTranslateServerState.default]
  itemized := by simp [Itemized, Session.new, LiveTranslateServerState.default]
  sounded := by
    refine ⟨?_, ?_⟩ <;> simp [Session.new, LiveTranslateServerState.default]
  ended := by simp [Ended, Session.new]
  in_order := ⟨Each.nil _, Each.nil _, Each.nil _⟩

/-- After any calls, everything under way hangs on a response under way, and the admitted events are
in order. -/
theorem admitted_events_leave_no_orphans (codec : Codec)
    (calls : List (AuthorizedModelProtocolProfile × Op)) :
    Closed (run (Session.call codec) Session.new calls).state ∧
      InOrder (run (Session.call codec) Session.new calls).log := by
  have h := run_keeps (Session.call codec) Kept (fun _ c hs => hs.step c.2) Kept.new calls
  exact ⟨h.closed, h.in_order⟩

/-! ## Identities that are used once -/

/-- Each response is created once and done once, and each index of a response is added once and
completed once. -/
def UsedOnce (log : List Entry) : Prop :=
  ((log.filterMap created).Nodup ∧ (log.filterMap done).Nodup) ∧
    (log.filterMap item_added).Nodup ∧ (log.filterMap item_done).Nodup

/-- No response is created after it was done, and no output item is added after it was completed. -/
def NotReused (log : List Entry) : Prop := Fresh created done log ∧ Fresh item_added item_done log

/-- The log is bracketed by what the state knows to be under way. -/
def Paired (log : List Entry) : Prop :=
  Bracketed created done log ∧ Bracketed item_added item_done log

theorem Paired.taken (h : Paired log) (hanswered : Answered s log) (hitemized : Itemized s log)
    (htaken : Taken authority s event (kind_of event) s' mutation) :
    Paired (log ++ [(event, mutation)]) := by
  refine ⟨Each.snoc.mpr ⟨h.1, fun id hid => ?_, fun id hid => ?_⟩,
    Each.snoc.mpr ⟨h.2, fun key hkey => ?_, fun key hkey => ?_⟩⟩
  · obtain ⟨hkind, hread⟩ := names_eq hid
    rw [show kind_of event = .response_created from hkind] at htaken
    cases htaken with
    | response_created r hrunning hr hnew =>
      rw [hanswered id]
      simp only [hr] at hread
      rwa [← show r.response_id = id from Except.ok.inj hread]
    | aside kind after hk hsame => simp [EventType.aside] at hk
  · obtain ⟨hkind, hread⟩ := names_eq hid
    rw [show kind_of event = .response_done from hkind] at htaken
    cases htaken with
    | response_done d hrunning hd hactive _ =>
      rw [hanswered id]
      simp only [hd] at hread
      rwa [← show d.response_id = id from Except.ok.inj hread]
    | aside kind after hk hsame => simp [EventType.aside] at hk
  · obtain ⟨hkind, hread⟩ := names_eq hkey
    rw [show kind_of event = .output_item_added from hkind] at htaken
    cases htaken with
    | output_item_added item hrunning hitem hactive hnew =>
      rw [hitemized key]
      simp only [hitem] at hread
      rwa [← show (item.response_id, item.output_index) = key from Except.ok.inj hread]
    | aside kind after hk hsame => simp [EventType.aside] at hk
  · obtain ⟨hkind, hread⟩ := names_eq hkey
    rw [show kind_of event = .output_item_done from hkind] at htaken
    cases htaken with
    | output_item_done item _ hrunning hitem hactive hadded _ =>
      rw [hitemized key]
      simp only [hitem] at hread
      rw [← show (item.response_id, item.output_index) = key from Except.ok.inj hread]
      exact maps.mem_of_lookup hadded
    | aside kind after hk hsame => simp [EventType.aside] at hk

theorem names_one {α β : Type} {kind kind' : EventType} (hne : kind ≠ kind')
    {read : Value → Except String α} {read' : Value → Except String β} (e : Entry) :
    names kind read e = none ∨ names kind' read' e = none := by
  by_cases h : kind_of e.1 = kind
  · exact .inr (names_other fun h' => hne (h.symm.trans h'))
  · exact .inl (names_other h)

theorem Paired.once_iff (h : Paired log) : UsedOnce log ↔ NotReused log := by
  exact and_congr (once_iff_fresh (names_one (by decide)) h.1) (once_iff_fresh (names_one (by decide)) h.2)

theorem paired_step {session : Session} (h : Kept session ∧ Paired session.log) (op : Op) :
    Kept (session.step codec authority op) ∧ Paired (session.step codec authority op).log := by
  refine ⟨h.1.step op, ?_⟩
  rcases step_cases codec authority session op with ⟨_, heq⟩ | ⟨_, heq⟩ |
    ⟨_, _, _, _, ids, -, _, heq, -, -, htaken⟩
  · rw [heq]
    exact h.2
  · rw [heq]
    exact h.2
  · rw [heq]
    exact h.2.taken (h.1.answered.of_same (same_seen ids)) (h.1.itemized.of_same (same_seen ids)) htaken

instance (log : List Entry) : Decidable (UsedOnce log) := by
  unfold UsedOnce
  infer_instance

def sample_authority : AuthorizedModelProtocolProfile where
  adapter_id := "desktop-livetranslate-session-v2"
  wire_dialect := "bailian-livetranslate-session-ws-v2"
  wire_dialect_version := 2
  exact_model_id := "qwen3.8-livetranslate-flash-realtime"
  registered := true

def sample_config : Fields :=
  [("output_modalities", .array [.string "text"]), ("translation", .object [("language", .string "zh")])]

/-- The libraries on the texts of the sample: plain strings need no escapes. -/
def sample_codec : Codec where
  sha256 text :=
    if text = "session-1" then
      "84097828fc31a8c8d29210df48901a85de7fd013f686b17be77d1be29cb7a98b"
    else if text = "\x7b\"output_modalities\":[\"text\"],\"translation\":\x7b\"language\":\"zh\"\x7d\x7d" then
      "3180922642c7643d1eb1a6f9bf9418afde43f4ced69c88afbfbc92eebe2d161c"
    else ""
  string_text text := "\"" ++ text ++ "\""
  number_text
    | .pos n => toString n
    | _ => ""
  base64_decode _ := none

def sample_event (id kind : String) (fields : Fields) : Op :=
  .receive (.object ([("event_id", .string id), ("type", .string kind)] ++ fields))

/-- The session is set up. -/
def sample_setup : List Op :=
  let session : Value := .object ([("id", .string "session-1"),
    ("model", .string "qwen3.8-livetranslate-flash-realtime"), ("object", .string "realtime.session")]
      ++ sample_config)
  [.session_update (.object [("session", .object sample_config), ("type", .string "session.update")]),
    sample_event "e1" "session.created" [("session", session)],
    sample_event "e2" "session.updated" [("session", session)]]

def sample_created (event id : String) : Op :=
  sample_event event "response.created" [("response", .object [("conversation_id", .string "c"),
    ("id", .string id), ("modalities", .array [.string "text"]), ("object", .string "realtime.response"),
    ("output", .array []), ("status", .string "in_progress")])]

def sample_done (event id : String) (output : List Value) : Op :=
  sample_event event "response.done" [("response", .object [("conversation_id", .string "c"),
    ("id", .string id), ("modalities", .array [.string "text"]), ("object", .string "realtime.response"),
    ("output", .array output), ("status", .string "completed")])]

def sample_item (id status : String) : Value :=
  .object [("content", .array []), ("id", .string id), ("object", .string "realtime.item"),
    ("role", .string "assistant"), ("status", .string status), ("type", .string "message")]

def sample_output (event kind response item status : String) : Op :=
  sample_event event kind [("item", sample_item item status), ("output_index", .number (.pos 0)),
    ("response_id", .string response)]

def recreated_response : List Op :=
  sample_setup ++ [sample_created "e3" "r", sample_done "e4" "r" [], sample_created "e5" "r"]

def readded_item : List Op :=
  sample_setup ++ [sample_created "e3" "r", sample_output "e4" "response.output_item.added" "r" "i" "in_progress",
    sample_output "e5" "response.output_item.done" "r" "i" "completed",
    sample_output "e6" "response.output_item.added" "r" "i" "in_progress"]

end omni_translate.bailian_protocol
