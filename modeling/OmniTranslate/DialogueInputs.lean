-- The laws of a dialogue's inputs: when the ids of inputs and of outputs stay
-- apart, and that an input that is settled stays settled.
import OmniTranslate.DialogueLaws

namespace omni_translate.bailian_dialogue

open calls json maps runs
open bailian_protocol (Codec Map LiveTranslateServerMutation)

namespace DialogueServerState

variable {codec : Codec} {a : AuthorizedModelProtocolProfile} {s s' : DialogueServerState} {event : Value}
  {result : LiveTranslateServerMutation} {id : String}

/-! ## Events that are applied -/

/-- The event passes the checks that come before it is applied, and is not one that came before. -/
structure Enters (codec : Codec) (s : DialogueServerState) (a : AuthorizedModelProtocolProfile)
    (event : Value) (kind : String) : Prop where
  kind_text : text event "type" = .ok kind
  allowed : admit_model_protocol_event a .server kind (frame_kind kind) = .ok ()
  event_id : ∃ id, optional_event_id event = .ok id
  supported : is_supported_authority a = true
  same_authority : ∀ old ∈ s.authority, old = authority_key codec a
  new : ¬ s.Replayed event

theorem text_get {value : Value} {key v : String} (h : text value key = .ok v) : value.get_str key = some v := by
  obtain ⟨_, hw, h⟩ := bind_ok h
  obtain ⟨_, -, h⟩ := bind_ok h
  obtain rfl := Except.ok.inj h
  exact expect_ok hw

/-- The state in which an event is applied. -/
def entered (codec : Codec) (s : DialogueServerState) (a : AuthorizedModelProtocolProfile) : DialogueServerState :=
  { s with authority := some (authority_key codec a), ignored := false, invalidated_item := none }

/-- An event that enters is taken or refused by what it does. -/
theorem Enters.admitted {kind : String} (h : Enters codec s a event kind) {id : Option String}
    (hid : optional_event_id event = .ok id) :
    s.admit_event codec a event =
      ((s.entered codec a).apply codec a event (.parse kind)).map fun r =>
        (r.1.remember id (bailian_protocol.sha256_canonical_json codec event), r.2) := by
  have hrenewed : s.renewed codec a = .ok (s.entered codec a) := by
    unfold renewed bind
    rw [require_pos h.supported, ok_bind, require_pos h.same_authority, ok_bind]
    rfl
  have hnew : id.bind s.seen.lookup = none := by
    cases hseen : id.bind s.seen.lookup with
    | none => rfl
    | some _ =>
      obtain ⟨key, rfl, hlookup⟩ := Option.bind_eq_some_iff.mp hseen
      exact absurd ⟨key, by simp [hid, Except.toOption], mem_of_lookup hlookup⟩ h.new
  unfold admit_event admit_frame
  rw [text_get h.kind_text, h.kind_text, ok_bind, Option.getD_some, require_pos rfl, ok_bind, h.allowed, ok_bind,
    hid, ok_bind, hrenewed, ok_bind]
  have hseen : id.bind (s.entered codec a).seen.lookup = none := hnew
  rw [hseen]
  cases (s.entered codec a).apply codec a event (.parse kind) <;> rfl

/-- An event that was admitted, and not as one that came before, entered and was applied. -/
theorem admitted_enters (h : s.admit_event codec a event = .ok (s', result)) (hnew : ¬ s.Replayed event) :
    ∃ kind s₁, Enters codec s a event kind ∧
      (s.entered codec a).apply codec a event (.parse kind) = .ok (s₁, result) ∧ SameLedger s₁ s' := by
  have hadmitted := h
  obtain ⟨kind, hkind, h⟩ := bind_ok h
  obtain ⟨_, -, h⟩ := bind_ok h
  obtain ⟨_, hallowed, h⟩ := bind_ok h
  obtain ⟨event_id, hid, h⟩ := bind_ok h
  obtain ⟨_, hs₀, -⟩ := bind_ok h
  obtain ⟨_, hnext, -⟩ := bind_ok hs₀
  obtain ⟨_, hsupported, hnext⟩ := bind_ok hnext
  obtain ⟨_, hauthority, -⟩ := bind_ok hnext
  rw [text_get hkind, Option.getD_some] at hallowed
  have henters : Enters codec s a event kind :=
    ⟨hkind, hallowed, ⟨event_id, hid⟩, require_ok hsupported, require_ok hauthority, hnew⟩
  have heq := henters.admitted hid
  rw [hadmitted] at heq
  cases happly : (s.entered codec a).apply codec a event (.parse kind) with
  | error _ =>
    rw [happly] at heq
    cases heq
  | ok r =>
    rw [happly] at heq
    obtain ⟨rfl, rfl⟩ := Prod.mk.inj (Except.ok.inj heq)
    exact ⟨kind, r.1, henters, happly, remember_same _ _ _⟩

/-! ## Inputs and outputs -/

/-- No id of an input is that of an owned item or of an item announced as the assistant's. -/
def Separate (s : DialogueServerState) : Prop :=
  ∀ id, (id ∈ s.inputs ∨ id ∈ s.invalid_inputs ∨ id ∈ s.ambient_inputs) →
    id ∉ s.item_owners ∧ s.conversation_items.lookup id ≠ some "assistant"

/-- A Qwen-Audio turn is invalid, and its item may be taken back. -/
structure Invalidates (a : AuthorizedModelProtocolProfile) (s : DialogueServerState) (event : Value)
    (id : String) : Prop where
  item : text event "item_id" = .ok id
  stamp : (event.get "audio_end_ms").any (·.as_u64.isSome) = true
  reason : event.get "reason" = some (.string "turn_invalid")
  qwen : is_omni a = false
  not_owned : id ∉ s.item_owners
  not_answered : (s.inputs.lookup id).any (·.answered) = false
  room : s.invalid_inputs.card < MAX_INPUT_ITEMS

/-- The session takes back, as an invalid turn, an item that was announced as the assistant's. -/
structure Revokes (codec : Codec) (s : DialogueServerState) (a : AuthorizedModelProtocolProfile)
    (event : Value) (id : String) : Prop where
  enters : Enters codec s a event "input_audio_buffer.speech_stopped"
  active : s.active = true
  invalidates : Invalidates a s event id
  announced : s.conversation_items.lookup id = some "assistant"

/-- The inputs and the conversation are the same. -/
structure SameInput (s s' : DialogueServerState) : Prop where
  inputs : s'.inputs = s.inputs
  invalid_inputs : s'.invalid_inputs = s.invalid_inputs
  ambient_inputs : s'.ambient_inputs = s.ambient_inputs
  conversation_items : s'.conversation_items = s.conversation_items

theorem SameLedger.input (h : SameLedger s s') : SameInput s s' :=
  ⟨h.inputs, h.invalid_inputs, h.ambient_inputs, h.conversation_items⟩

theorem Separate.same (h : s.Separate) (hsame : SameLedger s s') : s'.Separate := by
  unfold Separate
  rw [hsame.inputs, hsame.invalid_inputs, hsame.ambient_inputs, hsame.item_owners, hsame.conversation_items]
  exact h

theorem Room.inputs {room : DialogueServerState} (h : Room s room) : ∀ id ∈ room.inputs, id ∈ s.inputs := by
  intro id hid
  cases h with
  | kept => exact hid
  | retired _ _ _ _ _ => exact ((AList.mem_erase).mp hid).2

/-- Listening to an input adds at most its id, and only where no output has it. -/
theorem Listened.inputs (h : Listened s id s') :
    (∀ other ∈ s'.inputs, other ∈ s.inputs ∨ (other = id ∧ ¬ s.input_isolated id)) ∧
      s'.invalid_inputs = s.invalid_inputs ∧ s'.ambient_inputs = s.ambient_inputs ∧
      s'.conversation_items = s.conversation_items := by
  rcases h with hsame | ⟨hfree, hfound, hsame, -, -, -⟩
  · rw [hsame.inputs]
    exact ⟨fun other hother => .inl hother, hsame.invalid_inputs, hsame.ambient_inputs, hsame.conversation_items⟩
  · rw [hsame.inputs, hsame.invalid_inputs, hsame.ambient_inputs, hsame.conversation_items]
    rcases hfound with _ | ⟨_, hroom⟩
    · refine ⟨fun other hother => ?_, rfl, rfl, rfl⟩
      rcases (AList.mem_insert _).mp hother with rfl | hother
      · exact .inr ⟨rfl, hfree⟩
      · exact .inl hother
    · refine ⟨fun other hother => ?_, ?_⟩
      · rcases (AList.mem_insert _).mp hother with rfl | hother
        · exact .inr ⟨rfl, hfree⟩
        · exact .inl (hroom.inputs other hother)
      · cases hroom <;> exact ⟨rfl, rfl, rfl⟩

theorem not_isolated (h : ¬ s.input_isolated id) :
    id ∉ s.item_owners ∧ s.conversation_items.lookup id ≠ some "assistant" := by
  unfold input_isolated at h
  push Not at h
  obtain ⟨-, howner, hrole, -, -⟩ := h
  refine ⟨howner, fun hassistant => ?_⟩
  exact absurd (hrole "assistant" hassistant) (by decide)

theorem Listened.separate (h : Listened s id s') (hseparate : s.Separate) : s'.Separate := by
  obtain ⟨hinputs, hinvalid, hambient, hconversation⟩ := h.inputs
  intro other hother
  rw [h.output.item_owners, hconversation]
  rw [hinvalid, hambient] at hother
  rcases hother with hother | hother
  · rcases hinputs other hother with hold | ⟨rfl, hfree⟩
    · exact hseparate other (.inl hold)
    · exact not_isolated hfree
  · exact hseparate other (.inr hother)

theorem put_item_input (s : DialogueServerState) (response : String) (output : Nat) (item : OutputItem) :
    SameInput s (s.put_item response output item) := by
  unfold put_item
  split <;> exact ⟨rfl, rfl, rfl, rfl⟩

theorem Opened.separate {response : String} {output : Nat} {r : ResponseState} {item item' : OutputItem}
    (h : Opened s response output id r item) (hseparate : s.Separate)
    (hsame : SameLedger ((s.own id response output).put_item response output item') s') : s'.Separate := by
  have hinput := put_item_input (s.own id response output) response output item'
  have howned : (s.own id response output).Separate := by
    intro other hother
    obtain ⟨howner, hrole⟩ := hseparate other hother
    refine ⟨fun hmem => ?_, hrole⟩
    rcases (AList.mem_insert _).mp hmem with rfl | hmem
    · obtain ⟨hfree, -, hvalid, hambient⟩ := h.apart
      rcases hother with hother | hother | hother
      · exact hfree hother
      · exact hvalid hother
      · exact hambient hother
    · exact howner hmem
  refine Separate.same ?_ hsame
  unfold Separate
  rw [hinput.inputs, hinput.invalid_inputs, hinput.ambient_inputs, hinput.conversation_items, put_item_owners]
  exact howned

theorem Answers.inputs {input : Option String} (h : Answers s s' input) : ∀ id ∈ s'.inputs, id ∈ s.inputs := by
  cases h with
  | nobody => exact fun id hid => hid
  | input id _ hi _ =>
    intro other hother
    rcases (AList.mem_insert _).mp hother with rfl | hother
    · exact mem_of_lookup hi
    · exact hother

theorem Answers.rest {input : Option String} (h : Answers s s' input) :
    s'.invalid_inputs = s.invalid_inputs ∧ s'.ambient_inputs = s.ambient_inputs ∧
      s'.conversation_items = s.conversation_items := by
  cases h <;> exact ⟨rfl, rfl, rfl⟩

theorem retire_responses_input (rounds : Nat) (s : DialogueServerState) :
    SameInput s (retire_responses rounds s) := by
  refine retire_responses_keeps (SameInput s) (fun _ _ h _ => ?_) rounds ⟨rfl, rfl, rfl, rfl⟩
  exact ⟨h.inputs, h.invalid_inputs, h.ambient_inputs, h.conversation_items⟩

theorem retire_responses_owners (rounds : Nat) (s : DialogueServerState) :
    ∀ id ∈ (retire_responses rounds s).item_owners, id ∈ s.item_owners := by
  refine retire_responses_keeps (fun t => ∀ id ∈ t.item_owners, id ∈ s.item_owners) (fun t old h _ => ?_) rounds
    (fun id hid => hid)
  intro id hid
  refine h id ?_
  rw [← AList.lookup_isSome] at hid ⊢
  have hlookup : (t.retire_response old).item_owners.lookup id =
      (t.item_owners.lookup id).filter fun owner => owner.1 != old := lookup_retain_values _ _ _
  rw [hlookup] at hid
  cases hold : t.item_owners.lookup id with
  | none => simp [hold] at hid
  | some owner => rfl

/-- Every event but an invalid turn under an announced assistant's item keeps the ids apart. -/
theorem Taken.separate {kind : EventKind} (h : Taken a s event kind s' result) (hseparate : s.Separate)
    (hsafe : ∀ id, kind = .speech .stopped → Invalidates a s event id →
      s.conversation_items.lookup id ≠ some "assistant") : s'.Separate := by
  cases h with
  | aside _ _ hsame => exact hseparate.same hsame
  | listened _ _ hlistened => exact hlistened.separate hseparate
  | @user id _ hlistened _ =>
    intro other hother
    obtain ⟨howner, hrole⟩ := hlistened.separate hseparate other hother
    refine ⟨howner, ?_⟩
    by_cases hsame : other = id
    · rw [hsame, AList.lookup_insert]
      decide
    · rw [AList.lookup_insert_ne hsame]
      exact hrole
  | @assistant id hinput hinvalid hambient _ =>
    intro other hother
    obtain ⟨howner, hrole⟩ := hseparate other hother
    refine ⟨howner, ?_⟩
    have hother' : other ≠ id := by
      rintro rfl
      rcases hother with hother | hother | hother
      · exact hinput hother
      · exact hinvalid hother
      · exact hambient hother
    rw [AList.lookup_insert_ne hother']
    exact hrole
  | @invalidated id _ hqwen hid hreason hstamp hinvalid =>
    obtain ⟨howner, hanswered, hroom, rfl⟩ := invalidate_ok hinvalid
    intro other hother
    by_cases hsame : other = id
    · subst hsame
      exact ⟨howner, hsafe other rfl ⟨hid, hstamp, hreason, hqwen, howner, hanswered, hroom⟩⟩
    · refine hseparate other ?_
      simpa [AList.mem_erase, hsame] using hother
  | @ambient _ id hinput howner hconversation =>
    intro other hother
    by_cases hsame : other = id
    · subst hsame
      refine ⟨howner, ?_⟩
      rw [AList.lookup_eq_none.mpr hconversation]
      simp
    · refine hseparate other ?_
      simpa [hsame] using hother
  | created _ _ hanswers =>
    obtain ⟨hinvalid, hambient, hconversation⟩ := hanswers.rest
    intro other hother
    rw [hinvalid, hambient] at hother
    rw [hanswers.output.item_owners, hconversation]
    exact hseparate other (hother.imp_left (hanswers.inputs other))
  | output _ _ hopened _ hsame _ _ _ _ _ _ => exact hopened.separate hseparate hsame
  | @done id _ r _ _ _ _ _ _ _ _ =>
    intro other hother
    have hinput := retire_responses_input s.response_order.length
      { s with responses := s.responses.insert id r.finished }
    rw [hinput.inputs, hinput.invalid_inputs, hinput.ambient_inputs] at hother
    obtain ⟨howner, hrole⟩ := hseparate other hother
    rw [hinput.conversation_items]
    refine ⟨fun hmem => howner ?_, hrole⟩
    exact retire_responses_owners _ { s with responses := s.responses.insert id r.finished } other hmem

theorem parse_stopped {kind : String} (h : EventKind.parse kind = .speech .stopped) :
    kind = "input_audio_buffer.speech_stopped" := by
  have htable : ∀ e ∈ EVENT_KINDS, e.2 = .speech .stopped → e.1 = "input_audio_buffer.speech_stopped" := by
    decide
  unfold EventKind.parse at h
  cases hlookup : EVENT_KINDS.lookup kind with
  | none =>
    rw [hlookup] at h
    cases h
  | some found =>
    rw [hlookup, Option.getD_some] at h
    obtain ⟨before, _, heq, -⟩ := List.lookup_eq_some_iff.mp hlookup
    exact htable (kind, found) (heq ▸ List.mem_append_right before List.mem_cons_self) h

theorem apply_speech_active {mark : SpeechMark}
    (h : s.apply codec a event (.speech mark) = .ok (s', result)) : s.active = true := by
  obtain ⟨_, hactive, -⟩ := bind_ok h
  exact require_ok hactive

/-- An invalid turn that is taken puts its item among the invalid inputs. -/
theorem Revokes.step (h : Revokes codec s a event id) :
    id ∈ (s.step codec (.server a event)).invalid_inputs ∧
      (s.step codec (.server a event)).conversation_items = s.conversation_items := by
  obtain ⟨event_id, hid⟩ := h.enters.event_id
  have hadmitted := h.enters.admitted hid
  obtain ⟨hitem, hstamp, hreason, hqwen, howner, hanswered, hroom⟩ := h.invalidates
  have hkind : EventKind.parse "input_audio_buffer.speech_stopped" = .speech .stopped := by decide
  have hstep : s.step codec (.server a event) =
      ((s.admit_event codec a event).toOption.map (·.1)).getD s := rfl
  have happly : (s.entered codec a).apply codec a event (.speech .stopped) =
      .ok ({ s.entered codec a with
        inputs := s.inputs.erase id
        invalid_inputs := insert id s.invalid_inputs
        invalidated_item := some id
        ignored := true }, {}) := by
    unfold apply
    dsimp only
    rw [require_pos (show (s.entered codec a).active = true from h.active), ok_bind]
    unfold apply_active speech_event
    dsimp only
    rw [hitem, ok_bind, require_pos (by simpa [stamp_key] using hstamp), ok_bind, hreason]
    dsimp only
    rw [require_pos ⟨hqwen, rfl, rfl⟩, ok_bind]
    unfold invalidate
    rw [require_pos (show id ∉ (s.entered codec a).item_owners ∧
      ((s.entered codec a).inputs.lookup id).any (·.answered) = false from ⟨howner, hanswered⟩), ok_bind,
      require_pos (show (s.entered codec a).invalid_inputs.card < MAX_INPUT_ITEMS from hroom), ok_bind]
    rfl
  rw [hkind, happly] at hadmitted
  rw [hadmitted] at hstep
  rw [hstep]
  have hsame := remember_same { s.entered codec a with
    inputs := s.inputs.erase id
    invalid_inputs := insert id s.invalid_inputs
    invalidated_item := some id
    ignored := true } event_id (bailian_protocol.sha256_canonical_json codec event)
  constructor
  · exact hsame.invalid_inputs ▸ Finset.mem_insert_self id s.invalid_inputs
  · exact hsame.conversation_items

/-- A step keeps the ids apart exactly when it does not take back an item of the assistant. -/
theorem step_separate_iff (h : s.Separate) (op : Op) :
    (s.step codec op).Separate ↔ ¬ ∃ a event id, op = .server a event ∧ Revokes codec s a event id := by
  constructor
  · rintro hafter ⟨a, event, id, rfl, hrevokes⟩
    obtain ⟨hinvalid, hconversation⟩ := hrevokes.step
    refine (hafter id (.inr (.inl hinvalid))).2 ?_
    rw [hconversation]
    exact hrevokes.announced
  · intro hsafe
    rcases s.step_cases codec op with ⟨hsame, -⟩ | ⟨a, event, rfl, hsame⟩ | ⟨a, event, _, rfl, hadmitted⟩ |
      ⟨_, _, rfl, habandoned⟩
    · rw [hsame]
      exact h
    · exact h.same hsame
    · by_cases hreplayed : s.Replayed event
      · rcases admitted_cases hadmitted with ⟨-, hsame, -⟩ | ⟨_, s₁, hnew, -, -, -⟩
        · exact h.same hsame
        · exact absurd hreplayed hnew
      · obtain ⟨_, s₁, henters, happly, hafter⟩ := admitted_enters hadmitted hreplayed
        have hseparate : (s.entered codec a).Separate := h.same ⟨rfl, rfl, rfl, rfl, rfl, rfl, rfl⟩
        refine ((apply_taken happly).separate hseparate fun id hkind hinvalidates hannounced => ?_).same hafter
        refine hsafe ⟨a, event, id, rfl, ?_, ?_, ?_, hannounced⟩
        · rw [← parse_stopped hkind]
          exact henters
        · rw [hkind] at happly
          have hactive : (s.entered codec a).active = true := apply_speech_active happly
          exact hactive
        · obtain ⟨hitem, hstamp, hreason, hqwen, howner, hanswered, hroom⟩ := hinvalidates
          exact ⟨hitem, hstamp, hreason, hqwen, howner, hanswered, hroom⟩
    · obtain ⟨_, hi, -, heq⟩ := abandon_ok habandoned
      rw [heq]
      intro other hother
      refine h other (hother.imp_left fun hmem => ?_)
      rcases (AList.mem_insert _).mp hmem with rfl | hmem
      · exact mem_of_lookup hi
      · exact hmem

/-- The ids of inputs and of outputs stay apart throughout a run exactly when no invalid turn takes back an
item that was announced as the assistant's. -/
theorem input_and_output_ids_stay_apart_iff (codec : Codec) (ops : List Op) :
    Along (step codec) (fun s op => (s.step codec op).Separate) {} ops ↔
      Along (step codec) (fun s op => ¬ ∃ a event id, op = .server a event ∧ Revokes codec s a event id) {}
        ops := by
  refine Along.congr Separate ?_ (Along.of_forall (fun _ _ => True) (fun _ _ => trivial) _ _)
    (fun s op h _ => step_separate_iff h op) fun s op _ _ hafter => hafter
  intro id hid
  rcases hid with hid | hid | hid
  · exact absurd hid (AList.notMem_empty id)
  · simp at hid
  · simp at hid

end DialogueServerState

/-! ## A Qwen-Audio session -/

/-- The texts of the sample need no escapes, and as no event has an id, no hash is looked at. -/
def sample_codec : Codec where
  sha256 _ := ""
  string_text text := "\"" ++ text ++ "\""
  number_text
    | .pos n => toString n
    | _ => ""
  base64_decode _ := none

def sample_authority : AuthorizedModelProtocolProfile where
  adapter_id := "desktop-qwen-audio-session-v1"
  wire_dialect := QWEN_AUDIO_DIALECT_ID
  wire_dialect_version := 1
  exact_model_id := "qwen-audio-3.1-realtime-plus"
  registered := true
  profile_id := "bailian.qwen-audio.3_1.realtime.ws"
  profile_version := 1
  region := "cn-beijing"
  endpoint_host := "dashscope.aliyuncs.com"
  operation := "dialogue"

def sample_session : Value :=
  .object [("input_audio_format", .string "pcm"), ("modalities", .array [.string "text"])]

def sample_event (kind : String) (fields : List (String × Value)) : DialogueServerState.Op :=
  .server sample_authority (.object (fields ++ [("type", .string kind)]))

/-- The session is set up. -/
def sample_setup : List DialogueServerState.Op :=
  [.update sample_authority (.object [("session", sample_session), ("type", .string "session.update")]),
    sample_event "session.created" [("session", .object [("id", .string "session-1")])],
    sample_event "session.updated" [("session", .object [("id", .string "session-1")])]]

/-- An item is announced as the assistant's, and its turn is then found invalid. -/
def revoked_item : List DialogueServerState.Op :=
  sample_setup ++
    [sample_event "conversation.item.created" [("item", .object [("content", .array []), ("id", .string "item-1"),
      ("role", .string "assistant"), ("type", .string "message")])],
    sample_event "input_audio_buffer.speech_stopped" [("audio_end_ms", .number (.pos 900)),
      ("item_id", .string "item-1"), ("reason", .string "turn_invalid")]]

theorem invalid_turn_takes_back_an_assistant_item :
    ¬ (run (DialogueServerState.step sample_codec) {} revoked_item).Separate := by
  intro h
  exact (h "item-1" (.inr (.inl (by decide +kernel)))).2 (by decide +kernel)

end omni_translate.bailian_dialogue
