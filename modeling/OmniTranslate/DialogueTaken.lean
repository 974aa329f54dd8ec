-- What an admitted event of a dialogue session does to the ledgers of items and
-- responses, from `audio/bailian_dialogue.rs`: one case for each way in which
-- they change, with the checks that were passed.
import OmniTranslate.DialogueState

namespace omni_translate.bailian_dialogue

open calls json maps
open bailian_protocol (Codec Map LiveTranslateServerMutation)

/-- The stream of an item's part. -/
def OutputItem.stream (i : OutputItem) (content : Nat) (audio : Bool) : Option TextStream :=
  (i.parts.lookup content).bind (·.stream audio)

def kind_of (event : Value) : EventKind := .parse ((event.get_str "type").getD "")

namespace DialogueServerState

variable {codec : Codec} {a : AuthorizedModelProtocolProfile} {s s' : DialogueServerState} {event : Value}
  {result : LiveTranslateServerMutation}

/-- The ledgers are the same. -/
structure SameLedger (s s' : DialogueServerState) : Prop where
  responses : s'.responses = s.responses
  response_order : s'.response_order = s.response_order
  item_owners : s'.item_owners = s.item_owners
  inputs : s'.inputs = s.inputs
  invalid_inputs : s'.invalid_inputs = s.invalid_inputs
  ambient_inputs : s'.ambient_inputs = s.ambient_inputs
  conversation_items : s'.conversation_items = s.conversation_items

theorem SameLedger.refl (s : DialogueServerState) : SameLedger s s := ⟨rfl, rfl, rfl, rfl, rfl, rfl, rfl⟩

theorem SameLedger.trans {t : DialogueServerState} (h : SameLedger s s') (h' : SameLedger s' t) :
    SameLedger s t where
  responses := h'.responses.trans h.responses
  response_order := h'.response_order.trans h.response_order
  item_owners := h'.item_owners.trans h.item_owners
  inputs := h'.inputs.trans h.inputs
  invalid_inputs := h'.invalid_inputs.trans h.invalid_inputs
  ambient_inputs := h'.ambient_inputs.trans h.ambient_inputs
  conversation_items := h'.conversation_items.trans h.conversation_items

/-! ## Inputs -/

/-- There is room for an input: there was, or an answered one was retired. -/
inductive Room (s : DialogueServerState) : DialogueServerState → Prop
  | kept : Room s s
  | retired (old : String) (i : InputState) : s.inputs.lookup old = some i → i.answered = true →
      MAX_INPUT_ITEMS ≤ s.inputs.entries.length → Room s { s with inputs := s.inputs.erase old }

/-- The input that an event speaks of: one that is there, or a new one. -/
inductive Found (s : DialogueServerState) (id : String) : DialogueServerState → InputState → Prop
  | known {i : InputState} : s.inputs.lookup id = some i → Found s id s i
  | fresh {room : DialogueServerState} : s.inputs.lookup id = none → Room s room →
      Found s id room { pending := true }

theorem make_room_ok {room : DialogueServerState} (h : s.make_room = .ok room) : Room s room := by
  unfold make_room at h
  split at h
  · obtain rfl := Except.ok.inj h
    exact .kept
  · rename_i hfull
    split at h
    · rename_i e he
      obtain rfl := Except.ok.inj h
      have hresolved := List.find?_some he
      have hmem := (List.mem_insertionSort _).mp (List.mem_of_find?_eq_some he)
      simp only [Bool.and_eq_true] at hresolved
      exact .retired e.1 e.2 (AList.mem_lookup_iff.mpr hmem) hresolved.1 (Nat.le_of_not_lt hfull)
    · cases h

variable {id : String}

theorem input_ok {room : DialogueServerState} {i : InputState} (h : s.input id = .ok (room, i)) :
    ¬ s.input_isolated id ∧ Found s id room i := by
  obtain ⟨_, hfree, h⟩ := bind_ok h
  refine ⟨require_ok hfree, ?_⟩
  split at h
  · rename_i _ hknown
    obtain ⟨rfl, rfl⟩ := pure_ok h
    exact .known hknown
  · rename_i hnone
    obtain ⟨_, hroom, h⟩ := bind_ok h
    obtain ⟨rfl, rfl⟩ := pure_ok h
    exact .fresh hnone (make_room_ok hroom)

/-- An event about an input is ignored, or the input hears it and stays as settled as it was. -/
inductive Listened (s : DialogueServerState) (id : String) : DialogueServerState → Prop
  | ignored {s' : DialogueServerState} : SameLedger s s' → Listened s id s'
  | heard {room s' : DialogueServerState} {i i' : InputState} : ¬ s.input_isolated id → Found s id room i →
      SameLedger (room.put_input id i') s' → i'.pending = i.pending → i'.answered = i.answered →
      i'.abandoned = i.abandoned → Listened s id s'

/-! ## Items -/

/-- An item of a running response takes an event. -/
structure Opened (s : DialogueServerState) (response : String) (output : Nat) (id : String)
    (r : ResponseState) (item : OutputItem) : Prop where
  found : s.responses.lookup response = some r
  running : r.done = false
  apart : id ∉ s.inputs ∧ (∀ role ∈ s.conversation_items.lookup id, role = "assistant") ∧
    id ∉ s.invalid_inputs ∧ id ∉ s.ambient_inputs
  owner : ∀ owner ∈ s.item_owners.lookup id, owner = (response, output)
  item_eq : item = (r.items.lookup output).getD { id }
  same_id : item.id = id

variable {item : OutputItem}

theorem item_mut_ok {response id : String} {output : Nat}
    (h : s.item_mut response output id = .ok (s', item)) :
    (∃ r, Opened s response output id r item) ∧
      s' = s.own id response output := by
  obtain ⟨r, hr, h⟩ := bind_ok h
  obtain ⟨_, hapart, h⟩ := bind_ok h
  obtain ⟨_, howner, h⟩ := bind_ok h
  obtain ⟨_, hsame, h⟩ := bind_ok h
  obtain ⟨rfl, rfl⟩ := pure_ok h
  obtain ⟨hfound, hrunning⟩ := Option.filter_eq_some_iff.mp (expect_ok hr)
  refine ⟨⟨r, hfound, by simpa using hrunning, require_ok hapart, require_ok howner, rfl, ?_⟩, rfl⟩
  exact (require_ok hsame).1

theorem part_mut_ok {p : PartMut} (h : s.part_mut event = .ok (s', p)) :
    text event "response_id" = .ok p.response ∧ index event "output_index" = .ok p.output ∧
      index event "content_index" = .ok p.content ∧
      (∃ id, (∃ r, Opened s p.response p.output id r p.item) ∧
        s' = s.own id p.response p.output) ∧
      p.part = (p.item.parts.lookup p.content).getD {} := by
  obtain ⟨response, hresponse, h⟩ := bind_ok h
  obtain ⟨id, -, h⟩ := bind_ok h
  obtain ⟨output, houtput, h⟩ := bind_ok h
  obtain ⟨content, hcontent, h⟩ := bind_ok h
  obtain ⟨⟨_, item⟩, hitem, h⟩ := bind_ok h
  obtain ⟨_, -, h⟩ := bind_ok h
  obtain ⟨rfl, rfl⟩ := pure_ok h
  exact ⟨hresponse, houtput, hcontent, ⟨id, item_mut_ok hitem⟩, rfl⟩

theorem index_lt {key : String} {n : Nat} (h : index event key = .ok n) : n < 32 := by
  have hfilter := (Option.filter_eq_some_iff.mp (expect_ok h)).2
  simpa using hfilter

/-- What an event does to the streams of an item. -/
inductive Change (event : Value) (response : String) (output : Nat) (item item' : OutputItem) : EventKind → Prop
  | quiet {kind : EventKind} : (∀ audio done, kind ≠ .text audio done) →
      (∀ content audio, item'.stream content audio = item.stream content audio) →
      Change event response output item item' kind
  | text {audio done : Bool} {content : Nat} {value : String} :
      string event (if !done then "delta" else if audio then "transcript" else "text") = .ok value →
      text event "response_id" = .ok response → index event "output_index" = .ok output →
      index event "content_index" = .ok content →
      (∀ c b, item'.stream c b = if c = content ∧ b = audio then
        some { text := if done then value else ((item.stream content audio).getD {}).text ++ value, done }
        else item.stream c b) →
      Change event response output item item' (.text audio done)

/-- A response answers an input that was waiting for it, or none. -/
inductive Answers (s : DialogueServerState) : DialogueServerState → Option String → Prop
  | nobody : Answers s s none
  | input (id : String) (i : InputState) : s.inputs.lookup id = some i → i.answerable = true →
      Answers s (s.put_input id { i with pending := false, answered := true }) (some id)

theorem correlate_ok {candidate : Option String} (h : s.correlate_input event = .ok (s', candidate)) :
    Answers s s' candidate := by
  obtain ⟨explicit, -, h⟩ := bind_ok h
  obtain ⟨_, hfound, h⟩ := bind_ok h
  obtain ⟨rfl, rfl⟩ := pure_ok h
  have hanswer : ∀ id i, s.inputs.lookup id = some i → i.answerable = true →
      Answers s (((some id).map s.answer).getD s) (some id) := by
    intro id i hi hready
    have heq : s.answer id = s.put_input id { i with pending := false, answered := true } := by
      unfold answer
      rw [hi]
    rw [Option.map_some, Option.getD_some, heq]
    exact .input id i hi hready
  cases explicit with
  | some id =>
    obtain ⟨_, hready, hid⟩ := bind_ok hfound
    obtain rfl := Except.ok.inj hid
    obtain ⟨i, hi, hready⟩ := (Option.any_eq_true _ _).mp (require_ok hready)
    exact hanswer id i hi hready
  | none =>
    dsimp only [DialogueServerState.candidate] at hfound
    split at hfound
    · rename_i e he
      obtain rfl := Except.ok.inj hfound
      have hmem : e ∈ s.inputs.entries.filter (·.2.answerable) := by
        rw [he]
        exact List.mem_singleton_self e
      obtain ⟨hentry, hready⟩ := List.mem_filter.mp hmem
      exact hanswer e.1 e.2 (AList.mem_lookup_iff.mpr hentry) hready
    · obtain rfl := Except.ok.inj hfound
      exact .nobody

/-! ## Events -/

/-- How an event changes the ledgers, and what it tells. -/
inductive Taken (a : AuthorizedModelProtocolProfile) (s : DialogueServerState) (event : Value) :
    EventKind → DialogueServerState → LiveTranslateServerMutation → Prop
  | aside {kind : EventKind} {s' : DialogueServerState} : (∀ audio done, kind ≠ .text audio done) →
      kind ≠ .response_created → SameLedger s s' → Taken a s event kind s' {}
  | listened {kind : EventKind} {id : String} {s' : DialogueServerState} :
      (∀ audio done, kind ≠ .text audio done) → kind ≠ .response_created → Listened s id s' →
      Taken a s event kind s' {}
  | user {id : String} {mid : DialogueServerState} : Listened s id mid → id ∉ s.conversation_items →
      Taken a s event .conversation_item_created
        { mid with conversation_items := mid.conversation_items.insert id "user" } {}
  | assistant {id : String} : id ∉ s.inputs → id ∉ s.invalid_inputs → id ∉ s.ambient_inputs →
      id ∉ s.conversation_items →
      Taken a s event .conversation_item_created
        { s with conversation_items := s.conversation_items.insert id "assistant" } {}
  | invalidated {id : String} {s' : DialogueServerState} : is_omni a = false →
      text event "item_id" = .ok id → event.get "reason" = some (.string "turn_invalid") →
      (event.get "audio_end_ms").any (·.as_u64.isSome) = true →
      s.invalidate id = .ok s' → Taken a s event (.speech .stopped) s' {}
  | ambient {phase : TranscriptionPhase} {id : String} : id ∉ s.inputs → id ∉ s.item_owners →
      id ∉ s.conversation_items →
      Taken a s event (.transcription true phase)
        { s with ambient_inputs := insert id s.ambient_inputs, ignored := true } {}
  | created {id : String} {prefer_audio : Bool} {mid : DialogueServerState} {input_item : Option String} :
      text (event.index "response") "id" = .ok id → id ∉ s.responses → Answers s mid input_item →
      Taken a s event .response_created
        { mid with
          responses := mid.responses.insert id { prefer_audio, input_item }
          response_order := mid.response_order ++ [id] } {}
  | output {kind : EventKind} {response id : String} {output : Nat} {r : ResponseState}
      {item item' : OutputItem} {s' : DialogueServerState} {result : LiveTranslateServerMutation} :
      kind ≠ .response_created → kind ≠ .response_done →
      Opened s response output id r item → Change event response output item item' kind →
      SameLedger ((s.own id response output).put_item response output item') s' →
      output < 32 → item'.id = item.id → (∀ content ∈ item'.parts, content ∈ item.parts ∨ content < 32) →
      (result.normalized_text = none ∨
        (text event "response_id" = .ok response ∧ result.normalized_text = s'.selected_text response false)) →
      result.response_terminal_status = none →
      (result.completed_response_text = none ∨ result.completed_response_text = result.normalized_text) →
      Taken a s event kind s' result
  | done {id status : String} {r : ResponseState} {result : LiveTranslateServerMutation} :
      text (event.index "response") "id" = .ok id →
      s.responses.lookup id = some r → r.done = false →
      (status = "completed" → ∀ e ∈ r.items.entries, item_open e.2 = false) →
      result.normalized_text = s.selected_text id true → result.response_terminal_status = some status →
      (result.completed_response_text = none ∨ result.completed_response_text = result.normalized_text) →
      Taken a s event .response_done
        (retire_responses s.response_order.length
          { s with responses := s.responses.insert id r.finished }) result

theorem session_created_taken (h : s.session_created a event = .ok (s', result)) :
    SameLedger s s' ∧ result = {} := by
  iterate 3 obtain ⟨_, -, h⟩ := bind_ok h
  obtain ⟨rfl, rfl⟩ := pure_ok h
  exact ⟨⟨rfl, rfl, rfl, rfl, rfl, rfl, rfl⟩, rfl⟩

theorem session_updated_taken (h : s.session_updated a event = .ok (s', result)) :
    SameLedger s s' ∧ result = {} := by
  iterate 5 obtain ⟨_, -, h⟩ := bind_ok h
  obtain ⟨rfl, rfl⟩ := pure_ok h
  exact ⟨⟨rfl, rfl, rfl, rfl, rfl, rfl, rfl⟩, rfl⟩

theorem error_event_taken (h : s.error_event event = .ok (s', result)) : SameLedger s s' ∧ result = {} := by
  obtain ⟨_, -, h⟩ := bind_ok h
  obtain ⟨rfl, rfl⟩ := pure_ok h
  exact ⟨.refl s, rfl⟩

theorem user_item_ok (h : s.user_item id = .ok s') : Listened s id s' := by
  unfold user_item at h
  split at h
  · obtain rfl := Except.ok.inj h
    exact .ignored ⟨rfl, rfl, rfl, rfl, rfl, rfl, rfl⟩
  · obtain ⟨⟨_, _⟩, hinput, h⟩ := bind_ok h
    obtain rfl := Except.ok.inj h
    obtain ⟨hfree, hfound⟩ := input_ok hinput
    exact .heard hfree hfound (.refl _) rfl rfl rfl

theorem conversation_item_created_taken (h : s.conversation_item_created event = .ok (s', result)) :
    Taken a s event .conversation_item_created s' result := by
  iterate 2 obtain ⟨_, -, h⟩ := bind_ok h
  obtain ⟨_, hrole, h⟩ := bind_ok h
  obtain ⟨_, -, h⟩ := bind_ok h
  obtain ⟨_, hfresh, h⟩ := bind_ok h
  iterate 2 obtain ⟨_, -, h⟩ := bind_ok h
  obtain ⟨_, hmid, h⟩ := bind_ok h
  obtain ⟨_, -, h⟩ := bind_ok h
  obtain ⟨rfl, rfl⟩ := pure_ok h
  have hfresh := require_ok hfresh
  unfold conversation_role at hmid
  split at hmid
  · rename_i huser
    subst huser
    obtain ⟨_, -, hmid⟩ := bind_ok hmid
    exact .user (user_item_ok hmid) hfresh
  · rename_i hother
    obtain ⟨_, hapart, hmid⟩ := bind_ok hmid
    obtain ⟨_, -, hmid⟩ := bind_ok hmid
    obtain rfl := Except.ok.inj hmid
    have hrole := (require_ok hrole).2
    simp only [List.mem_cons, hother, List.not_mem_nil, or_false, false_or] at hrole
    subst hrole
    obtain ⟨hinput, hinvalid, hambient⟩ := require_ok hapart
    exact .assistant hinput hinvalid hambient hfresh

theorem mark_speech_ok {mark : SpeechMark} (h : s.mark_speech mark id = .ok s') :
    Listened s id s' := by
  obtain ⟨⟨_, _⟩, hinput, h⟩ := bind_ok h
  obtain ⟨hfree, hfound⟩ := input_ok hinput
  obtain ⟨_, -, h⟩ := bind_ok h
  split at h
  · obtain ⟨_, -, h⟩ := bind_ok h
    obtain rfl := Except.ok.inj h
    exact .heard hfree hfound (.refl _) rfl rfl rfl
  · obtain rfl := Except.ok.inj h
    exact .heard hfree hfound (.refl _) rfl rfl rfl

theorem speech_event_taken {mark : SpeechMark} (h : s.speech_event a mark event = .ok (s', result)) :
    Taken a s event (.speech mark) s' result := by
  obtain ⟨_, hid, h⟩ := bind_ok h
  obtain ⟨_, hstamp, h⟩ := bind_ok h
  split at h
  · rename_i _ hreason
    obtain ⟨_, hallowed, hrest⟩ := bind_ok h
    obtain ⟨s₁, hinvalid, hrest⟩ := bind_ok hrest
    obtain ⟨rfl, rfl⟩ := pure_ok hrest
    obtain ⟨hqwen, rfl, rfl⟩ := require_ok hallowed
    exact .invalidated hqwen hid hreason (require_ok hstamp _ rfl) hinvalid
  · obtain ⟨s₁, hmark, h⟩ := bind_ok h
    obtain ⟨rfl, rfl⟩ := pure_ok h
    exact .listened (by simp) (by simp) (mark_speech_ok hmark)

theorem transcription_event_taken {ambient : Bool} {phase : TranscriptionPhase}
    (h : s.transcription_event a ambient phase event = .ok (s', result)) :
    Taken a s event (.transcription ambient phase) s' result := by
  iterate 4 obtain ⟨_, -, h⟩ := bind_ok h
  obtain ⟨_, hs₁, h⟩ := bind_ok h
  obtain ⟨rfl, rfl⟩ := pure_ok h
  unfold transcribe at hs₁
  split at hs₁
  · rename_i hambient
    subst hambient
    obtain ⟨_, hapart, hs₁⟩ := bind_ok hs₁
    obtain ⟨_, -, hs₁⟩ := bind_ok hs₁
    obtain rfl := Except.ok.inj hs₁
    obtain ⟨-, hinput, howner, hconversation⟩ := require_ok hapart
    exact .ambient hinput howner hconversation
  · unfold input_transcription at hs₁
    split at hs₁
    · obtain rfl := Except.ok.inj hs₁
      exact .aside (by simp) (by simp) ⟨rfl, rfl, rfl, rfl, rfl, rfl, rfl⟩
    · obtain ⟨⟨_, _⟩, hinput, hs₁⟩ := bind_ok hs₁
      obtain ⟨hfree, hfound⟩ := input_ok hinput
      obtain ⟨_, -, hs₁⟩ := bind_ok hs₁
      obtain rfl := Except.ok.inj hs₁
      exact .listened (by simp) (by simp) (.heard hfree hfound (.refl _) rfl rfl rfl)

theorem response_created_taken (h : s.response_created event = .ok (s', result)) :
    Taken a s event .response_created s' result := by
  obtain ⟨_, hid, h⟩ := bind_ok h
  obtain ⟨_, hfresh, h⟩ := bind_ok h
  iterate 5 obtain ⟨_, -, h⟩ := bind_ok h
  obtain ⟨⟨_, _⟩, hmid, h⟩ := bind_ok h
  obtain ⟨rfl, rfl⟩ := pure_ok h
  exact .created hid (require_ok hfresh) (correlate_ok hmid)

/-! ## Output events -/

variable {content : Nat} {part : OutputPart}

/-- A part that keeps its streams leaves those of its item. -/
theorem stream_insert_part
    (hpart : ∀ audio, part.stream audio = ((item.parts.lookup content).getD {}).stream audio)
    (c : Nat) (audio : Bool) :
    OutputItem.stream { item with parts := item.parts.insert content part } c audio = item.stream c audio := by
  unfold OutputItem.stream
  by_cases hc : c = content
  · subst hc
    rw [AList.lookup_insert, Option.bind_some, hpart]
    cases item.parts.lookup c with
    | none => cases audio <;> rfl
    | some _ => rfl
  · rw [AList.lookup_insert_ne hc]

theorem stream_with_stream {audio : Bool} {stream : TextStream} (c : Nat) (b : Bool) :
    OutputItem.stream { item with
      parts := item.parts.insert content (((item.parts.lookup content).getD {}).with_stream audio stream) } c b =
      if c = content ∧ b = audio then some stream else item.stream c b := by
  unfold OutputItem.stream
  by_cases hc : c = content
  · subst hc
    cases item.parts.lookup c <;> cases audio <;> cases b <;>
      simp [OutputPart.with_stream, OutputPart.stream]
  · simp only [AList.lookup_insert_ne hc, hc, false_and, if_false]

theorem stream_getD (item : OutputItem) (content : Nat) (audio : Bool) :
    ((item.parts.lookup content).getD {}).stream audio = item.stream content audio := by
  unfold OutputItem.stream
  cases item.parts.lookup content with
  | none => cases audio <;> rfl
  | some _ => rfl

theorem mem_insert_part (hcontent : content < 32) :
    ∀ c ∈ item.parts.insert content part, c ∈ item.parts ∨ c < 32 := by
  intro c hc
  rcases (AList.mem_insert _).mp hc with rfl | hc
  · exact .inr hcontent
  · exact .inl hc

theorem text_event_taken {audio done : Bool} (h : s.text_event audio done event = .ok (s', result)) :
    Taken a s event (.text audio done) s' result := by
  obtain ⟨id, hid, h⟩ := bind_ok h
  obtain ⟨value, hvalue, h⟩ := bind_ok h
  obtain ⟨r, -, h⟩ := bind_ok h
  obtain ⟨⟨_, p⟩, hp, h⟩ := bind_ok h
  iterate 3 obtain ⟨_, -, h⟩ := bind_ok h
  obtain ⟨hresponse, houtput, hcontent, ⟨_, ⟨_, hopened⟩, rfl⟩, hpart⟩ := part_mut_ok hp
  have hchange : Change event p.response p.output p.item
      { p.item with parts := p.item.parts.insert p.content (p.part.with_stream audio
        { text := if done then value else ((p.part.stream audio).getD {}).text ++ value, done }) }
      (.text audio done) := by
    refine .text hvalue hresponse houtput hcontent fun _ _ => ?_
    rw [hpart, stream_with_stream, stream_getD]
  have hid' : p.response = id := by
    rw [hresponse] at hid
    exact Except.ok.inj hid
  by_cases hselected : r.prefer_audio = audio
  · rw [if_pos hselected] at h
    obtain ⟨rfl, rfl⟩ := pure_ok h
    refine .output (by simp) (by simp) hopened hchange (.refl _) (index_lt houtput) rfl
      (mem_insert_part (index_lt hcontent)) (.inr ⟨hresponse, ?_⟩) rfl ?_
    · rw [hid']
    · cases done
      · exact .inl rfl
      · exact .inr rfl
  · rw [if_neg hselected] at h
    obtain ⟨rfl, rfl⟩ := pure_ok h
    exact .output (by simp) (by simp) hopened hchange ⟨rfl, rfl, rfl, rfl, rfl, rfl, rfl⟩ (index_lt houtput) rfl
      (mem_insert_part (index_lt hcontent)) (.inl rfl) rfl (.inl rfl)

/-- An event that changes a part, but none of its streams. -/
theorem put_part_taken {kind : EventKind} {s₁ : DialogueServerState} {p : PartMut}
    (hkind : ∀ audio done, kind ≠ .text audio done) (hcreated : kind ≠ .response_created)
    (hdone : kind ≠ .response_done) (hp : s.part_mut event = .ok (s₁, p))
    (hpart : ∀ audio, part.stream audio = p.part.stream audio) :
    Taken a s event kind (s₁.put_part p part) {} := by
  obtain ⟨-, houtput, hcontent, ⟨_, ⟨_, hopened⟩, rfl⟩, heq⟩ := part_mut_ok hp
  rw [heq] at hpart
  exact .output hcreated hdone hopened (.quiet hkind (stream_insert_part hpart)) (.refl _) (index_lt houtput) rfl
    (mem_insert_part (index_lt hcontent)) (.inl rfl) rfl (.inl rfl)

variable {done : Bool}

theorem audio_event_taken (h : s.audio_event codec done event = .ok (s', result)) :
    Taken a s event (.audio done) s' result := by
  iterate 4 obtain ⟨_, -, h⟩ := bind_ok h
  obtain ⟨⟨_, _⟩, hp, h⟩ := bind_ok h
  obtain ⟨_, -, h⟩ := bind_ok h
  obtain ⟨rfl, rfl⟩ := pure_ok h
  exact put_part_taken (by simp) (by simp) (by simp) hp fun _ => rfl

theorem step_part_stream {value : Value} {p p' : OutputPart} (h : step_part done value p = .ok p')
    (audio : Bool) : p'.stream audio = p.stream audio := by
  unfold step_part at h
  split at h
  · obtain ⟨_, -, h⟩ := bind_ok h
    obtain ⟨_, -, h⟩ := bind_ok h
    obtain rfl := Except.ok.inj h
    rfl
  · obtain ⟨_, -, h⟩ := bind_ok h
    obtain ⟨_, -, h⟩ := bind_ok h
    obtain rfl := Except.ok.inj h
    rfl

theorem content_part_event_taken (h : s.content_part_event done event = .ok (s', result)) :
    Taken a s event (.content_part done) s' result := by
  iterate 2 obtain ⟨_, -, h⟩ := bind_ok h
  obtain ⟨⟨_, _⟩, hp, h⟩ := bind_ok h
  obtain ⟨_, -, h⟩ := bind_ok h
  obtain ⟨_, hstepped, h⟩ := bind_ok h
  obtain ⟨rfl, rfl⟩ := pure_ok h
  exact put_part_taken (by simp) (by simp) (by simp) hp fun audio => step_part_stream hstepped audio

theorem step_item_same {i i' : OutputItem} (h : step_item done i = .ok i') :
    i'.id = i.id ∧ i'.parts = i.parts := by
  unfold step_item at h
  split at h
  · obtain ⟨_, -, h⟩ := bind_ok h
    obtain rfl := Except.ok.inj h
    exact ⟨rfl, rfl⟩
  · obtain ⟨_, -, h⟩ := bind_ok h
    obtain rfl := Except.ok.inj h
    exact ⟨rfl, rfl⟩

theorem output_item_event_taken (h : s.output_item_event done event = .ok (s', result)) :
    Taken a s event (.output_item done) s' result := by
  obtain ⟨_, -, h⟩ := bind_ok h
  obtain ⟨output, houtput, h⟩ := bind_ok h
  iterate 2 obtain ⟨_, -, h⟩ := bind_ok h
  obtain ⟨⟨_, _⟩, hitem, h⟩ := bind_ok h
  obtain ⟨_, hitem', h⟩ := bind_ok h
  obtain ⟨_, -, h⟩ := bind_ok h
  obtain ⟨rfl, rfl⟩ := pure_ok h
  obtain ⟨⟨_, hopened⟩, rfl⟩ := item_mut_ok hitem
  obtain ⟨hid, hparts⟩ := step_item_same hitem'
  refine .output (by simp) (by simp) hopened (.quiet (by simp) ?_) (.refl _) (index_lt houtput) hid ?_ (.inl rfl) rfl
    (.inl rfl)
  · intro content audio
    unfold OutputItem.stream
    rw [hparts]
  · intro content hcontent
    rw [hparts] at hcontent
    exact .inl hcontent

theorem response_done_taken (h : s.response_done event = .ok (s', result)) :
    Taken a s event .response_done s' result := by
  obtain ⟨_, hid, h⟩ := bind_ok h
  obtain ⟨status, -, h⟩ := bind_ok h
  obtain ⟨_, -, h⟩ := bind_ok h
  obtain ⟨_, hr, h⟩ := bind_ok h
  obtain ⟨_, hclosed, h⟩ := bind_ok h
  obtain ⟨_, -, h⟩ := bind_ok h
  obtain ⟨rfl, rfl⟩ := pure_ok h
  obtain ⟨hfound, hrunning⟩ := Option.filter_eq_some_iff.mp (expect_ok hr)
  refine .done hid hfound (by simpa using hrunning) (require_ok hclosed) rfl rfl ?_
  by_cases hcompleted : status = "completed"
  · exact .inr (if_pos hcompleted)
  · exact .inl (if_neg hcompleted)

theorem apply_taken {kind : EventKind} (h : s.apply codec a event kind = .ok (s', result)) :
    Taken a s event kind s' result := by
  unfold apply at h
  split at h
  · obtain ⟨hsame, rfl⟩ := session_created_taken h
    exact .aside (by simp) (by simp) hsame
  · obtain ⟨hsame, rfl⟩ := session_updated_taken h
    exact .aside (by simp) (by simp) hsame
  · obtain ⟨hsame, rfl⟩ := error_event_taken h
    exact .aside (by simp) (by simp) hsame
  · obtain ⟨_, -, h⟩ := bind_ok h
    unfold apply_active at h
    split at h
    · exact conversation_item_created_taken h
    · exact speech_event_taken h
    · exact transcription_event_taken h
    · exact response_created_taken h
    · exact text_event_taken h
    · exact audio_event_taken h
    · exact output_item_event_taken h
    · exact content_part_event_taken h
    · exact response_done_taken h
    · obtain ⟨rfl, rfl⟩ := pure_ok h
      exact .aside (by simp) (by simp) (.refl s)
    · cases h

/-- An event that comes again under its id is admitted and ignored. -/
def Replayed (s : DialogueServerState) (event : Value) : Prop :=
  ∃ id ∈ (optional_event_id event).toOption.join, id ∈ s.seen

instance (s : DialogueServerState) (event : Value) : Decidable (s.Replayed event) :=
  inferInstanceAs (Decidable (∃ id ∈ (optional_event_id event).toOption.join, id ∈ s.seen))

theorem remember_same (s : DialogueServerState) (id : Option String) (hash : String) :
    SameLedger s (s.remember id hash) := by
  unfold remember
  split
  · exact .refl s
  · dsimp only
    split
    · split <;> exact ⟨rfl, rfl, rfl, rfl, rfl, rfl, rfl⟩
    · exact ⟨rfl, rfl, rfl, rfl, rfl, rfl, rfl⟩

theorem renewed_ok (h : s.renewed codec a = .ok s') :
    SameLedger s s' ∧ s'.seen = s.seen ∧ s'.active = s.active := by
  obtain ⟨_, hnext, h⟩ := bind_ok h
  iterate 2 obtain ⟨_, -, hnext⟩ := bind_ok hnext
  obtain rfl := Except.ok.inj hnext
  obtain rfl := Except.ok.inj h
  exact ⟨⟨rfl, rfl, rfl, rfl, rfl, rfl, rfl⟩, rfl, rfl⟩

/-- An admitted event is one that came before and is ignored, or it is applied. -/
theorem admitted_applied (h : s.admit_event codec a event = .ok (s', result)) :
    (s.Replayed event ∧ SameLedger s s' ∧ s'.ignored = true ∧ result = {}) ∨
      ∃ s₀ s₁, ¬ s.Replayed event ∧ SameLedger s s₀ ∧
        s₀.apply codec a event (kind_of event) = .ok (s₁, result) ∧ SameLedger s₁ s' := by
  obtain ⟨kind, hkind, h⟩ := bind_ok h
  iterate 2 obtain ⟨_, -, h⟩ := bind_ok h
  obtain ⟨event_id, hid, h⟩ := bind_ok h
  obtain ⟨s₀, hs₀, h⟩ := bind_ok h
  obtain ⟨hsame, hseen, -⟩ := renewed_ok hs₀
  have hname : kind_of event = .parse kind := by
    obtain ⟨_, hv, hkind⟩ := bind_ok hkind
    obtain ⟨_, -, hkind⟩ := bind_ok hkind
    obtain rfl := Except.ok.inj hkind
    rw [kind_of, expect_ok hv, Option.getD_some]
  split at h
  · rename_i _ hold
    obtain ⟨_, -, h⟩ := bind_ok h
    obtain ⟨rfl, rfl⟩ := pure_ok h
    obtain ⟨id, rfl, hlookup⟩ := Option.bind_eq_some_iff.mp hold
    rw [hseen] at hlookup
    exact .inl ⟨⟨id, by simp [hid, Except.toOption], mem_of_lookup hlookup⟩,
      hsame.trans ⟨rfl, rfl, rfl, rfl, rfl, rfl, rfl⟩, rfl, rfl⟩
  · rename_i hnew
    obtain ⟨⟨s₁, _⟩, happly, h⟩ := bind_ok h
    obtain ⟨rfl, rfl⟩ := pure_ok h
    refine .inr ⟨s₀, s₁, ?_, hsame, hname ▸ happly, remember_same _ _ _⟩
    rintro ⟨id, hid', hmem⟩
    rw [hid] at hid'
    obtain rfl : event_id = some id := by simpa [Except.toOption] using hid'
    rw [← hseen, ← AList.lookup_isSome] at hmem
    rw [Option.bind_some] at hnew
    simp [hnew] at hmem

/-- An admitted event is one that came before and changes no ledger, or it is taken. -/
theorem admitted_cases (h : s.admit_event codec a event = .ok (s', result)) :
    (s.Replayed event ∧ SameLedger s s' ∧ result = {}) ∨
      ∃ s₀ s₁, ¬ s.Replayed event ∧ SameLedger s s₀ ∧ Taken a s₀ event (kind_of event) s₁ result ∧
        SameLedger s₁ s' := by
  rcases admitted_applied h with ⟨hreplayed, hsame, -, hresult⟩ | ⟨s₀, s₁, hnew, hsame, happly, hsame'⟩
  · exact .inl ⟨hreplayed, hsame, hresult⟩
  · exact .inr ⟨s₀, s₁, hnew, hsame, apply_taken happly, hsame'⟩

end DialogueServerState

end omni_translate.bailian_dialogue
