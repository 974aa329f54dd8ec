-- Sessions of any length, and what they show of a dialogue's two sides: the
-- laws of its inputs and of its responses, and the ids that come to be used
-- again once the tables are full.
import OmniTranslate.DialogueTexts
import OmniTranslate.DialogueTurns

namespace omni_translate.bailian_dialogue

open calls json maps runs
open DialogueServerState
open bailian_protocol (Codec Map LiveTranslateServerMutation)

/-! ## A long session -/

/-- The ids of a long session. -/
def nth_id (n : Nat) : String := String.ofList (List.replicate (n + 1) 'a')

theorem nth_id_injective {m n : Nat} (h : nth_id m = nth_id n) : m = n := by
  have hlength := congrArg (fun s : String => s.toList.length) h
  simpa [nth_id] using hlength

theorem nth_id_not_blank (n : Nat) : blank (nth_id n) = false := by
  have hletter : 'a' ∈ (nth_id n).toList := by simp [nth_id]
  have htrim : text.trim (nth_id n).toList ≠ [] := by
    rw [ne_eq, text.trim_eq_nil]
    intro hspace
    exact absurd (hspace 'a' hletter) (by decide)
  unfold blank trim
  simpa using htrim

def committed (id : String) : Value :=
  .object [("item_id", .string id), ("type", .string "input_audio_buffer.committed")]

def created (id : String) : Value :=
  .object [("response", .object [("id", .string id)]), ("type", .string "response.created")]

def finished (id : String) : Value :=
  .object [("response", .object [("id", .string id), ("status", .string "completed")]),
    ("type", .string "response.done")]

def sample_op (event : Value) : Op := .server sample_authority event

/-- The state that applies an event of the sample. -/
abbrev DialogueServerState.sampled (s : DialogueServerState) : DialogueServerState :=
  s.entered sample_codec sample_authority

/-- The sample's session is set up and nothing contradicts its configuration. -/
structure Ready (s : DialogueServerState) : Prop where
  active : s.active = true
  expected : s.expected = some sample_session
  authority : ∀ old ∈ s.authority, old = authority_key sample_codec sample_authority

/-- The sample's events carry no id. -/
theorem step_sample {s s₁ : DialogueServerState} {event : Value} (kind : String)
    (result : LiveTranslateServerMutation) (h : Ready s) (hkind : text event "type" = .ok kind)
    (hid : event.get "event_id" = none)
    (hallowed : admit_model_protocol_event sample_authority .server kind (frame_kind kind) = .ok ())
    (happly : s.sampled.apply sample_codec sample_authority event (.parse kind) =
      .ok (s₁, result)) : s.step sample_codec (sample_op event) = s₁ := by
  have hevent : optional_event_id event = .ok none := by
    unfold optional_event_id
    rw [hid]
    rfl
  have henters : Enters sample_codec s sample_authority event kind := by
    refine ⟨hkind, hallowed, ⟨none, hevent⟩, by decide +kernel, h.authority, ?_⟩
    rintro ⟨id, hmem, -⟩
    rw [hevent] at hmem
    cases hmem
  have hadmitted := henters.admitted hevent
  have hstep : s.step sample_codec (sample_op event) =
      ((s.admit_event sample_codec sample_authority event).toOption.map (·.1)).getD s := rfl
  rw [hstep, hadmitted, happly]
  rfl

theorem text_of_get {value : Value} {key v : String} (h : value.get_str key = some v) (hv : blank v = false) :
    text value key = .ok v := by
  unfold text string
  rw [h]
  simp only [expect, ok_bind, require_pos hv]
  rfl

variable {s room mid : DialogueServerState} {id : String}

theorem step_committed {i : InputState} (h : Ready s) (hid : blank id = false)
    (hinput : s.sampled.input id = .ok (room, i)) (hanswered : i.answered = false) :
    s.step sample_codec (sample_op (committed id)) = room.put_input id { i with speech := false, ended := true } := by
  have hitem : text (committed id) "item_id" = .ok id :=
    text_of_get rfl hid
  have hkind : EventKind.parse "input_audio_buffer.committed" = .speech .committed := by decide
  refine step_sample "input_audio_buffer.committed" {} h
    (text_of_get rfl (by decide +kernel))
    rfl (by decide +kernel) ?_
  rw [hkind]
  unfold apply
  dsimp only
  rw [require_pos (show s.sampled.active = true from h.active), ok_bind]
  unfold apply_active speech_event
  dsimp only
  have hreason : (committed id).get "reason" = none := rfl
  rw [hitem, ok_bind, require_pos (by simp [stamp_key]), ok_bind, hreason]
  unfold mark_speech
  rw [hinput]
  simp only [ok_bind, require_pos hanswered]
  rfl

theorem step_created {input_item : Option String} (h : Ready s) (hid : blank id = false) (hnew : id ∉ s.responses)
    (hroom : s.cancelable_response_ids.length < MAX_ACTIVE_RESPONSES)
    (hanswers : s.sampled.correlate_input (created id) = .ok (mid, input_item)) :
    s.step sample_codec (sample_op (created id)) = { mid with
      responses := mid.responses.insert id { prefer_audio := false, input_item }
      response_order := mid.response_order ++ [id] } := by
  have hresponse : text ((created id).index "response") "id" = .ok id :=
    text_of_get rfl hid
  have hkind : EventKind.parse "response.created" = .response_created := by decide
  refine step_sample "response.created" {} h
    (text_of_get rfl (by decide +kernel))
    rfl (by decide +kernel) ?_
  rw [hkind]
  unfold apply
  dsimp only
  rw [require_pos (show s.sampled.active = true from h.active), ok_bind]
  unfold apply_active response_created
  dsimp only
  have hfields : ∀ key, key ≠ "id" → ((created id).index "response").get key = none := by
    intro key hkey
    have hother : (key == "id") = false := by simpa using hkey
    simp [created, Value.index, Value.get, Value.as_object, List.lookup_cons, hother]
  have hmodalities : modalities ((s.sampled.expected.getD .null).index "modalities") =
      .ok {"text"} := by
    have hexpected : s.sampled.expected = some sample_session := h.expected
    rw [hexpected]
    decide +kernel
  rw [hresponse, ok_bind, require_pos (show id ∉ s.sampled.responses from hnew), ok_bind,
    hfields "status" (by decide), hfields "output" (by decide), require_pos (by simp), ok_bind,
    require_pos (show s.sampled.cancelable_response_ids.length < MAX_ACTIVE_RESPONSES
      from hroom), ok_bind, hmodalities, ok_bind]
  unfold response_modalities
  rw [hfields "modalities" (by decide)]
  rw [pure_bind, require_pos (Finset.Subset.refl _), ok_bind, hanswers, ok_bind]
  rfl

theorem step_finished {r : ResponseState} (h : Ready s) (hid : blank id = false)
    (hfound : s.responses.lookup id = some r) (hrunning : r.done = false) (hempty : r.items = ∅) :
    s.step sample_codec (sample_op (finished id)) = retire_responses s.response_order.length
      { s.sampled with responses := s.responses.insert id r.finished } := by
  have hresponse : text ((finished id).index "response") "id" = .ok id :=
    text_of_get rfl hid
  have hstatus : text ((finished id).index "response") "status" = .ok "completed" :=
    text_of_get rfl
      (by decide +kernel)
  have houtput : ((finished id).index "response").get "output" = none := rfl
  have hkind : EventKind.parse "response.done" = .response_done := by decide
  have htext : s.sampled.selected_text id true = none := by
    have hlookup : s.sampled.responses.lookup id = some r := hfound
    unfold selected_text
    rw [hlookup]
    simp only [Option.bind_eq_bind, Option.bind_some, hempty]
    rfl
  refine step_sample "response.done" { response_completed := true, response_terminal_status := some "completed" } h
    (text_of_get rfl (by decide +kernel))
    rfl (by decide +kernel) ?_
  rw [hkind]
  unfold apply
  dsimp only
  rw [require_pos (show s.sampled.active = true from h.active), ok_bind]
  unfold apply_active response_done
  dsimp only
  have hresponse_mut : s.sampled.response_mut id = .ok r := by
    have hlookup : s.sampled.responses.lookup id = some r := hfound
    have hfilter : (some r).filter (fun r => !r.done) = some r := by simp [Option.filter, hrunning]
    unfold response_mut
    rw [hlookup, hfilter]
    rfl
  rw [hresponse, ok_bind, hstatus, ok_bind, require_pos (by simp), ok_bind, hresponse_mut, ok_bind,
    require_pos (by simp [hempty]), ok_bind]
  unfold validate_output
  rw [houtput]
  rw [pure_bind, htext]
  rfl

/-- The sample's session after some responses, each of them done. -/
structure Idle (n : Nat) (s : DialogueServerState) : Prop where
  ready : Ready s
  no_items : s.item_owners = ∅ ∧ s.conversation_items = ∅ ∧ s.ambient_inputs = ∅ ∧ s.invalid_inputs = ∅
  order : s.response_order = (List.range n).map nth_id
  responses : ∀ id, id ∈ s.responses ↔ ∃ k < n, id = nth_id k
  finished : ∀ id r, s.responses.lookup id = some r → r.done = true

/-- The inputs of the first turns, each of them answered. -/
def AllAnswered (n : Nat) (inputs : Map String InputState) : Prop :=
  ∀ id i, inputs.lookup id = some i → (∃ k < n, id = nth_id k) ∧ i.answered = true ∧ i.speech = false

/-- The sample's session after some turns. -/
structure Rounds (n : Nat) (s : DialogueServerState) : Prop extends Idle n s where
  inputs : AllAnswered n s.inputs
  count : s.inputs.entries.length = min n MAX_INPUT_ITEMS

/-- One more input waits for its response. -/
structure Waiting (k n : Nat) (s : DialogueServerState) : Prop extends Idle n s where
  inputs : ∃ inputs : Map String InputState,
    s.inputs = inputs.insert (nth_id k) { pending := true, ended := true } ∧ nth_id k ∉ inputs ∧
      inputs.entries.length + 1 = min (n + 1) MAX_INPUT_ITEMS ∧ AllAnswered n inputs

variable {n : Nat}

theorem Idle.new_response (h : Idle n s) : nth_id n ∉ s.responses := by
  rw [h.responses]
  rintro ⟨k, hk, heq⟩
  rw [nth_id_injective heq] at hk
  exact lt_irrefl k hk

theorem Idle.none_running (h : Idle n s) : s.cancelable_response_ids = [] := by
  unfold cancelable_response_ids
  rw [List.map_eq_nil_iff, List.filter_eq_nil_iff]
  intro e he
  simp [h.finished e.1 e.2 (AList.mem_lookup_iff.mpr he)]

/-- The table has room for an input that is not in it. -/
theorem Rounds.input (h : Rounds n s) (hfree : id ∉ s.inputs) :
    ∃ room, s.sampled.input id = .ok (room, { pending := true }) ∧
      ∃ inputs, room = { s.sampled with inputs } ∧ id ∉ inputs ∧
        inputs.entries.length + 1 = min (n + 1) MAX_INPUT_ITEMS ∧
        AllAnswered n inputs := by
  obtain ⟨howners, hconversation, hambient, hinvalid⟩ := h.no_items
  have hnone : s.sampled.inputs.lookup id = none := AList.lookup_eq_none.mpr hfree
  have hisolated : ¬ s.sampled.input_isolated id := by
    unfold input_isolated
    rw [hnone]
    simp [entered, howners, hconversation, hambient, hinvalid]
  unfold DialogueServerState.input
  rw [require_pos hisolated, ok_bind, hnone]
  unfold make_room
  by_cases hroom : s.inputs.entries.length < MAX_INPUT_ITEMS
  · rw [if_pos (show s.sampled.inputs.entries.length < MAX_INPUT_ITEMS from hroom)]
    refine ⟨_, rfl, s.inputs, rfl, hfree, ?_, h.inputs⟩
    have hcount := h.count
    omega
  · rw [if_neg (show ¬ s.sampled.inputs.entries.length < MAX_INPUT_ITEMS from hroom)]
    have hcount := h.count
    have hfull : s.inputs.entries.length = MAX_INPUT_ITEMS := by omega
    obtain ⟨e, he⟩ : ∃ e, (in_order s.inputs).find? (fun e => e.2.answered && !e.2.speech) = some e := by
      obtain ⟨first, hfirst⟩ := List.exists_mem_of_length_pos (l := s.inputs.entries) (by rw [hfull]; decide)
      rw [← Option.isSome_iff_exists, List.find?_isSome]
      refine ⟨first, (List.mem_insertionSort _).mpr hfirst, ?_⟩
      obtain ⟨-, hanswered, hspeech⟩ := h.inputs first.1 first.2 (AList.mem_lookup_iff.mpr hfirst)
      simp [hanswered, hspeech]
    have hmem : e.1 ∈ s.inputs :=
      mem_of_lookup (AList.mem_lookup_iff.mpr ((List.mem_insertionSort _).mp (List.mem_of_find?_eq_some he)))
    have hfind : (in_order s.sampled.inputs).find?
        (fun e => e.2.answered && !e.2.speech) = some e := he
    rw [hfind]
    refine ⟨_, rfl, s.inputs.erase e.1, rfl, fun hin => hfree (AList.mem_erase.mp hin).2, ?_, fun other i hi => ?_⟩
    · have herase := length_erase hmem
      omega
    · by_cases hother : other = e.1
      · rw [hother, AList.lookup_erase] at hi
        cases hi
      · rw [AList.lookup_erase_ne hother] at hi
        exact h.inputs other i hi

theorem lineage_created (id : String) : explicit_lineage (created id) = .ok none := by
  rfl

/-- A turn: an input is committed, and a response answers it. -/
def whole_turn (k n : Nat) : List Op :=
  [sample_op (committed (nth_id k)), sample_op (created (nth_id n)), sample_op (finished (nth_id n))]

theorem retire_responses_short (rounds : Nat) (h : s.response_order.length ≤ MAX_RESPONSES) :
    retire_responses rounds s = s := by
  cases rounds with
  | zero => rfl
  | succ rounds =>
    unfold retire_responses
    rw [if_pos h]

/-- The only input that waits is the one that a new response answers. -/
theorem correlate_one {i : InputState} {inputs : Map String InputState} {reply : String}
    (hinputs : s.inputs = inputs.insert id i) (hnew : id ∉ inputs) (hready : i.answerable = true)
    (hold : ∀ e ∈ inputs.entries, e.2.answerable = false) :
    s.correlate_input (created reply) =
      .ok (s.put_input id { i with pending := false, answered := true }, some id) := by
  have hwaiting : s.inputs.entries.filter (·.2.answerable) = [⟨id, i⟩] := by
    rw [hinputs, AList.entries_insert_of_notMem hnew, List.filter_cons_of_pos (by simpa using hready),
      List.filter_eq_nil_iff.mpr]
    intro e he
    simp [hold e he]
  have hanswer : s.answer id = s.put_input id { i with pending := false, answered := true } := by
    unfold answer
    rw [hinputs, AList.lookup_insert]
  unfold correlate_input candidate
  rw [lineage_created, ok_bind]
  rw [hwaiting]
  rw [pure_bind, Option.map_some, Option.getD_some, hanswer]
  rfl

theorem Rounds.committed {k n : Nat} (h : Rounds n s) (hfree : nth_id k ∉ s.inputs) :
    Waiting k n (s.step sample_codec (sample_op (committed (nth_id k)))) := by
  obtain ⟨room, hinput, inputs, rfl, hnew, hcount, hanswered⟩ := h.input hfree
  rw [step_committed h.ready (nth_id_not_blank k) hinput rfl]
  refine ⟨⟨⟨h.ready.active, h.ready.expected, fun old hmem => ?_⟩, h.no_items, h.order, h.responses, h.finished⟩,
    inputs, rfl, hnew, hcount, hanswered⟩
  exact (Option.some.inj hmem).symm

/-- The response that comes answers the input that waits. -/
theorem Waiting.answered {k n : Nat} (h : Waiting k n s) (hn : n < MAX_RESPONSES) (hk : k ≤ n) :
    Binds sample_codec s (sample_op (created (nth_id n))) (nth_id k) ∧
      Rounds (n + 1) (run (step sample_codec) s
        [sample_op (created (nth_id n)), sample_op (finished (nth_id n))]) := by
  obtain ⟨inputs, hinputs, hnew, hcount, hanswered⟩ := h.inputs
  have hcorrelate : s.sampled.correlate_input (created (nth_id n)) = .ok _ :=
    correlate_one hinputs hnew rfl fun e he => by
      simp [InputState.answerable, (hanswered e.1 e.2 (AList.mem_lookup_iff.mpr he)).2.1]
  have hcreated := step_created h.ready (nth_id_not_blank n) h.new_response
    (by rw [h.none_running]; decide) hcorrelate
  generalize hs₂ : s.step sample_codec (sample_op (created (nth_id n))) = s₂ at hcreated
  have hfound : s₂.responses.lookup (nth_id n) =
      some { prefer_audio := false, input_item := some (nth_id k) } := by
    rw [hcreated]
    exact AList.lookup_insert _
  have hready : Ready s₂ := by
    rw [hcreated]
    refine ⟨h.ready.active, h.ready.expected, fun old hmem => ?_⟩
    exact (Option.some.inj hmem).symm
  have hresponses : s₂.responses =
      s.responses.insert (nth_id n) { prefer_audio := false, input_item := some (nth_id k) } := by rw [hcreated]; rfl
  have horder : s₂.response_order =
      (List.range (n + 1)).map nth_id := by
    rw [List.range_succ, List.map_append, ← h.order, hcreated]
    rfl
  have hinputs' : s₂.inputs =
      s.inputs.insert (nth_id k) { ended := true, answered := true } := by rw [hcreated]; rfl
  have hitems : s₂.item_owners = ∅ ∧
      s₂.conversation_items = ∅ ∧
      s₂.ambient_inputs = ∅ ∧
      s₂.invalid_inputs = ∅ := by
    rw [hcreated]
    exact h.no_items
  have hfinished := step_finished hready (nth_id_not_blank n) hfound rfl rfl
  have hnone : s.responses.lookup (nth_id n) = none := AList.lookup_eq_none.mpr h.new_response
  refine ⟨⟨nth_id n, _, hnone, hs₂ ▸ hfound, rfl⟩, ?_⟩
  rw [run_cons, run_cons, run_nil, hs₂]
  have hshort : s₂.response_order.length ≤ MAX_RESPONSES := by
    rw [horder, List.length_map, List.length_range]
    exact hn
  rw [retire_responses_short (s := { s₂.sampled with
    responses := s₂.responses.insert (nth_id n) _ }) _ hshort] at hfinished
  rw [hfinished]
  refine ⟨⟨⟨hready.active, hready.expected, fun old hmem => (Option.some.inj hmem).symm⟩, hitems, horder,
    fun id => ?_, fun id r hr => ?_⟩, fun id i hi => ?_, ?_⟩
  · rw [AList.mem_insert, hresponses, AList.mem_insert, h.responses]
    constructor
    · rintro (rfl | rfl | ⟨j, hj, rfl⟩)
      · exact ⟨n, Nat.lt_succ_self n, rfl⟩
      · exact ⟨n, Nat.lt_succ_self n, rfl⟩
      · exact ⟨j, Nat.lt_succ_of_lt hj, rfl⟩
    · rintro ⟨j, hj, rfl⟩
      rcases Nat.lt_succ_iff_lt_or_eq.mp hj with hj | rfl
      · exact .inr (.inr ⟨j, hj, rfl⟩)
      · exact .inl rfl
  · by_cases hid : id = nth_id n
    · rw [hid, AList.lookup_insert] at hr
      rw [← Option.some.inj hr]
      rfl
    · rw [AList.lookup_insert_ne hid, hresponses, AList.lookup_insert_ne hid] at hr
      exact h.finished id r hr
  · have hi : s₂.inputs.lookup id = some i := hi
    rw [hinputs'] at hi
    by_cases hid : id = nth_id k
    · rw [hid, AList.lookup_insert] at hi
      rw [← Option.some.inj hi]
      exact ⟨⟨k, Nat.lt_succ_of_le hk, hid⟩, rfl, rfl⟩
    · rw [AList.lookup_insert_ne hid, hinputs, AList.lookup_insert_ne hid] at hi
      obtain ⟨⟨j, hj, heq⟩, hrest⟩ := hanswered id i hi
      exact ⟨⟨j, Nat.lt_succ_of_lt hj, heq⟩, hrest⟩
  · change s₂.inputs.entries.length = _
    have hold : nth_id k ∈ s.inputs := by
      rw [hinputs]
      exact (AList.mem_insert _).mpr (.inl rfl)
    rw [hinputs', length_insert_old hold, hinputs, length_insert_new hnew, hcount]

theorem Rounds.turns {m n : Nat} (h : Rounds n s) (hmn : n + m ≤ MAX_RESPONSES) (hfresh : ∀ k, n ≤ k → nth_id k ∉ s.inputs) :
    Rounds (n + m) (run (step sample_codec) s ((List.range' n m).flatMap fun k => whole_turn k k)) := by
  induction m generalizing n s with
  | zero => exact h
  | succ m ih =>
    rw [List.range'_succ, List.flatMap_cons, run_append]
    have hturn : Rounds (n + 1) (run (step sample_codec) s (whole_turn n n)) :=
      ((h.committed (hfresh n le_rfl)).answered (by omega) le_rfl).2
    have hrest := ih hturn (by omega) fun k hk hmem => ?_
    · rwa [Nat.add_right_comm] at hrest
    · obtain ⟨i, hi⟩ := Option.isSome_iff_exists.mp (AList.lookup_isSome.mpr hmem)
      obtain ⟨⟨j, hj, heq⟩, -⟩ := hturn.inputs _ i hi
      rw [nth_id_injective heq] at hk
      exact absurd hj (Nat.not_lt.mpr hk)

theorem setup_rounds : Rounds 0 (run (step sample_codec) {} sample_setup) := by
  have hinputs : (run (step sample_codec) {} sample_setup).inputs = ∅ := AList.ext (by decide +kernel)
  have hresponses : (run (step sample_codec) {} sample_setup).responses = ∅ := AList.ext (by decide +kernel)
  refine ⟨⟨⟨by decide +kernel, by decide +kernel, by decide +kernel⟩, ⟨AList.ext (by decide +kernel),
    AList.ext (by decide +kernel), by decide +kernel, by decide +kernel⟩, by decide +kernel,
    fun id => ?_, fun id r hr => ?_⟩, fun id i hi => ?_, by decide +kernel⟩
  · simp [hresponses]
  · rw [hresponses] at hr
    cases hr
  · rw [hinputs] at hi
    cases hi

/-- The first turns of the sample. -/
def session (n : Nat) : List Op :=
  sample_setup ++ (List.range' 0 n).flatMap fun k => whole_turn k k

theorem session_rounds (hn : n ≤ MAX_RESPONSES) : Rounds n (run (step sample_codec) {} (session n)) := by
  unfold session
  rw [run_append]
  have hturns := setup_rounds.turns (m := n) (by omega) fun k _ hmem => ?_
  · rwa [Nat.zero_add] at hturns
  · obtain ⟨i, hi⟩ := Option.isSome_iff_exists.mp (AList.lookup_isSome.mpr hmem)
    obtain ⟨⟨j, hj, -⟩, -⟩ := setup_rounds.inputs _ i hi
    exact absurd hj (Nat.not_lt_zero j)

theorem session_split {k n : Nat} (hk : k < n) :
    session n = session k ++ (whole_turn k k ++ (List.range' (k + 1) (n - k - 1)).flatMap fun j => whole_turn j j) := by
  have hrange : List.range' 0 n = List.range' 0 k ++ k :: List.range' (k + 1) (n - k - 1) := by
    rw [← List.range'_succ]
    have happend := List.range'_append_1 (s := 0) (m := k) (n := n - k - 1 + 1)
    rw [Nat.zero_add] at happend
    rw [happend]
    congr 1
    omega
  unfold session
  rw [hrange, List.flatMap_append, List.flatMap_cons, List.append_assoc]

/-- After more turns than the table holds inputs, one of the inputs is forgotten. -/
theorem forgotten_input : ∃ k < 513, nth_id k ∉ (run (step sample_codec) {} (session 513)).inputs := by
  by_contra hall
  push Not at hall
  have hnodup : ((List.range 513).map nth_id).Nodup :=
    List.nodup_range.map fun _ _ heq => nth_id_injective heq
  have hsubset : (List.range 513).map nth_id ⊆ (run (step sample_codec) {} (session 513)).inputs.keys := by
    intro id hid
    obtain ⟨k, hk, rfl⟩ := List.mem_map.mp hid
    exact AList.mem_keys.mp (hall k (List.mem_range.mp hk))
  have hle := (hnodup.subperm hsubset).length_le
  have hcount := (session_rounds (n := 513) (by decide)).count
  rw [List.length_map, List.length_range, AList.keys, List.keys, List.length_map, hcount] at hle
  exact absurd hle (by decide)

/-! ## Settled inputs -/

/-- In every run, an input that was answered, given up or found invalid never waits for an answer again and
no second response is bound to it, unless the full table forgot it as answered in between. -/
theorem inputs_settle_for_good (codec : Codec) (ops : List Op) (id : String) :
    SettledForGood codec (run (step codec) {} ops) id := by
  have hcalm := run_calm codec ops id
  generalize run (step codec) {} ops = s at hcalm
  refine ⟨fun ops hsettled hkept => stays_settled hcalm hsettled hkept, fun ops => stays_gone ops hcalm,
    fun op mid op' hbinds hkept hagain => ?_, fun op => retires_answered⟩
  exact stays_settled ((step_turn codec s op id).calm hcalm) (.inl hbinds.answers.2) hkept hagain.answers.1

/-- An input that was answered waits again, and a second response is bound to it. -/
theorem answered_input_is_bound_again : ∃ before op mid op' id,
    Binds sample_codec (run (step sample_codec) {} before) op id ∧
      (run (step sample_codec) {} (before ++ [op])).Settled id ∧
      (run (step sample_codec) {} (before ++ op :: mid)).Pending id ∧
      Binds sample_codec (run (step sample_codec) {} (before ++ op :: mid)) op' id := by
  obtain ⟨k, hk, hforgotten⟩ := forgotten_input
  have hstart := session_rounds (n := k) (by unfold MAX_RESPONSES; omega)
  have hfresh : nth_id k ∉ (run (step sample_codec) {} (session k)).inputs := by
    intro hmem
    obtain ⟨i, hi⟩ := Option.isSome_iff_exists.mp (AList.lookup_isSome.mpr hmem)
    obtain ⟨⟨j, hj, heq⟩, -⟩ := hstart.inputs _ i hi
    rw [nth_id_injective heq] at hj
    exact lt_irrefl _ hj
  have hfirst := ((hstart.committed hfresh).answered (by unfold MAX_RESPONSES; omega) le_rfl).1
  have hagain := (((session_rounds (n := 513) (by decide)).committed hforgotten).answered (by decide)
    (Nat.le_of_lt hk)).1
  have hbefore : run (step sample_codec) {} (session k ++ [sample_op (committed (nth_id k))]) =
      (run (step sample_codec) {} (session k)).step sample_codec (sample_op (committed (nth_id k))) := by
    rw [run_append, run_cons, run_nil]
  have hend : session k ++ [sample_op (committed (nth_id k))] ++ sample_op (created (nth_id k)) ::
      (sample_op (finished (nth_id k)) :: ((List.range' (k + 1) (513 - k - 1)).flatMap fun j => whole_turn j j) ++
        [sample_op (committed (nth_id k))]) = session 513 ++ [sample_op (committed (nth_id k))] := by
    rw [session_split hk]
    simp [whole_turn]
  refine ⟨session k ++ [sample_op (committed (nth_id k))], sample_op (created (nth_id k)),
    sample_op (finished (nth_id k)) :: ((List.range' (k + 1) (513 - k - 1)).flatMap fun j => whole_turn j j) ++
      [sample_op (committed (nth_id k))], sample_op (created (nth_id 513)), nth_id k, ?_, ?_, ?_, ?_⟩
  · rw [hbefore]
    exact hfirst
  · rw [run_append, hbefore, run_cons, run_nil]
    exact .inl hfirst.answers.2
  · rw [hend, run_append, run_cons, run_nil]
    exact hagain.answers.1
  · rw [hend, run_append, run_cons, run_nil]
    exact hagain

/-! ## A response that begins again -/

theorem correlate_none {reply : String} (hold : ∀ e ∈ s.inputs.entries, e.2.answerable = false) :
    s.correlate_input (created reply) = .ok (s, none) := by
  have hwaiting : s.inputs.entries.filter (·.2.answerable) = [] := by
    rw [List.filter_eq_nil_iff]
    intro e he
    simp [hold e he]
  unfold correlate_input candidate
  rw [lineage_created, ok_bind]
  rw [hwaiting]
  rfl

theorem Rounds.none_waiting (h : Rounds n s) : ∀ e ∈ s.inputs.entries, e.2.answerable = false := by
  intro e he
  simp [InputState.answerable, (h.inputs e.1 e.2 (AList.mem_lookup_iff.mpr he)).2.1]

theorem none_running_of_done (h : ∀ id r, s.responses.lookup id = some r → r.done = true) :
    s.cancelable_response_ids = [] := by
  unfold cancelable_response_ids
  rw [List.map_eq_nil_iff, List.filter_eq_nil_iff]
  intro e he
  simp [h e.1 e.2 (AList.mem_lookup_iff.mpr he)]

/-- One response too many: the first one, which is done, is forgotten. -/
theorem retire_first {old : String} {rest : List String} (horder : s.response_order = old :: rest)
    (hlength : rest.length = MAX_RESPONSES) (hdone : (s.responses.lookup old).any (·.done) = true) :
    retire_responses s.response_order.length s = s.retire_response old := by
  have hfirst : s.response_order.find? (fun id => (s.responses.lookup id).any (·.done)) = some old := by
    rw [horder]
    exact List.find?_cons_of_pos hdone
  have hlong : ¬ s.response_order.length ≤ MAX_RESPONSES := by
    rw [horder, List.length_cons, hlength]
    exact Nat.not_succ_le_self _
  have hshort : (s.retire_response old).response_order.length ≤ MAX_RESPONSES := by
    unfold retire_response
    rw [horder, List.erase_cons_head, hlength]
  rw [show s.response_order.length = rest.length + 1 by rw [horder, List.length_cons]]
  unfold retire_responses
  rw [if_neg hlong, hfirst]
  exact retire_responses_short _ hshort

/-- With a full ledger one more response makes it forget the first one, whose id may then begin anew. -/
theorem Rounds.begins_again (h : Rounds n s) (hn : n = MAX_RESPONSES) : ∃ r,
    (run (step sample_codec) s [sample_op (created (nth_id n)), sample_op (finished (nth_id n)),
      sample_op (created (nth_id 0))]).responses.lookup (nth_id 0) = some r ∧ r.done = false := by
  have hpos : 0 < n := by
    rw [hn]
    decide
  have hne : nth_id 0 ≠ nth_id n := fun heq => absurd (nth_id_injective heq) (Nat.ne_of_lt hpos)
  rw [run_cons, run_cons, run_cons, run_nil]
  -- a response begins, and no input waits for it
  have hcreated := step_created h.ready (nth_id_not_blank n) h.new_response (by rw [h.none_running]; decide)
    (correlate_none (s := s.sampled) h.none_waiting)
  generalize s.step sample_codec (sample_op (created (nth_id n))) = s₁ at *
  have hready : Ready s₁ := by
    rw [hcreated]
    exact ⟨h.ready.active, h.ready.expected, fun old hmem => (Option.some.inj hmem).symm⟩
  have hresponses : s₁.responses =
      s.responses.insert (nth_id n) { prefer_audio := false, input_item := none } := by rw [hcreated]; rfl
  have horder : s₁.response_order =
      (List.range n).map nth_id ++ [nth_id n] := by rw [hcreated, ← h.order]; rfl
  have hwaiting : ∀ e ∈ s₁.inputs.entries,
      e.2.answerable = false := by
    rw [hcreated]
    exact h.none_waiting
  have hfinished := step_finished hready (nth_id_not_blank n) (by rw [hresponses]; exact AList.lookup_insert _) rfl rfl
  -- it ends, and the first response is forgotten
  obtain ⟨m, rfl⟩ : ∃ m, n = m + 1 := ⟨n - 1, by omega⟩
  have hall : ∀ id r, (s₁.responses.insert (nth_id (m + 1)) (ResponseState.finished
      { prefer_audio := false, input_item := none })).lookup id = some r → r.done = true := by
    intro id r hr
    by_cases hid : id = nth_id (m + 1)
    · rw [hid, AList.lookup_insert] at hr
      rw [← Option.some.inj hr]
      rfl
    · rw [AList.lookup_insert_ne hid, hresponses, AList.lookup_insert_ne hid] at hr
      exact h.finished id r hr
  have hfirst : ((s₁.responses.insert (nth_id (m + 1)) (ResponseState.finished
      { prefer_audio := false, input_item := none })).lookup (nth_id 0)).any (·.done) = true := by
    obtain ⟨r, hr⟩ := Option.isSome_iff_exists.mp (AList.lookup_isSome.mpr ((h.responses _).mpr ⟨0, hpos, rfl⟩))
    rw [AList.lookup_insert_ne hne, hresponses, AList.lookup_insert_ne hne, hr, Option.any_some]
    exact h.finished _ r hr
  rw [List.range_succ_eq_map, List.map_cons, List.cons_append] at horder
  replace hfinished := hfinished.trans (retire_first (s := { s₁.sampled with
    responses := s₁.responses.insert (nth_id (m + 1)) _ }) horder (by simp [hn]) hfirst)
  generalize s₁.step sample_codec (sample_op (finished (nth_id (m + 1)))) = s₂ at *
  have hready₂ : Ready s₂ := by
    rw [hfinished]
    exact ⟨hready.active, hready.expected, fun old hmem => (Option.some.inj hmem).symm⟩
  have hnew : nth_id 0 ∉ s₂.responses := by
    rw [hfinished, ← AList.lookup_eq_none]
    exact AList.lookup_erase _ _
  have hdone : ∀ id r, s₂.responses.lookup id = some r →
      r.done = true := by
    intro id r hr
    rw [hfinished, retire_response_lookup] at hr
    split at hr
    · cases hr
    · exact hall id r hr
  have hwaiting₂ : ∀ e ∈ s₂.inputs.entries,
      e.2.answerable = false := by
    rw [hfinished]
    exact hwaiting
  -- its id begins anew
  rw [step_created hready₂ (nth_id_not_blank 0) hnew (by rw [none_running_of_done hdone]; decide)
    (correlate_none (s := s₂.sampled) hwaiting₂)]
  exact ⟨_, AList.lookup_insert _, rfl⟩

/-- A response that only speaks through the other stream than the one it prefers. -/
def other_stream : List Op :=
  let line := [("content_index", Value.number (.pos 0)), ("item_id", .string "item-1"),
    ("output_index", .number (.pos 0)), ("response_id", .string "response-1")]
  sample_setup ++ [sample_op (created "response-1"),
    sample_event "response.audio_transcript.done" (line ++ [("transcript", .string "hello")])]

/-! ## The output side -/

/-- The output side of a session: the ids it owns, when a response completes, that a finished response
stays, and the words that are returned. -/
structure Consistent (codec : Codec) (d : Dialogue) : Prop where
  owned : d.state.Owned
  completes : ∀ a event s' result, d.state.admit_event codec a event = .ok (s', result) →
    result.response_terminal_status = some "completed" →
      ∃ id r, named_response event = .ok id ∧ d.state.responses.lookup id = some r ∧ ChildrenTerminal r
  stays : ∀ a event s' result, d.state.admit_event codec a event = .ok (s', result) →
    ∀ id r, d.state.responses.lookup id = some r → r.done = true →
      Stays d.state.response_order.length (some r) (s'.responses.lookup id)
  returns : ∀ a event s' result, d.state.admit_event codec a event = .ok (s', result) →
    ∀ t, result.normalized_text = some t ∨ result.completed_response_text = some t →
      d.state.ReturnsVoice (d.hear codec (.server a event)) event t

/-- In every run, each owned id lies where the ledger says, a response completes after its children, a
finished response stays as it is until the ledger forgets it, and the text that is returned for a response
is what its own streams said, in order. -/
theorem output_side_is_consistent (codec : Codec) (ops : List Op) :
    Consistent codec (run (Dialogue.step codec) .new ops) := by
  have hfaithful := Dialogue.run_faithful codec ops
  obtain ⟨hkept, hvoiced⟩ := hfaithful
  refine ⟨hkept.owned, ?_, ?_, ?_⟩
  · intro a event s' result h hstatus
    rcases admitted_cases h with ⟨-, -, rfl⟩ | ⟨s₀, s₁, -, hbefore, htaken, -⟩
    · cases hstatus
    · rw [← hbefore.responses]
      exact htaken.completes rfl hstatus
  · intro a event s' result h id r hr hdone
    rcases admitted_cases h with ⟨-, hsame, -⟩ | ⟨s₀, s₁, -, hbefore, htaken, hafter⟩
    · rw [hsame.responses, hr]
      exact .inl rfl
    · rw [← hbefore.responses] at hr
      rw [hafter.responses, ← hbefore.response_order]
      exact htaken.stays hr hdone
  · intro a event s' result h t ht
    rcases admitted_cases h with ⟨-, -, rfl⟩ | ⟨s₀, s₁, hnew, hbefore, htaken, -⟩
    · rcases ht with ht | ht <;> cases ht
    · have ht : result.normalized_text = some t := ht.elim (fun ht => ht) htaken.completed_text
      rw [Dialogue.hear_admitted h, if_neg hnew]
      obtain ⟨id, r, hid, hfound, heq⟩ :=
        htaken.returns rfl (hvoiced.same hbefore.output) (hkept.same hbefore.output) ht
      exact ⟨id, r, hid, by rw [← hbefore.responses, hfound], heq⟩

/-- A finished response has begun anew under its id, and a response returned what it said through a stream
that was not the selected one. -/
theorem finished_response_begins_again :
    (∃ before after id r r', (run (step sample_codec) {} before).responses.lookup id = some r ∧ r.done = true ∧
      (run (step sample_codec) {} (before ++ after)).responses.lookup id = some r' ∧ r'.done = false) ∧
    ((((run (step sample_codec) {} other_stream).admit_event sample_codec sample_authority
        (finished "response-1")).toOption.bind (·.2.normalized_text)) = some "hello" ∧
      voice (run (Dialogue.step sample_codec) .new other_stream).spoken "response-1" false false = []) := by
  refine ⟨?_, by decide +kernel, by decide +kernel⟩
  have h := session_rounds (n := MAX_RESPONSES) le_rfl
  obtain ⟨r, hr⟩ := Option.isSome_iff_exists.mp
    (AList.lookup_isSome.mpr ((h.responses _).mpr ⟨0, by decide, rfl⟩))
  obtain ⟨r', hr', hrunning⟩ := h.begins_again rfl
  rw [← run_append] at hr'
  exact ⟨_, _, nth_id 0, r, r', hr, h.finished _ r hr, hr', hrunning⟩

end omni_translate.bailian_dialogue
