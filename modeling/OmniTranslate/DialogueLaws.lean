-- The laws of a dialogue's responses: which items they own, when they complete,
-- that a finished one stays as it is, and which words they return.
import OmniTranslate.DialogueTaken

namespace omni_translate.bailian_dialogue

open calls json maps runs
open bailian_protocol (Codec Map LiveTranslateServerMutation)

namespace DialogueServerState

variable {codec : Codec} {a : AuthorizedModelProtocolProfile} {s s' : DialogueServerState} {event : Value}
  {result : LiveTranslateServerMutation}

/-- The item under an output index of a response. -/
def item_at (s : DialogueServerState) (response : String) (output : Nat) : Option OutputItem :=
  (s.responses.lookup response).bind fun r => r.items.lookup output

/-- An id is owned by the response and the index under which its item lies. -/
def Owned (s : DialogueServerState) : Prop :=
  ∀ id response output, s.item_owners.lookup id = some (response, output) ↔
    ∃ item, s.item_at response output = some item ∧ item.id = id

/-- Outputs and contents are the first thirty-two. -/
def Bounded (s : DialogueServerState) : Prop :=
  ∀ response r, s.responses.lookup response = some r →
    ∀ output item, r.items.lookup output = some item → output < 32 ∧ ∀ content ∈ item.parts, content < 32

/-- The responses and the items they own are the same. -/
structure SameOutput (s s' : DialogueServerState) : Prop where
  responses : s'.responses = s.responses
  response_order : s'.response_order = s.response_order
  item_owners : s'.item_owners = s.item_owners

theorem SameOutput.trans {t : DialogueServerState} (h : SameOutput s s') (h' : SameOutput s' t) :
    SameOutput s t :=
  ⟨h'.responses.trans h.responses, h'.response_order.trans h.response_order,
    h'.item_owners.trans h.item_owners⟩

theorem SameLedger.output (h : SameLedger s s') : SameOutput s s' :=
  ⟨h.responses, h.response_order, h.item_owners⟩

theorem SameOutput.item_at (h : SameOutput s s') : s'.item_at = s.item_at := by
  funext response output
  rw [DialogueServerState.item_at, DialogueServerState.item_at, h.responses]

theorem SameOutput.owned (h : SameOutput s s') (howned : s.Owned) : s'.Owned := by
  unfold Owned
  rw [h.item_owners, h.item_at]
  exact howned

theorem SameOutput.bounded (h : SameOutput s s') (hbounded : s.Bounded) : s'.Bounded := by
  unfold Bounded
  rw [h.responses]
  exact hbounded

theorem Listened.output {id : String} (h : Listened s id s') : SameOutput s s' := by
  rcases h with hsame | ⟨-, hfound, hsame, -, -, -⟩
  · exact hsame.output
  · refine SameOutput.trans ?_ hsame.output
    rcases hfound with _ | ⟨_, hroom⟩
    · exact ⟨rfl, rfl, rfl⟩
    · cases hroom <;> exact ⟨rfl, rfl, rfl⟩

theorem Answers.output {input : Option String} (h : Answers s s' input) : SameOutput s s' := by
  cases h <;> exact ⟨rfl, rfl, rfl⟩

theorem invalidate_ok {id : String} (h : s.invalidate id = .ok s') :
    id ∉ s.item_owners ∧ (s.inputs.lookup id).any (·.answered) = false ∧
      s.invalid_inputs.card < MAX_INPUT_ITEMS ∧
      s' = { s with
        inputs := s.inputs.erase id
        invalid_inputs := insert id s.invalid_inputs
        invalidated_item := some id
        ignored := true } := by
  obtain ⟨_, hfree, h⟩ := bind_ok h
  obtain ⟨_, hroom, h⟩ := bind_ok h
  obtain rfl := Except.ok.inj h
  exact ⟨(require_ok hfree).1, (require_ok hfree).2, require_ok hroom, rfl⟩

/-! ## Items -/

variable {response id : String} {output : Nat} {r : ResponseState} {item item' : OutputItem}

theorem put_item_responses (hfound : s.responses.lookup response = some r) :
    (s.put_item response output item').responses =
      s.responses.insert response { r with items := r.items.insert output item' } := by
  unfold put_item
  rw [hfound]

theorem put_item_owners (s : DialogueServerState) : (s.put_item response output item').item_owners = s.item_owners := by
  unfold put_item
  split <;> rfl

theorem put_item_item_at (hfound : s.responses.lookup response = some r) (other : String) (n : Nat) :
    (s.put_item response output item').item_at other n =
      if other = response ∧ n = output then some item' else s.item_at other n := by
  unfold item_at
  rw [put_item_responses hfound]
  by_cases hother : other = response
  · subst hother
    rw [AList.lookup_insert, hfound]
    by_cases hn : n = output
    · subst hn
      simp
    · simp [hn]
  · simp [hother]

section

variable (h : Opened s response output id r item)

include h

theorem Opened.responses
    (hsame : SameLedger ((s.own id response output).put_item response output item') s') :
    s'.responses = s.responses.insert response { r with items := r.items.insert output item' } := by
  rw [hsame.responses]
  exact put_item_responses h.found

/-- The item that an event opens is the one that lies there, or a new one. -/
theorem Opened.at {old : OutputItem} (hold : s.item_at response output = some old) :
    old = item := by
  unfold item_at at hold
  rw [h.found, Option.bind_some] at hold
  rw [h.item_eq, hold, Option.getD_some]

theorem Opened.owned (hid : item'.id = item.id) (howned : s.Owned)
    (hsame : SameLedger ((s.own id response output).put_item response output item') s') :
    s'.Owned := by
  have hid' : item'.id = id := hid.trans h.same_id
  refine hsame.output.owned fun other response' output' => ?_
  have hat : ((s.own id response output).put_item response output item').item_at response' output' =
      if response' = response ∧ output' = output then some item' else s.item_at response' output' :=
    put_item_item_at (s := s.own id response output) h.found response' output'
  have howners : (s.own id response output).item_owners = s.item_owners.insert id (response, output) := rfl
  rw [put_item_owners, howners, hat]
  by_cases hother : other = id
  · subst hother
    rw [AList.lookup_insert]
    constructor
    · intro heq
      obtain ⟨rfl, rfl⟩ := Prod.mk.inj (Option.some.inj heq)
      exact ⟨item', by simp, hid'⟩
    · rintro ⟨found, hfound, hsame_id⟩
      split at hfound
      · rename_i heq
        rw [heq.1, heq.2]
      · have hold := (howned other response' output').mpr ⟨found, hfound, hsame_id⟩
        rw [h.owner _ hold]
  · rw [AList.lookup_insert_ne hother, howned]
    refine exists_congr fun found => and_congr_left fun hsame_id => ?_
    split
    · rename_i heq
      obtain ⟨rfl, rfl⟩ := heq
      constructor
      · intro hold
        rw [h.at hold, h.same_id] at hsame_id
        exact absurd hsame_id.symm hother
      · intro heq
        rw [← Option.some.inj heq, hid'] at hsame_id
        exact absurd hsame_id.symm hother
    · rfl

theorem Opened.bounded (houtput : output < 32)
    (hparts : ∀ content ∈ item'.parts, content ∈ item.parts ∨ content < 32) (hbounded : s.Bounded)
    (hsame : SameLedger ((s.own id response output).put_item response output item') s') :
    s'.Bounded := by
  intro other r' hr' n found hfound
  rw [h.responses hsame] at hr'
  by_cases hother : other = response
  · subst hother
    rw [AList.lookup_insert] at hr'
    obtain rfl := Option.some.inj hr'
    by_cases hn : n = output
    · subst hn
      rw [AList.lookup_insert] at hfound
      obtain rfl := Option.some.inj hfound
      refine ⟨houtput, fun content hcontent => (hparts content hcontent).elim (fun hold => ?_) fun hlt => hlt⟩
      rw [h.item_eq] at hold
      cases hlookup : r.items.lookup n with
      | none => simp [hlookup] at hold
      | some old =>
        rw [hlookup, Option.getD_some] at hold
        exact (hbounded other r h.found n old hlookup).2 content hold
    · rw [AList.lookup_insert_ne hn] at hfound
      exact hbounded other r h.found n found hfound
  · rw [AList.lookup_insert_ne hother] at hr'
    exact hbounded other r' hr' n found hfound

end

/-! ## Finished responses -/

theorem retire_response_owned {old : String} (h : s.Owned) : (s.retire_response old).Owned := by
  intro id response output
  have hat : (s.retire_response old).item_at response output =
      if response = old then none else s.item_at response output := by
    unfold item_at retire_response
    by_cases hold : response = old
    · subst hold
      simp
    · simp [AList.lookup_erase_ne hold, hold]
  rw [hat]
  have howners : (s.retire_response old).item_owners = retain_values (fun owner => owner.1 != old) s.item_owners :=
    rfl
  rw [howners, lookup_retain_values, Option.filter_eq_some_iff, h]
  by_cases hold : response = old <;> simp [hold]

/-- Of the responses, retiring leaves each one as it is or takes it out. -/
theorem retire_responses_keeps (Inv : DialogueServerState → Prop)
    (hstep : ∀ s old, Inv s → MAX_RESPONSES < s.response_order.length → Inv (s.retire_response old))
    (rounds : Nat) (h : Inv s) : Inv (retire_responses rounds s) := by
  induction rounds generalizing s with
  | zero => exact h
  | succ rounds ih =>
    unfold retire_responses
    split
    · exact h
    · rename_i hfull
      split
      · exact ih (hstep s _ h (Nat.lt_of_not_le hfull))
      · exact h

theorem retire_response_lookup (s : DialogueServerState) (old response : String) :
    (s.retire_response old).responses.lookup response =
      if response = old then none else s.responses.lookup response := by
  by_cases hold : response = old
  · rw [if_pos hold, hold]
    exact AList.lookup_erase _ _
  · rw [if_neg hold]
    exact AList.lookup_erase_ne hold

/-- A response stays as it is, or is taken out of a ledger that is too long. -/
def Stays (n : Nat) (r r' : Option ResponseState) : Prop := r' = r ∨ (r' = none ∧ MAX_RESPONSES < n)

theorem retire_responses_stays (rounds : Nat) (s : DialogueServerState) (response : String) :
    Stays s.response_order.length (s.responses.lookup response)
      ((retire_responses rounds s).responses.lookup response) := by
  have hkeeps := retire_responses_keeps (s := s)
    (fun s' => s'.response_order.length ≤ s.response_order.length ∧
      Stays s.response_order.length (s.responses.lookup response) (s'.responses.lookup response))
    (fun s' _ hinv hfull => ?_) rounds ⟨le_rfl, .inl rfl⟩
  · exact hkeeps.2
  · obtain ⟨hle, hstays⟩ := hinv
    refine ⟨(List.erase_sublist.length_le).trans hle, ?_⟩
    rw [retire_response_lookup]
    split
    · exact .inr ⟨rfl, lt_of_lt_of_le hfull hle⟩
    · exact hstays

theorem finish_owned (hfound : s.responses.lookup response = some r) (h : s.Owned) :
    ({ s with responses := s.responses.insert response r.finished } : DialogueServerState).Owned := by
  intro id other n
  rw [h]
  have hat : ({ s with responses := s.responses.insert response r.finished } : DialogueServerState).item_at other n =
      if other = response then
        (s.item_at other n).map fun i => { i with parts := map_values OutputPart.without_text i.parts }
      else s.item_at other n := by
    unfold item_at
    by_cases hother : other = response
    · subst hother
      simp [AList.lookup_insert, hfound, ResponseState.finished]
    · simp [AList.lookup_insert_ne hother, hother]
  rw [hat]
  by_cases hother : other = response
  · rw [if_pos hother]
    cases s.item_at other n <;> simp
  · rw [if_neg hother]

theorem mem_map_values {β γ : Type} {f : β → γ} {m : Map Nat β} {k : Nat} (h : k ∈ map_values f m) : k ∈ m := by
  rw [← AList.lookup_isSome] at h ⊢
  simpa using h

theorem finish_bounded (hfound : s.responses.lookup response = some r) (h : s.Bounded) :
    ({ s with responses := s.responses.insert response r.finished } : DialogueServerState).Bounded := by
  intro other r' hr' n found hitem
  by_cases hother : other = response
  · subst hother
    obtain rfl : r.finished = r' := by simpa using hr'
    simp only [ResponseState.finished, lookup_map_values, Option.map_eq_some_iff] at hitem
    obtain ⟨old, hold, rfl⟩ := hitem
    obtain ⟨hlt, hparts⟩ := h other r hfound n old hold
    exact ⟨hlt, fun content hcontent => hparts content (mem_map_values hcontent)⟩
  · have hr : s.responses.lookup other = some r' := by
      rw [← hr']
      exact (AList.lookup_insert_ne hother).symm
    exact h other r' hr n found hitem

theorem retire_bounded (rounds : Nat) (h : s.Bounded) : (retire_responses rounds s).Bounded := by
  intro other r' hr'
  rcases retire_responses_stays rounds s other with hsame | ⟨hnone, -⟩
  · rw [hsame] at hr'
    exact h other r' hr'
  · rw [hnone] at hr'
    cases hr'

/-! ## Steps -/

/-- What every state keeps about its items. -/
structure Kept (s : DialogueServerState) : Prop where
  owned : s.Owned
  bounded : s.Bounded

theorem Kept.same (h : s.Kept) (hsame : SameOutput s s') : s'.Kept :=
  ⟨hsame.owned h.owned, hsame.bounded h.bounded⟩

theorem created_kept (h : s.Kept) (hnew : id ∉ s.responses) (r : ResponseState) (hempty : r.items = ∅)
    (order : List String) :
    ({ s with responses := s.responses.insert id r, response_order := order } : DialogueServerState).Kept := by
  have hlookup : s.responses.lookup id = none := AList.lookup_eq_none.mpr hnew
  have hat : ({ s with responses := s.responses.insert id r, response_order := order } :
      DialogueServerState).item_at = s.item_at := by
    funext other n
    unfold item_at
    by_cases hother : other = id
    · subst hother
      simp [hlookup, hempty]
    · simp [AList.lookup_insert_ne hother]
  constructor
  · unfold Owned
    rw [hat]
    exact h.owned
  · intro other r' hr' n found hitem
    by_cases hother : other = id
    · subst hother
      obtain rfl : r = r' := by simpa using hr'
      rw [hempty] at hitem
      cases hitem
    · have hr : s.responses.lookup other = some r' := by
        rw [← hr']
        exact (AList.lookup_insert_ne hother).symm
      exact h.bounded other r' hr n found hitem

theorem Taken.kept {kind : EventKind} (h : Taken a s event kind s' result) (hkept : s.Kept) : s'.Kept := by
  cases h with
  | aside _ _ hsame => exact hkept.same hsame.output
  | listened _ _ hlistened => exact hkept.same hlistened.output
  | user hlistened _ => exact (hkept.same hlistened.output).same ⟨rfl, rfl, rfl⟩
  | assistant _ _ _ _ => exact hkept.same ⟨rfl, rfl, rfl⟩
  | invalidated _ _ _ _ hinvalid =>
    obtain ⟨-, -, -, rfl⟩ := invalidate_ok hinvalid
    exact hkept.same ⟨rfl, rfl, rfl⟩
  | ambient _ _ _ => exact hkept.same ⟨rfl, rfl, rfl⟩
  | created _ hnew hanswers =>
    have hmid := hkept.same hanswers.output
    refine created_kept hmid ?_ _ rfl _
    rw [hanswers.output.responses]
    exact hnew
  | output _ _ hopened _ hsame houtput hid hparts _ _ _ =>
    exact ⟨hopened.owned hid hkept.owned hsame, hopened.bounded houtput hparts hkept.bounded hsame⟩
  | done _ hfound _ _ _ _ _ =>
    refine ⟨?_, retire_bounded _ (finish_bounded hfound hkept.bounded)⟩
    exact retire_responses_keeps Owned (fun _ _ hs _ => retire_response_owned hs) _
      (finish_owned hfound hkept.owned)

theorem admitted_kept (h : s.admit_event codec a event = .ok (s', result)) (hkept : s.Kept) : s'.Kept := by
  rcases admitted_cases h with ⟨-, hsame, -⟩ | ⟨_, _, -, hbefore, htaken, hafter⟩
  · exact hkept.same hsame.output
  · exact (htaken.kept (hkept.same hbefore.output)).same hafter.output

theorem update_same (h : s.record_client_session_update codec a event = .ok s') : SameLedger s s' := by
  iterate 2 obtain ⟨_, -, h⟩ := bind_ok h
  obtain ⟨_, hnext, h⟩ := bind_ok h
  obtain rfl := Except.ok.inj h
  iterate 2 obtain ⟨_, -, hnext⟩ := bind_ok hnext
  obtain rfl := Except.ok.inj hnext
  exact ⟨rfl, rfl, rfl, rfl, rfl, rfl, rfl⟩

/-- A client gives up an input that has ended and that nobody answered. -/
theorem abandon_ok {item_id : String} {sent : Bool} (h : s.abandon_manual_input item_id sent = .ok s') :
    ∃ i, s.inputs.lookup item_id = some i ∧ i.answered = false ∧
      s' = s.put_input item_id { i with pending := false, abandoned := true } := by
  iterate 2 obtain ⟨_, -, h⟩ := bind_ok h
  obtain ⟨i, hi, h⟩ := bind_ok h
  obtain ⟨_, hsettled, h⟩ := bind_ok h
  obtain rfl := Except.ok.inj h
  exact ⟨i, expect_ok hi, (require_ok hsettled).1, rfl⟩

/-- A step is a call that was admitted, or it was refused and changes nothing. -/
theorem step_cases (codec : Codec) (s : DialogueServerState) (op : Op) :
    (s.step codec op = s ∧ ∀ a event, op = .server a event → (s.admit_event codec a event).toOption = none) ∨
      (∃ a event, op = .update a event ∧ SameLedger s (s.step codec op)) ∨
      (∃ a event result, op = .server a event ∧
        s.admit_event codec a event = .ok (s.step codec op, result)) ∨
      ∃ item_id sent, op = .abandon item_id sent ∧
        s.abandon_manual_input item_id sent = .ok (s.step codec op) := by
  cases op with
  | update a event =>
    have hstep : s.step codec (.update a event) =
        (s.record_client_session_update codec a event).toOption.getD s := rfl
    cases h : s.record_client_session_update codec a event with
    | error e =>
      rw [h] at hstep
      exact .inl ⟨hstep, by simp⟩
    | ok s' =>
      rw [h] at hstep
      rw [hstep]
      exact .inr (.inl ⟨a, event, rfl, update_same h⟩)
  | server a event =>
    have hstep : s.step codec (.server a event) =
        ((s.admit_event codec a event).toOption.map (·.1)).getD s := rfl
    cases h : s.admit_event codec a event with
    | error e =>
      rw [h] at hstep
      refine .inl ⟨hstep, ?_⟩
      rintro _ _ ⟨rfl, rfl⟩
      rw [h]
      rfl
    | ok p =>
      rw [h] at hstep
      rw [hstep]
      exact .inr (.inr (.inl ⟨a, event, p.2, rfl, h⟩))
  | abandon item_id sent =>
    have hstep : s.step codec (.abandon item_id sent) =
        (s.abandon_manual_input item_id sent).toOption.getD s := rfl
    cases h : s.abandon_manual_input item_id sent with
    | error e =>
      rw [h] at hstep
      exact .inl ⟨hstep, by simp⟩
    | ok s' =>
      rw [h] at hstep
      rw [hstep]
      exact .inr (.inr (.inr ⟨item_id, sent, rfl, h⟩))

theorem step_kept (h : s.Kept) (op : Op) : (s.step codec op).Kept := by
  rcases s.step_cases codec op with ⟨hsame, -⟩ | ⟨a, event, -, hsame⟩ | ⟨a, event, _, -, hadmitted⟩ |
    ⟨_, _, -, habandoned⟩
  · rw [hsame]
    exact h
  · exact h.same hsame.output
  · exact admitted_kept hadmitted h
  · obtain ⟨_, -, -, heq⟩ := abandon_ok habandoned
    rw [heq]
    exact h.same ⟨rfl, rfl, rfl⟩

/-! ## Events -/

/-- Whatever was opened of a part is closed. -/
structure Terminal (p : OutputPart) : Prop where
  text : ∀ stream ∈ p.text, stream.done = true
  transcript : ∀ stream ∈ p.transcript, stream.done = true
  audio : ∀ done ∈ p.audio, done = true
  announced : p.announced = true → p.done = true

theorem terminal_of_part_terminal {p : OutputPart} (h : part_terminal p = true) : Terminal p := by
  simp only [part_terminal, part_streams_terminal, Bool.and_eq_true, Option.all_eq_true, Bool.or_eq_true,
    Bool.not_eq_true'] at h
  obtain ⟨⟨⟨htext, htranscript⟩, haudio⟩, hdone⟩ := h
  refine ⟨htext, htranscript, haudio, fun hannounced => ?_⟩
  simpa [hannounced] using hdone

/-- Every announced item of a response is done, and every part that it opened is terminal. -/
def ChildrenTerminal (r : ResponseState) : Prop :=
  ∀ output item, r.items.lookup output = some item →
    (item.announced = true → item.done = true) ∧
      ∀ content part, item.parts.lookup content = some part → Terminal part

theorem children_terminal (h : ∀ e ∈ r.items.entries, item_open e.2 = false) : ChildrenTerminal r := by
  intro output item hitem
  have hclosed := h _ (AList.mem_lookup_iff.mp hitem)
  simp only [item_open, Bool.or_eq_false_iff, Bool.and_eq_false_iff, Bool.not_eq_false', List.any_eq_false,
    Bool.not_eq_true', Bool.not_eq_false] at hclosed
  refine ⟨fun hannounced => ?_, fun _ _ hpart => ?_⟩
  · rcases hclosed.1 with hnot | hdone
    · rw [hannounced] at hnot
      cases hnot
    · exact hdone
  · exact terminal_of_part_terminal (hclosed.2 _ (AList.mem_lookup_iff.mp hpart))

/-- The response that an event speaks of. -/
def named_response (event : Value) : Except String String :=
  if kind_of event = .response_done then text (event.index "response") "id" else text event "response_id"

theorem Taken.completes {kind : EventKind} (h : Taken a s event kind s' result)
    (hkind : kind = kind_of event) (hstatus : result.response_terminal_status = some "completed") :
    ∃ id r, named_response event = .ok id ∧ s.responses.lookup id = some r ∧ ChildrenTerminal r := by
  cases h with
  | output _ _ _ _ _ _ _ _ _ hnone _ =>
    rw [hnone] at hstatus
    cases hstatus
  | done hid hfound _ hclosed _ hterminal _ =>
    rw [hterminal] at hstatus
    refine ⟨_, _, ?_, hfound, children_terminal (hclosed (Option.some.inj hstatus))⟩
    rw [named_response, if_pos hkind.symm]
    exact hid
  | _ => cases hstatus

theorem Taken.stays {kind : EventKind} (h : Taken a s event kind s' result) {other : String}
    {r' : ResponseState} (hr' : s.responses.lookup other = some r') (hdone : r'.done = true) :
    Stays s.response_order.length (some r') (s'.responses.lookup other) := by
  have hsame : SameOutput s s' → Stays s.response_order.length (some r') (s'.responses.lookup other) := by
    intro hsame
    rw [hsame.responses, hr']
    exact .inl rfl
  cases h with
  | aside _ _ hledger => exact hsame hledger.output
  | listened _ _ hlistened => exact hsame hlistened.output
  | user hlistened _ => exact hsame (hlistened.output.trans ⟨rfl, rfl, rfl⟩)
  | assistant _ _ _ _ => exact hsame ⟨rfl, rfl, rfl⟩
  | invalidated _ _ _ _ hinvalid =>
    obtain ⟨-, -, -, rfl⟩ := invalidate_ok hinvalid
    exact hsame ⟨rfl, rfl, rfl⟩
  | ambient _ _ _ => exact hsame ⟨rfl, rfl, rfl⟩
  | created _ hnew hanswers =>
    refine .inl ?_
    rw [AList.lookup_insert_ne, hanswers.output.responses, hr']
    rintro rfl
    exact hnew (mem_of_lookup hr')
  | output _ _ hopened _ hledger _ _ _ _ _ _ =>
    refine .inl ?_
    rw [hopened.responses hledger, AList.lookup_insert_ne, hr']
    rintro rfl
    rw [hopened.found] at hr'
    rw [← Option.some.inj hr', hopened.running] at hdone
    cases hdone
  | @done id _ r _ _ hfound hrunning _ _ _ _ =>
    have hother : (s.responses.insert id r.finished).lookup other = some r' := by
      rw [AList.lookup_insert_ne, hr']
      rintro rfl
      rw [hfound] at hr'
      rw [← Option.some.inj hr', hrunning] at hdone
      cases hdone
    rw [← hother]
    exact retire_responses_stays _ _ other

end DialogueServerState

end omni_translate.bailian_dialogue
