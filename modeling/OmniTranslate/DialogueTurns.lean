-- What becomes of a dialogue's inputs: one that was answered, given up or found
-- invalid is settled for good, unless the full table forgets it.
import OmniTranslate.DialogueInputs

namespace omni_translate.bailian_dialogue

open calls json maps runs
open bailian_protocol (Codec Map LiveTranslateServerMutation)

namespace DialogueServerState

variable {codec : Codec} {a : AuthorizedModelProtocolProfile} {s s' : DialogueServerState} {event : Value}
  {result : LiveTranslateServerMutation} {id : String}

def Pending (s : DialogueServerState) (id : String) : Prop :=
  ∃ i, s.inputs.lookup id = some i ∧ i.pending = true

def Answered (s : DialogueServerState) (id : String) : Prop :=
  ∃ i, s.inputs.lookup id = some i ∧ i.answered = true

/-- The input was given up, or found invalid. -/
def Gone (s : DialogueServerState) (id : String) : Prop :=
  (∃ i, s.inputs.lookup id = some i ∧ i.abandoned = true) ∨ id ∈ s.invalid_inputs

def Settled (s : DialogueServerState) (id : String) : Prop := s.Answered id ∨ s.Gone id

/-- The step takes an input out of the table, and not as an invalid one. -/
def Retires (codec : Codec) (s : DialogueServerState) (op : Op) (id : String) : Prop :=
  id ∈ s.inputs ∧ id ∉ (s.step codec op).inputs ∧ id ∉ (s.step codec op).invalid_inputs

/-- The step creates a response that answers the input. -/
def Binds (codec : Codec) (s : DialogueServerState) (op : Op) (id : String) : Prop :=
  ∃ response r, s.responses.lookup response = none ∧
    (s.step codec op).responses.lookup response = some r ∧ r.input_item = some id

/-! ## One step -/

/-- What becomes of one input in a table of `n`, and of its being invalid. -/
inductive Fate (n : Nat) (bad : Prop) : Option InputState → Option InputState → Prop → Prop
  | kept {o : Option InputState} : Fate n bad o o bad
  | heard {i i' : InputState} : i'.pending = i.pending → i'.answered = i.answered →
      i'.abandoned = i.abandoned → Fate n bad (some i) (some i') bad
  | fresh {i' : InputState} : ¬ bad → i'.answered = false → i'.abandoned = false → Fate n bad none (some i') bad
  | answered {i i' : InputState} : i.pending = true → i.answered = false → i'.pending = false →
      i'.answered = true → i'.abandoned = i.abandoned → Fate n bad (some i) (some i') bad
  | retired {i : InputState} : i.answered = true → MAX_INPUT_ITEMS ≤ n → Fate n bad (some i) none bad
  | invalid {o : Option InputState} {bad' : Prop} : bad' → Fate n bad o none bad'
  | abandoned {i i' : InputState} : i.answered = false → i'.pending = false → i'.answered = false →
      i'.abandoned = true → Fate n bad (some i) (some i') bad

/-- What a step does to one input. -/
def Turn (s s' : DialogueServerState) (id : String) : Prop :=
  Fate s.inputs.entries.length (id ∈ s.invalid_inputs) (s.inputs.lookup id) (s'.inputs.lookup id)
    (id ∈ s'.invalid_inputs)

theorem Turn.of_same (h : SameInput s s') : Turn s s' id := by
  unfold Turn
  rw [h.inputs, h.invalid_inputs]
  exact .kept

theorem Turn.before {t : DialogueServerState} (h : Turn s s' id) (hsame : SameInput t s) : Turn t s' id := by
  unfold Turn at h ⊢
  rw [hsame.inputs, hsame.invalid_inputs] at h
  exact h

theorem Turn.after {t : DialogueServerState} (h : Turn s s' id) (hsame : SameInput s' t) : Turn s t id := by
  unfold Turn at h ⊢
  rw [hsame.inputs, hsame.invalid_inputs]
  exact h

theorem turn_put_input {other : String} (i' : InputState)
    (h : Fate s.inputs.entries.length (id ∈ s.invalid_inputs) (s.inputs.lookup id) (some i')
      (id ∈ s.invalid_inputs)) : Turn s (s.put_input id i') other := by
  unfold Turn put_input
  by_cases hother : other = id
  · rw [hother, AList.lookup_insert]
    exact h
  · rw [AList.lookup_insert_ne hother]
    exact .kept

theorem Listened.turn {other : String} (h : Listened s id s') : Turn s s' other := by
  rcases h with hsame | ⟨hfree, hfound, hsame, hpending, hanswered, habandoned⟩
  · exact .of_same hsame.input
  · refine Turn.after ?_ hsame.input
    rcases hfound with hknown | ⟨hnone, hroom⟩
    · refine turn_put_input _ ?_
      rw [hknown]
      exact .heard hpending hanswered habandoned
    · unfold input_isolated at hfree
      push Not at hfree
      obtain ⟨-, -, -, -, hvalid⟩ := hfree
      have hfresh : Fate s.inputs.entries.length (id ∈ s.invalid_inputs) none (some _) (id ∈ s.invalid_inputs) :=
        .fresh hvalid hanswered habandoned
      rcases hroom with _ | ⟨old, _, hold, holdanswered, hfull⟩
      · refine turn_put_input _ ?_
        rw [hnone]
        exact hfresh
      · -- the oldest answered input leaves, and the new one comes
        unfold Turn put_input
        by_cases hother : other = id
        · rw [hother, AList.lookup_insert, hnone]
          exact hfresh
        · rw [AList.lookup_insert_ne hother]
          by_cases hretired : other = old
          · rw [hretired, hold, AList.lookup_erase]
            exact .retired holdanswered hfull
          · rw [AList.lookup_erase_ne hretired]
            exact .kept

theorem Taken.turn {kind : EventKind} {other : String} (h : Taken a s event kind s' result) : Turn s s' other := by
  cases h with
  | aside _ _ hsame => exact .of_same hsame.input
  | listened _ _ hlistened => exact hlistened.turn
  | user hlistened _ => exact hlistened.turn
  | assistant _ _ _ _ => exact .kept
  | @invalidated id _ _ _ _ _ hinvalid =>
    obtain ⟨-, -, -, rfl⟩ := invalidate_ok hinvalid
    unfold Turn
    by_cases hother : other = id
    · rw [hother, AList.lookup_erase]
      exact .invalid (Finset.mem_insert_self _ _)
    · rw [AList.lookup_erase_ne hother]
      simp only [Finset.mem_insert, hother, false_or]
      exact .kept
  | ambient _ _ _ => exact .kept
  | created _ _ hanswers =>
    cases hanswers with
    | nobody => exact .kept
    | input id _ hi hready =>
      simp only [InputState.answerable, Bool.and_eq_true, Bool.not_eq_true'] at hready
      refine turn_put_input _ ?_
      rw [hi]
      exact .answered hready.1.1.1 hready.2 rfl rfl rfl
  | @output _ response id output _ _ item' _ _ _ _ _ _ hsame _ _ _ _ _ _ =>
    have hput := put_item_input (s.own id response output) response output item'
    refine Turn.after (.of_same ?_) hsame.input
    exact ⟨hput.inputs, hput.invalid_inputs, hput.ambient_inputs, hput.conversation_items⟩
  | @done id _ r _ _ _ _ _ _ _ _ =>
    have hretire := retire_responses_input s.response_order.length
      { s with responses := s.responses.insert id r.finished }
    exact .of_same ⟨hretire.inputs, hretire.invalid_inputs, hretire.ambient_inputs, hretire.conversation_items⟩

theorem step_turn (codec : Codec) (s : DialogueServerState) (op : Op) (id : String) : Turn s (s.step codec op) id := by
  rcases s.step_cases codec op with ⟨hsame, -⟩ | ⟨a, event, -, hsame⟩ | ⟨a, event, _, -, hadmitted⟩ |
    ⟨_, _, -, habandoned⟩
  · rw [hsame]
    exact .kept
  · exact .of_same hsame.input
  · rcases admitted_cases hadmitted with ⟨-, hsame, -⟩ | ⟨_, _, -, hbefore, htaken, hafter⟩
    · exact .of_same hsame.input
    · exact (htaken.turn.before hbefore.input).after hafter.input
  · obtain ⟨_, hi, hanswered, heq⟩ := abandon_ok habandoned
    rw [heq]
    refine turn_put_input _ ?_
    rw [hi]
    exact .abandoned hanswered rfl hanswered rfl

/-! ## Settled inputs -/

/-- A settled input does not wait for an answer, and an invalid one is in no table. -/
def Calm (s : DialogueServerState) (id : String) : Prop :=
  ∀ i, s.inputs.lookup id = some i → (i.answered = true → i.pending = false ∧ i.abandoned = false) ∧
    (i.abandoned = true → i.pending = false) ∧ id ∉ s.invalid_inputs

theorem Turn.calm (h : Turn s s' id) (hcalm : s.Calm id) : s'.Calm id := by
  unfold Calm at hcalm ⊢
  unfold Turn at h
  generalize s.inputs.lookup id = o at h hcalm
  generalize s'.inputs.lookup id = o' at h ⊢
  generalize (id ∈ s'.invalid_inputs) = bad' at h ⊢
  intro i' hi'
  subst hi'
  cases h with
  | kept => exact hcalm i' rfl
  | heard hpending hanswered habandoned =>
    rw [hpending, hanswered, habandoned]
    exact hcalm _ rfl
  | fresh hvalid hanswered habandoned => simp [hanswered, habandoned, hvalid]
  | answered hpending hanswered hpending' hanswered' habandoned =>
    obtain ⟨-, hgone, hvalid⟩ := hcalm _ rfl
    refine ⟨fun _ => ⟨hpending', ?_⟩, fun _ => hpending', hvalid⟩
    rw [habandoned]
    by_contra hnot
    rw [hgone (Bool.eq_true_of_not_eq_false hnot)] at hpending
    cases hpending
  | abandoned _ hpending' hanswered' _ =>
    exact ⟨fun hanswered => by simp [hanswered'] at hanswered, fun _ => hpending', (hcalm _ rfl).2.2⟩

theorem Turn.gone (h : Turn s s' id) (hcalm : s.Calm id) (hgone : s.Gone id) : s'.Gone id := by
  unfold Calm at hcalm
  unfold Gone at hgone ⊢
  unfold Turn at h
  generalize s.inputs.lookup id = o at h hcalm hgone
  generalize s'.inputs.lookup id = o' at h
  generalize (id ∈ s'.invalid_inputs) = bad' at h
  rcases hgone with ⟨i, rfl, hi⟩ | hbad
  · obtain ⟨hcalm_answered, hcalm_gone, -⟩ := hcalm i rfl
    cases h with
    | kept => exact .inl ⟨i, rfl, hi⟩
    | heard _ _ habandoned => exact .inl ⟨_, rfl, by rw [habandoned, hi]⟩
    | answered hpending _ _ _ _ =>
      rw [hcalm_gone hi] at hpending
      cases hpending
    | retired hanswered _ =>
      rw [(hcalm_answered hanswered).2] at hi
      cases hi
    | invalid hbad' => exact .inr hbad'
    | abandoned _ _ _ habandoned => exact .inl ⟨_, rfl, habandoned⟩
  · cases h with
    | fresh hvalid _ _ => exact absurd hbad hvalid
    | invalid hbad' => exact .inr hbad'
    | _ => exact .inr hbad

theorem Turn.settled (h : Turn s s' id) (hcalm : s.Calm id) (hsettled : s.Settled id)
    (hkept : ¬ (id ∈ s.inputs ∧ id ∉ s'.inputs ∧ id ∉ s'.invalid_inputs)) : s'.Settled id := by
  rcases hsettled with ⟨i, hi, hanswered⟩ | hgone
  · have hvalid := (hcalm i hi).2.2
    unfold Settled Answered Gone
    unfold Turn at h
    rw [← AList.lookup_isSome, ← AList.lookup_isSome] at hkept
    rw [hi] at h hkept
    generalize s'.inputs.lookup id = o' at h hkept
    generalize (id ∈ s'.invalid_inputs) = bad' at h hkept
    cases h with
    | kept => exact .inl ⟨i, rfl, hanswered⟩
    | heard _ hsame _ => exact .inl ⟨_, rfl, by rw [hsame, hanswered]⟩
    | answered _ hnot _ _ _ =>
      rw [hanswered] at hnot
      cases hnot
    | retired _ _ => exact absurd ⟨rfl, by simp, hvalid⟩ hkept
    | invalid hbad => exact .inr (.inr hbad)
    | abandoned hnot _ _ _ =>
      rw [hanswered] at hnot
      cases hnot
  · exact .inr (h.gone hcalm hgone)

theorem Settled.not_pending (h : s.Settled id) (hcalm : s.Calm id) : ¬ s.Pending id := by
  rintro ⟨i, hi, hpending⟩
  obtain ⟨hanswered, hgone, hvalid⟩ := hcalm i hi
  rcases h with ⟨j, hj, hj'⟩ | ⟨j, hj, hj'⟩ | hinvalid
  · rw [hi] at hj
    obtain rfl := Option.some.inj hj
    rw [(hanswered hj').1] at hpending
    cases hpending
  · rw [hi] at hj
    obtain rfl := Option.some.inj hj
    rw [hgone hj'] at hpending
    cases hpending
  · exact hvalid hinvalid

/-- A response that is new is one that was just created. -/
theorem Taken.binds {kind : EventKind} (h : Taken a s event kind s' result) {response : String}
    {r : ResponseState} (hnone : s.responses.lookup response = none)
    (hsome : s'.responses.lookup response = some r) (hid : r.input_item = some id) :
    ∃ i, s.inputs.lookup id = some i ∧ i.answerable = true ∧
      ∃ i', s'.inputs.lookup id = some i' ∧ i'.answered = true := by
  have hunchanged : s'.responses ≠ s.responses := by
    intro hsame
    rw [hsame, hnone] at hsome
    cases hsome
  cases h with
  | aside _ _ hsame => exact absurd hsame.responses hunchanged
  | listened _ _ hlistened => exact absurd hlistened.output.responses hunchanged
  | user hlistened _ => exact absurd hlistened.output.responses hunchanged
  | assistant _ _ _ _ => exact absurd rfl hunchanged
  | invalidated _ _ _ _ hinvalid =>
    obtain ⟨-, -, -, rfl⟩ := invalidate_ok hinvalid
    exact absurd rfl hunchanged
  | ambient _ _ _ => exact absurd rfl hunchanged
  | @created new _ _ _ _ _ hanswers =>
    by_cases hnew : response = new
    · subst hnew
      rw [AList.lookup_insert] at hsome
      obtain rfl := Option.some.inj hsome
      cases hanswers with
      | nobody => cases hid
      | input answered i hi hready =>
        obtain rfl := Option.some.inj hid
        exact ⟨i, hi, hready, _, AList.lookup_insert _, rfl⟩
    · rw [AList.lookup_insert_ne hnew, hanswers.output.responses, hnone] at hsome
      cases hsome
  | output _ _ hopened _ hsame _ _ _ _ _ _ =>
    rw [hopened.responses hsame] at hsome
    rw [AList.lookup_insert_ne, hnone] at hsome
    · cases hsome
    · rintro rfl
      rw [hopened.found] at hnone
      cases hnone
  | @done finished _ r' _ _ hfound _ _ _ _ _ =>
    have hother : (s.responses.insert finished r'.finished).lookup response = none := by
      rw [AList.lookup_insert_ne, hnone]
      rintro rfl
      rw [hfound] at hnone
      cases hnone
    rcases retire_responses_stays s.response_order.length
      { s with responses := s.responses.insert finished r'.finished } response with hstays | ⟨hstays, -⟩
    · rw [hstays, hother] at hsome
      cases hsome
    · rw [hstays] at hsome
      cases hsome

/-- A response is bound to an input that was pending and is then answered. -/
theorem Binds.answers {op : Op} (h : Binds codec s op id) : s.Pending id ∧ (s.step codec op).Answered id := by
  obtain ⟨response, r, hnone, hsome, hid⟩ := h
  have hunchanged : ∀ {s' : DialogueServerState}, s'.responses = s.responses → s'.responses.lookup response ≠ some r := by
    intro s' hsame hlookup
    rw [hsame, hnone] at hlookup
    cases hlookup
  rcases s.step_cases codec op with ⟨hsame, -⟩ | ⟨a, event, -, hsame⟩ | ⟨a, event, _, -, hadmitted⟩ |
    ⟨_, _, -, habandoned⟩
  · exact absurd hsome (hunchanged (by rw [hsame]))
  · exact absurd hsome (hunchanged hsame.responses)
  · rcases admitted_cases hadmitted with ⟨-, hsame, -⟩ | ⟨_, _, -, hbefore, htaken, hafter⟩
    · exact absurd hsome (hunchanged hsame.responses)
    · rw [hafter.responses] at hsome
      rw [← hbefore.responses] at hnone
      obtain ⟨i, hi, hready, i', hi', hanswered⟩ := htaken.binds hnone hsome hid
      refine ⟨⟨i, by rw [← hbefore.inputs, hi], ?_⟩, i', by rw [hafter.inputs, hi'], hanswered⟩
      simp only [InputState.answerable, Bool.and_eq_true] at hready
      exact hready.1.1.1
  · obtain ⟨i, -, -, heq⟩ := abandon_ok habandoned
    exact absurd hsome (hunchanged (by rw [heq]; rfl))

/-! ## Runs -/

theorem run_calm (codec : Codec) (ops : List Op) (id : String) : (run (step codec) {} ops).Calm id := by
  refine run_keeps (step codec) (fun s => s.Calm id) (fun s op h => (step_turn codec s op id).calm h) ?_ ops
  intro i hi
  cases hi

/-- How an input of a state fares from there on. -/
structure SettledForGood (codec : Codec) (s : DialogueServerState) (id : String) : Prop where
  /-- A settled input does not become pending again while the table keeps it. -/
  settled : ∀ ops, s.Settled id → Along (step codec) (fun s op => ¬ Retires codec s op id) s ops →
    ¬ (run (step codec) s ops).Pending id
  /-- One that was given up or found invalid never does. -/
  gone : ∀ ops, s.Gone id → ¬ (run (step codec) s ops).Pending id
  /-- No second response is bound to an input while the table keeps it. -/
  once : ∀ op mid op', Binds codec s op id →
    Along (step codec) (fun s op => ¬ Retires codec s op id) (s.step codec op) mid →
      ¬ Binds codec (run (step codec) (s.step codec op) mid) op' id
  /-- Only the full table forgets an input, and only an answered one. -/
  retires : ∀ op, Retires codec s op id → MAX_INPUT_ITEMS ≤ s.inputs.entries.length ∧ s.Answered id

theorem stays_settled {ops : List Op} (hcalm : s.Calm id) (hsettled : s.Settled id)
    (hkept : Along (step codec) (fun s op => ¬ Retires codec s op id) s ops) :
    ¬ (run (step codec) s ops).Pending id := by
  have hend := Along.keeps (fun s => s.Calm id ∧ s.Settled id) (fun s op hinv hkeeps => ?_) ⟨hcalm, hsettled⟩ hkept
  · exact hend.2.not_pending hend.1
  · have hturn := step_turn codec s op id
    exact ⟨hturn.calm hinv.1, hturn.settled hinv.1 hinv.2 hkeeps⟩

theorem stays_gone (ops : List Op) (hcalm : s.Calm id) (hgone : s.Gone id) :
    ¬ (run (step codec) s ops).Pending id := by
  have hend := run_keeps (step codec) (fun s => s.Calm id ∧ s.Gone id) (fun s op hinv => ?_) ⟨hcalm, hgone⟩ ops
  · exact Settled.not_pending (.inr hend.2) hend.1
  · have hturn := step_turn codec s op id
    exact ⟨hturn.calm hinv.1, hturn.gone hinv.1 hinv.2⟩

theorem retires_answered {op : Op} (h : Retires codec s op id) :
    MAX_INPUT_ITEMS ≤ s.inputs.entries.length ∧ s.Answered id := by
  obtain ⟨hin, hout, hvalid⟩ := h
  have hturn := step_turn codec s op id
  unfold Turn at hturn
  rw [AList.lookup_eq_none.mpr hout] at hturn
  obtain ⟨i, hi⟩ := Option.isSome_iff_exists.mp (AList.lookup_isSome.mpr hin)
  rw [hi] at hturn
  generalize (id ∈ (s.step codec op).invalid_inputs) = bad' at hturn hvalid
  cases hturn with
  | retired hanswered hfull => exact ⟨hfull, i, hi, hanswered⟩
  | invalid hbad => exact absurd hbad hvalid

end DialogueServerState

end omni_translate.bailian_dialogue
