-- The words that a dialogue returns. What each text stream said is read off
-- the admitted events alone; the text of a response is what its own streams
-- said, in the order of outputs and contents.
import OmniTranslate.DialogueLaws

namespace omni_translate.bailian_dialogue

open calls json maps runs
open bailian_protocol (Codec Map LiveTranslateServerMutation)

/-- A text stream, or the stream of a transcript. -/
structure Line where
  response : String
  output : Nat
  content : Nat
  audio : Bool
deriving DecidableEq

/-- What each stream said so far. -/
abbrev Spoken := Line → Option String

/-- The event speaks of the line. -/
def Speaks (event : Value) (audio : Bool) (line : Line) : Prop :=
  (text event "response_id").toOption = some line.response ∧
    (index event "output_index").toOption = some line.output ∧
    (index event "content_index").toOption = some line.content ∧ audio = line.audio

instance (event : Value) (audio : Bool) (line : Line) : Decidable (Speaks event audio line) :=
  inferInstanceAs (Decidable (_ ∧ _ ∧ _ ∧ _))

/-- A new response has said nothing; a delta is added to a line, and its final text replaces it. -/
def speak (spoken : Spoken) (event : Value) : Spoken :=
  match kind_of event with
  | .response_created => fun line =>
    if (text (event.index "response") "id").toOption = some line.response then none else spoken line
  | .text audio done => fun line =>
    if Speaks event audio line then
      let value := event.get_str (if !done then "delta" else if audio then "transcript" else "text")
      some (if done then value.getD "" else (spoken line).getD "" ++ value.getD "")
    else spoken line
  | _ => spoken

/-- What the streams of a response said, in order: the selected stream of each part, or with the
fallback its other one where that is all there is. -/
def voice (spoken : Spoken) (response : String) (prefer_audio fallback : Bool) : List String :=
  (List.range 32).flatMap fun output => (List.range 32).filterMap fun content =>
    (spoken ⟨response, output, content, prefer_audio⟩).or
      (if fallback then spoken ⟨response, output, content, !prefer_audio⟩ else none)

/-- A session, with what its streams said. -/
structure Dialogue where
  state : DialogueServerState
  spoken : Spoken

namespace Dialogue

variable (codec : Codec) (d : Dialogue)

def hear : DialogueServerState.Op → Spoken
  | .server a event =>
    if (d.state.admit_event codec a event).toOption.isSome ∧ ¬ d.state.Replayed event then speak d.spoken event
    else d.spoken
  | _ => d.spoken

def step (op : DialogueServerState.Op) : Dialogue := ⟨d.state.step codec op, d.hear codec op⟩

def new : Dialogue := ⟨{}, fun _ => none⟩

end Dialogue

namespace DialogueServerState

variable {codec : Codec} {a : AuthorizedModelProtocolProfile} {s s' : DialogueServerState} {event : Value}
  {result : LiveTranslateServerMutation} {spoken : Spoken}

/-- The stream that a response keeps under a line. -/
def line_at (r : ResponseState) (line : Line) : Option TextStream :=
  (r.items.lookup line.output).bind fun item => item.stream line.content line.audio

/-- A running response keeps what its streams said. -/
def Voiced (s : DialogueServerState) (spoken : Spoken) : Prop :=
  ∀ line r, s.responses.lookup line.response = some r → r.done = false →
    (line_at r line).map (·.text) = spoken line

theorem Voiced.same (h : s.Voiced spoken) (hsame : SameOutput s s') : s'.Voiced spoken := by
  unfold Voiced
  rw [hsame.responses]
  exact h

/-! ## The text of a response -/

theorem flatMap_filterMap {α β γ : Type} (f : α → Option β) (g : β → List γ) (l : List α) :
    (l.filterMap f).flatMap g = l.flatMap fun x => ((f x).map g).getD [] := by
  induction l with
  | nil => rfl
  | cons x l ih =>
    rw [List.filterMap_cons, List.flatMap_cons, ← ih]
    cases f x <;> simp

variable {r : ResponseState} {t : String}

/-- The text that is returned for a response is what its streams keep, in order. -/
theorem selected_text_eq {id : String} (hbounded : s.Bounded)
    (hfound : s.responses.lookup id = some r) (fallback : Bool)
    (h : s.selected_text id fallback = some t) :
    t = String.join ((List.range 32).flatMap fun output => (List.range 32).filterMap fun content =>
      ((line_at r ⟨id, output, content, r.prefer_audio⟩).or
        (if fallback then line_at r ⟨id, output, content, !r.prefer_audio⟩ else none)).map (·.text)) := by
  unfold selected_text at h
  rw [hfound, Option.bind_eq_bind, Option.bind_some] at h
  dsimp only at h
  split at h
  · cases h
  · rw [← Option.some.inj h]
    have hitems : ∀ k ∈ r.items, k < 32 := by
      intro k hk
      obtain ⟨item, hitem⟩ := Option.isSome_iff_exists.mp (AList.lookup_isSome.mpr hk)
      exact (hbounded id r hfound k item hitem).1
    rw [in_order_eq_range hitems, flatMap_filterMap]
    congr 1
    refine List.flatMap_congr fun output _ => ?_
    cases hitem : r.items.lookup output with
    | none => simp [line_at, hitem]
    | some item =>
      have hparts := (hbounded id r hfound output item hitem).2
      simp only [Option.map_some, Option.getD_some, in_order_eq_range hparts, List.filterMap_filterMap]
      refine List.filterMap_congr fun content _ => ?_
      simp only [line_at, hitem, Option.bind_some, OutputItem.stream, selected_stream]
      cases item.parts.lookup content with
      | none => simp
      | some _ => simp

/-! ## Steps -/

theorem string_get {value : Value} {key v : String} (h : string value key = .ok v) : value.get_str key = some v :=
  expect_ok h

theorem speaks_iff {audio : Bool} {response : String} {output content : Nat} {line : Line}
    (hresponse : text event "response_id" = .ok response) (houtput : index event "output_index" = .ok output)
    (hcontent : index event "content_index" = .ok content) :
    Speaks event audio line ↔
      line.response = response ∧ line.output = output ∧ line.content = content ∧ line.audio = audio := by
  unfold Speaks
  rw [hresponse, houtput, hcontent]
  simp only [Except.toOption, Option.some.injEq, eq_comm]

variable {kind : EventKind}

theorem speak_of_quiet (hkind : kind = kind_of event)
    (hquiet : ∀ audio done, kind ≠ .text audio done) (hcreated : kind ≠ .response_created) :
    speak spoken event = spoken := by
  unfold speak
  rw [← hkind]
  split
  · exact absurd rfl hcreated
  · exact absurd rfl (hquiet _ _)
  · rfl

theorem line_at_insert (r : ResponseState) (output : Nat) (item : OutputItem) (line : Line) :
    line_at { r with items := r.items.insert output item } line =
      if line.output = output then item.stream line.content line.audio else line_at r line := by
  unfold line_at
  split
  · rename_i houtput
    rw [houtput, AList.lookup_insert, Option.bind_some]
  · rename_i houtput
    rw [AList.lookup_insert_ne houtput]

/-- The item that an event opens says what the lines under its index said. -/
theorem Opened.line_at {response id : String} {output : Nat} {item : OutputItem}
    (h : Opened s response output id r item) (content : Nat) (audio : Bool) :
    item.stream content audio = line_at r ⟨response, output, content, audio⟩ := by
  rw [h.item_eq]
  unfold DialogueServerState.line_at
  cases r.items.lookup output <;> simp [OutputItem.stream]

/-- An output event leaves the streams of its response as they were, but for the line it speaks of. -/
theorem Opened.voiced {response id : String} {output : Nat} {item item' : OutputItem}
    (h : Opened s response output id r item) (hkind : kind = kind_of event)
    (hcreated : kind ≠ .response_created) (hchange : Change event response output item item' kind)
    (hvoiced : s.Voiced spoken)
    (hsame : SameLedger ((s.own id response output).put_item response output item') s') :
    s'.Voiced (speak spoken event) := by
  -- the response's own lines; those of other responses are not touched
  have hown : ∀ n c b, (if n = output then item'.stream c b
      else DialogueServerState.line_at r ⟨response, n, c, b⟩).map (·.text) =
        speak spoken event ⟨response, n, c, b⟩ := by
    intro n c b
    have hold := hvoiced ⟨response, n, c, b⟩ r h.found h.running
    cases hchange with
    | quiet hquiet hstreams =>
      rw [speak_of_quiet hkind hquiet hcreated, ← hold]
      split
      · rename_i hn
        rw [hstreams, h.line_at, hn]
      · rfl
    | @text audio _ content _ hvalue hresponse_id houtput_index hcontent_index hstreams =>
      unfold speak
      rw [← hkind]
      simp only [speaks_iff hresponse_id houtput_index hcontent_index, string_get hvalue, Option.getD_some,
        true_and, ← hold]
      by_cases hn : n = output
      · subst hn
        simp only [if_true, true_and, hstreams]
        by_cases hline : c = content ∧ b = audio
        · obtain ⟨rfl, rfl⟩ := hline
          simp only [and_self, if_true, h.line_at, Option.map_some]
          cases DialogueServerState.line_at r ⟨response, n, c, b⟩ <;> simp
        · rw [if_neg hline, if_neg hline, h.line_at]
      · simp only [hn, if_false, false_and]
  intro line r' hr' hrunning
  rw [h.responses hsame] at hr'
  obtain ⟨other, n, c, b⟩ := line
  by_cases hresponse : other = response
  · subst hresponse
    rw [AList.lookup_insert] at hr'
    obtain rfl := Option.some.inj hr'
    rw [line_at_insert]
    exact hown n c b
  · rw [AList.lookup_insert_ne hresponse] at hr'
    rw [hvoiced ⟨other, n, c, b⟩ r' hr' hrunning]
    cases hchange with
    | quiet hquiet _ => rw [speak_of_quiet hkind hquiet hcreated]
    | text hvalue hresponse_id houtput_index hcontent_index _ =>
      unfold speak
      rw [← hkind]
      simp only [speaks_iff hresponse_id houtput_index hcontent_index, hresponse, false_and, if_false]

theorem Taken.voiced (h : Taken a s event kind s' result) (hkind : kind = kind_of event)
    (hvoiced : s.Voiced spoken) : s'.Voiced (speak spoken event) := by
  cases h with
  | aside hquiet hcreated hsame =>
    rw [speak_of_quiet hkind hquiet hcreated]
    exact hvoiced.same hsame.output
  | listened hquiet hcreated hlistened =>
    rw [speak_of_quiet hkind hquiet hcreated]
    exact hvoiced.same hlistened.output
  | user hlistened _ =>
    rw [speak_of_quiet hkind (by simp) (by simp)]
    exact hvoiced.same (hlistened.output.trans ⟨rfl, rfl, rfl⟩)
  | assistant _ _ _ _ =>
    rw [speak_of_quiet hkind (by simp) (by simp)]
    exact hvoiced.same ⟨rfl, rfl, rfl⟩
  | invalidated _ _ _ _ hinvalid =>
    obtain ⟨-, -, -, rfl⟩ := invalidate_ok hinvalid
    rw [speak_of_quiet hkind (by simp) (by simp)]
    exact hvoiced.same ⟨rfl, rfl, rfl⟩
  | ambient _ _ _ =>
    rw [speak_of_quiet hkind (by simp) (by simp)]
    exact hvoiced.same ⟨rfl, rfl, rfl⟩
  | @created id _ _ _ hid _ hanswers =>
    have hspeak : ∀ line, speak spoken event line = if line.response = id then none else spoken line := by
      intro line
      unfold speak
      rw [← hkind]
      simp only [hid, Except.toOption, Option.some.injEq, eq_comm]
    intro line r hr hrunning
    rw [hspeak]
    by_cases hresponse : line.response = id
    · rw [hresponse, AList.lookup_insert] at hr
      obtain rfl := Option.some.inj hr
      simp [line_at, hresponse]
    · rw [AList.lookup_insert_ne hresponse, hanswers.output.responses] at hr
      rw [if_neg hresponse]
      exact hvoiced line r hr hrunning
  | output hcreated _ hopened hchange hsame _ _ _ _ _ _ =>
    exact hopened.voiced hkind hcreated hchange hvoiced hsame
  | @done id _ r _ _ _ _ _ _ _ _ =>
    rw [speak_of_quiet hkind (by simp) (by simp)]
    intro line r' hr' hrunning
    rcases retire_responses_stays s.response_order.length
      { s with responses := s.responses.insert id r.finished } line.response with hstays | ⟨hnone, -⟩
    · rw [hstays] at hr'
      by_cases hresponse : line.response = id
      · rw [hresponse, AList.lookup_insert] at hr'
        rw [← Option.some.inj hr'] at hrunning
        cases hrunning
      · rw [AList.lookup_insert_ne hresponse] at hr'
        exact hvoiced line r' hr' hrunning
    · rw [hnone] at hr'
      cases hr'

/-- What a state returns for a running response is what the response said. -/
theorem Voiced.returned {id : String} (hvoiced : s.Voiced spoken) (hbounded : s.Bounded)
    (hfound : s.responses.lookup id = some r) (hrunning : r.done = false) {fallback : Bool}
    (h : s.selected_text id fallback = some t) :
    t = String.join (voice spoken id r.prefer_audio fallback) := by
  rw [selected_text_eq hbounded hfound fallback h]
  congr 1
  refine List.flatMap_congr fun output _ => List.filterMap_congr fun content _ => ?_
  rw [← hvoiced ⟨id, output, content, r.prefer_audio⟩ r hfound hrunning]
  cases fallback with
  | false => simp
  | true =>
    rw [if_pos rfl, if_pos rfl, ← hvoiced ⟨id, output, content, !r.prefer_audio⟩ r hfound hrunning]
    cases line_at r ⟨id, output, content, r.prefer_audio⟩ <;> simp

/-- The words that an event returns are those of its own response. -/
def ReturnsVoice (s : DialogueServerState) (spoken : Spoken) (event : Value) (t : String) : Prop :=
  ∃ id r, named_response event = .ok id ∧ s.responses.lookup id = some r ∧
    t = String.join (voice spoken id r.prefer_audio (kind_of event = .response_done))

theorem Taken.returns (h : Taken a s event kind s' result) (hkind : kind = kind_of event)
    (hvoiced : s.Voiced spoken) (hkept : s.Kept) (ht : result.normalized_text = some t) :
    s.ReturnsVoice (speak spoken event) event t := by
  have hvoiced' := h.voiced hkind hvoiced
  have hkept' := h.kept hkept
  cases h with
  | @output _ response _ _ r _ _ _ _ _ hdone hopened _ hsame _ _ _ hreturns _ _ =>
    rcases hreturns with hnone | ⟨hid, htext⟩
    · rw [hnone] at ht
      cases ht
    · rw [htext] at ht
      have hfound := congrArg (AList.lookup response) (hopened.responses hsame)
      rw [AList.lookup_insert] at hfound
      refine ⟨response, r, ?_, hopened.found, ?_⟩
      · rw [named_response, if_neg (hkind ▸ hdone), hid]
      · rw [hvoiced'.returned hkept'.bounded hfound hopened.running ht]
        simp [← hkind, hdone]
  | @done id _ r _ hid hfound hrunning _ htext _ _ =>
    refine ⟨id, r, ?_, hfound, ?_⟩
    · rw [named_response, if_pos hkind.symm, hid]
    · rw [htext] at ht
      rw [speak_of_quiet hkind (by simp) (by simp), ← hkind]
      simpa using hvoiced.returned hkept.bounded hfound hrunning ht
  | _ => cases ht

theorem Taken.completed_text (h : Taken a s event kind s' result)
    (ht : result.completed_response_text = some t) : result.normalized_text = some t := by
  cases h with
  | output _ _ _ _ _ _ _ _ _ _ hcompleted =>
    rcases hcompleted with hnone | hsame
    · rw [hnone] at ht
      cases ht
    · rw [← hsame, ht]
  | done _ _ _ _ _ _ hcompleted =>
    rcases hcompleted with hnone | hsame
    · rw [hnone] at ht
      cases ht
    · rw [← hsame, ht]
  | _ => cases ht

end DialogueServerState

/-! ## Runs -/

namespace Dialogue

open DialogueServerState

variable {codec : Codec} {d : Dialogue} {a : AuthorizedModelProtocolProfile} {event : Value}
  {s' : DialogueServerState} {result : LiveTranslateServerMutation}

theorem hear_admitted (h : d.state.admit_event codec a event = .ok (s', result)) :
    d.hear codec (.server a event) = if d.state.Replayed event then d.spoken else speak d.spoken event := by
  unfold hear
  simp only [h, Except.toOption, Option.isSome_some, true_and]
  by_cases hreplayed : d.state.Replayed event <;> simp [hreplayed]

/-- The items are those the ledger owns, and the streams keep what they said. -/
structure Faithful (d : Dialogue) : Prop where
  kept : d.state.Kept
  voiced : d.state.Voiced d.spoken

theorem step_faithful (h : d.Faithful) (op : Op) : (d.step codec op).Faithful := by
  refine ⟨step_kept h.kept op, ?_⟩
  change (d.state.step codec op).Voiced (d.hear codec op)
  rcases d.state.step_cases codec op with ⟨hsame, hrefused⟩ | ⟨a, event, rfl, hsame⟩ |
    ⟨a, event, _, rfl, hadmitted⟩ | ⟨_, _, rfl, habandoned⟩
  · have hsilent : d.hear codec op = d.spoken := by
      unfold hear
      cases op with
      | server a event => simp [hrefused a event rfl]
      | _ => rfl
    rw [hsame, hsilent]
    exact h.voiced
  · exact h.voiced.same hsame.output
  · rw [hear_admitted hadmitted]
    rcases admitted_cases hadmitted with ⟨hreplayed, hsame, -⟩ | ⟨_, _, hnew, hbefore, htaken, hafter⟩
    · rw [if_pos hreplayed]
      exact h.voiced.same hsame.output
    · rw [if_neg hnew]
      exact (htaken.voiced rfl (h.voiced.same hbefore.output)).same hafter.output
  · obtain ⟨_, -, -, heq⟩ := abandon_ok habandoned
    rw [heq]
    exact h.voiced.same ⟨rfl, rfl, rfl⟩

theorem run_faithful (codec : Codec) (ops : List Op) : (run (step codec) new ops).Faithful := by
  refine run_keeps (step codec) Faithful (fun _ op h => step_faithful h op) ⟨⟨?_, ?_⟩, ?_⟩ ops
  · intro id response output
    simp [new, item_at]
  · intro response r hr
    cases hr
  · intro line r hr
    cases hr

end Dialogue

end omni_translate.bailian_dialogue
