-- When a streamed translation is complete: the transcript is what the events
-- carried unless an increment stands in a prefix relation with the text before
-- it. What the callback was handed is the transcript in any case.
import OmniTranslate.Calls
import OmniTranslate.ChatStreams

namespace omni_translate.provider_gateway

open text calls
open json (Value)

/-! ## Texts grown by increments -/

/-- The transcript after one more delta. -/
def grow (transcript delta : Text) : Text :=
  transcript ++ (normalize_stream_delta transcript delta).getD []

/-- The delta is not taken for cumulative text: one of the two is empty, or neither starts with
the other. -/
def Fresh (transcript delta : Text) : Prop :=
  delta = [] ∨ transcript = [] ∨ ¬ delta <+: transcript ∧ ¬ transcript <+: delta

/-- A fresh delta is kept, and any other loses characters. -/
theorem grow_cases (transcript delta : Text) :
    Fresh transcript delta ∧ grow transcript delta = transcript ++ delta ∨
      ¬ Fresh transcript delta ∧
        (grow transcript delta).length < transcript.length + delta.length := by
  unfold grow normalize_stream_delta Fresh
  by_cases hd : delta = []
  · simp [hd]
  · by_cases ht : transcript = []
    · simp [hd, ht]
    · have hdpos := List.length_pos_iff.mpr hd
      have htpos := List.length_pos_iff.mpr ht
      by_cases hold : delta <+: transcript
      · simp [hd, ht, hold]
        omega
      · have hne : delta ≠ transcript := by
          rintro rfl
          exact hold List.prefix_rfl
        by_cases hcumulative : transcript <+: delta
        · simp [hd, ht, hold, hne, hcumulative]
          omega
        · simp [hd, ht, hold, hne, hcumulative]

theorem length_foldl_grow (deltas : List Text) (transcript : Text) :
    (deltas.foldl grow transcript).length ≤ transcript.length + deltas.flatten.length := by
  induction deltas generalizing transcript with
  | nil => simp
  | cons d deltas ih =>
    have hrest := ih (grow transcript d)
    have hstep : (grow transcript d).length ≤ transcript.length + d.length := by
      rcases grow_cases transcript d with ⟨_, h⟩ | ⟨_, h⟩
      · rw [h, List.length_append]
      · omega
    rw [List.foldl_cons, List.flatten_cons, List.length_append]
    omega

/-- Each increment is fresh after all the text before it. -/
def Incremental (transcript : Text) (deltas : List Text) : Prop :=
  ∀ before d after, deltas = before ++ d :: after → Fresh (transcript ++ before.flatten) d

theorem incremental_cons {transcript d : Text} {deltas : List Text} :
    Incremental transcript (d :: deltas) ↔
      Fresh transcript d ∧ Incremental (transcript ++ d) deltas := by
  constructor
  · intro h
    refine ⟨by simpa using h [] d deltas rfl, ?_⟩
    intro before e after hsplit
    have := h (d :: before) e after (by rw [hsplit]; rfl)
    simpa using this
  · rintro ⟨hfirst, hrest⟩ before e after hsplit
    cases before with
    | nil =>
      obtain ⟨rfl, _⟩ := List.cons.inj hsplit
      simpa using hfirst
    | cons _ before =>
      obtain ⟨rfl, hlater⟩ := List.cons.inj hsplit
      simpa using hrest before e after hlater

/-- A transcript is everything it grew by exactly when each increment was fresh. -/
theorem foldl_grow_eq_iff (deltas : List Text) (transcript : Text) :
    deltas.foldl grow transcript = transcript ++ deltas.flatten ↔
      Incremental transcript deltas := by
  induction deltas generalizing transcript with
  | nil => simp [Incremental]
  | cons d deltas ih =>
    rw [incremental_cons, List.foldl_cons, List.flatten_cons, ← List.append_assoc]
    rcases grow_cases transcript d with ⟨hfresh, hgrow⟩ | ⟨hstale, _⟩
    · rw [hgrow, ih]
      exact (and_iff_right hfresh).symm
    · refine iff_of_false ?_ fun h => hstale h.1
      -- what one increment lost no later one brings back
      intro heq
      have hlength := congrArg List.length heq
      have hle := length_foldl_grow deltas (grow transcript d)
      simp only [List.length_append] at hlength
      omega

/-! ## What a loop records -/

/-- The contents of the events of a response, up to its end marker or its first fault. -/
def increments {σ : Type} (a : Adapter σ) (content : Value → Option Text) (parse : Parse) :
    List RawLine → List Text
  | [] => []
  | line :: lines =>
    match line.read with
    | .error _ => []
    | .ok raw_line =>
      match a.payload_of raw_line with
      | none => increments a content parse lines
      | some payload =>
        if payload = DONE then []
        else match parse payload with
          | .error _ => []
          | .ok value => (content value).toList ++ increments a content parse lines

/-- A stream took some increments, and handed on what its transcript grew by. -/
structure Took (s s' : Stream) (deltas : List Text) : Prop where
  transcript : s'.result.transcript = deltas.foldl grow s.result.transcript
  handed : s.handed.flatten = s.result.transcript → s'.handed.flatten = s'.result.transcript

theorem Took.refl (s : Stream) : Took s s [] := ⟨rfl, id⟩

theorem Took.trans {s s' s'' : Stream} {ds es : List Text} (h : Took s s' ds)
    (h' : Took s' s'' es) : Took s s'' (ds ++ es) :=
  ⟨by rw [List.foldl_append, ← h.transcript, h'.transcript], h'.handed ∘ h.handed⟩

variable {ds : List Text}

variable {on_delta : DeltaCallback} {elapsed_ms : Nat} {s s' : Stream}

theorem record_translation_delta_took {delta : Text} {summary : String}
    (h : record_translation_delta on_delta elapsed_ms delta summary s = .ok s') :
    Took s s' [delta] := by
  unfold record_translation_delta at h
  split at h
  · rename_i hnone
    cases h
    exact ⟨by simp [grow, hnone], id⟩
  · rename_i _ hsome
    obtain ⟨_, _, h⟩ := bind_ok h
    cases h
    refine ⟨by simp [grow, hsome, ProviderSmokeResult.first_event], ?_⟩
    intro h0
    simp [ProviderSmokeResult.first_event, h0]

theorem record_content_took {content : Option Text}
    (h : record_content on_delta elapsed_ms content s = .ok s') : Took s s' content.toList := by
  cases content with
  | none =>
    cases h
    exact Took.refl s
  | some _ => exact record_translation_delta_took h

theorem Took.reasoning (h : Took s s' ds) (elapsed_ms : Nat) (reasoning : Option Text) :
    Took s (record_reasoning elapsed_ms reasoning s') ds := by
  cases reasoning with
  | none => exact h
  | some _ => exact ⟨h.transcript, h.handed⟩

theorem Took.usage (h : Took s s' ds) (usage : Option (Nat × Nat)) :
    Took s (record_usage usage s') ds := by
  cases usage with
  | none => exact h
  | some _ => exact ⟨h.transcript, h.handed⟩

theorem openai_event_took {value : Value} (h : openai_event on_delta elapsed_ms value s = .ok s') :
    Took s s' (extract_openai_delta value).toList := by
  obtain ⟨_, h₁, h⟩ := bind_ok h
  cases h
  exact ((record_content_took h₁).reasoning elapsed_ms _).usage _

theorem dashscope_event_took {value : Value} {s s' : Stream × Bool}
    (h : (dashscope_adapter on_delta).event elapsed_ms value s = .ok s') :
    Took s.1 s'.1 (dashscope_content value).toList := by
  obtain ⟨⟨_, _⟩, hevent, hs⟩ := bind_ok h
  cases hs
  unfold dashscope_event at hevent
  split at hevent
  · cases hevent
  · obtain ⟨_, h₁, hevent⟩ := bind_ok hevent
    obtain ⟨_, _, hevent⟩ := bind_ok hevent
    cases hevent
    exact (record_content_took h₁).usage _

/-- A loop takes the increments of the response, when each event's content is taken. -/
theorem event_loop_took {σ : Type} {a : Adapter σ} {content : Value → Option Text} {parse : Parse}
    (stream : σ → Stream)
    (hevent : ∀ elapsed_ms value s s', a.event elapsed_ms value s = .ok s' →
      Took (stream s) (stream s') (content value).toList)
    (hdone : ∀ s, stream (a.done s) = stream s) (lines : List RawLine) {s s' : σ}
    (h : event_loop a parse lines s = .ok s') :
    Took (stream s) (stream s') (increments a content parse lines) := by
  induction lines generalizing s with
  | nil =>
    cases h
    exact Took.refl _
  | cons line lines ih =>
    unfold event_loop at h
    unfold increments
    rcases hread : line.read with _ | raw_line <;> simp only [hread] at h ⊢
    · cases h
    · rcases hpayload : a.payload_of raw_line with _ | payload <;> simp only [hpayload] at h ⊢
      · exact ih h
      · by_cases hend : payload = DONE
        · rw [if_pos hend] at h ⊢
          cases h
          rw [hdone]
          exact Took.refl _
        · rw [if_neg hend] at h ⊢
          rcases hvalue : parse payload with _ | value <;> simp only [hvalue] at h ⊢
          · cases h
          · obtain ⟨_, h₁, h⟩ := bind_ok h
            exact (hevent _ _ _ _ h₁).trans (ih h)

/-- A new stream that took some increments: its transcript is all of them exactly when each was
fresh, and the callback was handed the transcript. -/
theorem Took.complete_iff {summary : String} {s : Stream} (h : Took (.new summary) s ds) :
    (s.result.transcript = ds.flatten ↔ Incremental [] ds) ∧
      s.handed.flatten = s.result.transcript := by
  refine ⟨?_, h.handed rfl⟩
  rw [h.transcript, ← foldl_grow_eq_iff]
  rfl

/-- What a response carries and what its loop makes of it: the transcript is all increments,
exactly when none of them starts with the text before it or is started by it, and the callback
was handed the transcript. -/
theorem a_transcript_is_complete_when_no_increment_looks_cumulative (parse : Parse)
    (on_delta : DeltaCallback) (summary : String) (lines : List RawLine) :
    (∀ s, event_loop (openai_adapter on_delta) parse lines (.new summary) = .ok s →
      (s.result.transcript =
          (increments (openai_adapter on_delta) extract_openai_delta parse lines).flatten ↔
        Incremental [] (increments (openai_adapter on_delta) extract_openai_delta parse lines)) ∧
      s.handed.flatten = s.result.transcript) ∧
    ∀ s, event_loop (dashscope_adapter on_delta) parse lines (.new summary, false) = .ok s →
      (s.1.result.transcript =
          (increments (dashscope_adapter on_delta) dashscope_content parse lines).flatten ↔
        Incremental [] (increments (dashscope_adapter on_delta) dashscope_content parse lines)) ∧
      s.1.handed.flatten = s.1.result.transcript := by
  constructor
  · intro s hs
    exact (event_loop_took id (fun _ _ _ _ => openai_event_took) (fun _ => rfl) lines
      hs).complete_iff
  · intro s hs
    exact (event_loop_took Prod.fst (fun _ _ _ _ => dashscope_event_took) (fun _ => rfl) lines
      hs).complete_iff

/-- The value of an event with one content increment. -/
def content_event (delta : String) : Value :=
  .object [("choices", .array [.object [("delta", .object [("content", .string delta)])]])]

/-- An event line as the upstream writes it, with the text of the increment. -/
def content_text (delta : String) : String :=
  "\x7b\"choices\":[\x7b\"delta\":\x7b\"content\":\"" ++ delta ++ "\"\x7d\x7d]\x7d"

/-- A parser that knows the events of some increments. -/
def parse_known (deltas : List String) : Parse := fun text =>
  match deltas.find? fun delta => (content_text delta).toList = text with
  | some delta => .ok (content_event delta)
  | none => .error "expected value at line 1 column 1"

/-- The lines of a response with some increments, up to its end marker. -/
def response_of (deltas : List String) : List RawLine :=
  deltas.map (fun delta => ⟨0, .ok ("data: " ++ content_text delta).toList⟩) ++
    [⟨0, .ok "data: [DONE]".toList⟩]

/-- The stream after all lines, for a callback that always succeeds. -/
def stream_of (deltas : List String) : Except ProviderRuntimeError Stream :=
  event_loop (openai_adapter fun _ => .ok ()) (parse_known deltas) (response_of deltas) (.new "")

/-- Ordinary increments are kept. -/
theorem hello_world_is_kept :
    ∃ s, stream_of ["Hello", " world"] = .ok s ∧
      (s.result.transcript = (increments (openai_adapter fun _ => .ok ()) extract_openai_delta
          (parse_known ["Hello", " world"]) (response_of ["Hello", " world"])).flatten ↔
        Incremental [] (increments (openai_adapter fun _ => .ok ()) extract_openai_delta
          (parse_known ["Hello", " world"]) (response_of ["Hello", " world"]))) ∧
      s.handed.flatten = s.result.transcript := by
  have hstream : ∃ s, stream_of ["Hello", " world"] = .ok s := by
    have hok : (stream_of ["Hello", " world"]).isOk = true := by decide +kernel
    cases hs : stream_of ["Hello", " world"] with
    | ok s => exact ⟨s, rfl⟩
    | error _ =>
      rw [hs] at hok
      cases hok
  obtain ⟨s, hs⟩ := hstream
  exact ⟨s, hs, (a_transcript_is_complete_when_no_increment_looks_cumulative _ _ _ _).1 s hs⟩

/-- The second of two equal increments is lost, in either adapter. -/
theorem a_repeated_word_is_lost :
    (increments (openai_adapter fun _ => .ok ()) extract_openai_delta (parse_known ["ha"])
          (response_of ["ha", "ha"]) = ["ha".toList, "ha".toList] ∧
        (event_loop (openai_adapter fun _ => .ok ()) (parse_known ["ha"])
          (response_of ["ha", "ha"]) (.new "")).toOption.map (·.result.transcript) =
            some "ha".toList) ∧
      increments (dashscope_adapter fun _ => .ok ()) dashscope_content (parse_known ["ha"])
          (response_of ["ha", "ha"]) = ["ha".toList, "ha".toList] ∧
        (event_loop (dashscope_adapter fun _ => .ok ()) (parse_known ["ha"])
          (response_of ["ha", "ha"]) (.new "", false)).toOption.map (·.1.result.transcript) =
            some "ha".toList := by
  decide +kernel

end omni_translate.provider_gateway
