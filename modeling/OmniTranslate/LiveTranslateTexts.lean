-- The texts of a live-translation session: which stream each text comes from,
-- and when no text crosses from one stream to another.
import OmniTranslate.LiveTranslateLaws

namespace omni_translate.bailian_protocol

open calls json runs
open Session (step)

/-! ## Streams in the log -/

/-- The stream whose text an entry writes. -/
def written (e : Entry) : Option TextStream :=
  match kind_of e.1 with
  | .text_delta kind | .text_snapshot kind => (text_stream kind e.1).toOption
  | _ => none

/-- The stream whose text an entry writes or reads: the end of a stream reads where it brings no
text. -/
def stream_of (e : Entry) : Option TextStream :=
  match kind_of e.1 with
  | .text_done kind =>
    if (e.1.get_str (LiveTranslateServerState.final_field kind)).isNone then
      (text_stream kind e.1).toOption
    else none
  | _ => written e

/-- The piece that an entry adds to a stream. -/
def piece (stream : TextStream) (e : Entry) : Option String :=
  match kind_of e.1 with
  | .text_delta _ => if written e = some stream then e.1.get_str "delta" else none
  | _ => none

/-- The pieces of a stream, in order. -/
def pieces (stream : TextStream) (log : List Entry) : List String := log.filterMap (piece stream)

/-- The last text that was written for a stream. -/
def latest (stream : TextStream) (log : List Entry) : Option String :=
  (log.filterMap fun e => if written e = some stream then e.2.normalized_text else none).getLast?

/-- The entry commits a text, and its content belongs to the response. -/
def Commits (id text : String) (e : Entry) : Prop :=
  (∃ kind, kind_of e.1 = .text_done kind) ∧
    (∃ key, response_content_identity e.1 = .ok key ∧ key.response_id = id) ∧
    e.2.normalized_text = some text

/-- The text of a piece is all pieces of its stream so far; the end of a stream without a text
commits the latest text of the stream; and the text of a response that is done was committed by
content of that response. -/
structure InStream (log : List Entry) : Prop where
  delta : Each (fun before e => ∀ kind stream, kind_of e.1 = .text_delta kind →
    text_stream kind e.1 = .ok stream →
    e.2.normalized_text = some (String.join (pieces stream (before ++ [e])))) log
  done : Each (fun before e => ∀ kind stream, kind_of e.1 = .text_done kind →
    text_stream kind e.1 = .ok stream →
    e.1.get_str (LiveTranslateServerState.final_field kind) = none →
    e.2.normalized_text = latest stream before) log
  response : Each (fun before e => ∀ id text, bailian_protocol.done e = some id →
    e.2.completed_response_text = some text → ∃ f ∈ before, Commits id text f) log

/-- No other stream was written under the key of this one, and the end of a text names one response
only. -/
structure Clear (log : List Entry) (e : Entry) : Prop where
  key : ∀ stream, stream_of e = some stream → ∀ f ∈ log, ∀ other, written f = some other →
    other.identity = stream.identity → other = stream
  response : ∀ kind key, kind_of e.1 = .text_done kind → response_content_identity e.1 = .ok key →
    native_response_id_from_event e.1 = some key.response_id

def Distinct (log : List Entry) : Prop := Each Clear log

variable {codec : Codec} {authority : AuthorizedModelProtocolProfile}
  {s s' : LiveTranslateServerState} {event : Value} {mutation : LiveTranslateServerMutation}
  {log : List Entry} {e : Entry} {stream : TextStream}

theorem pieces_snoc : pieces stream (log ++ [e]) = pieces stream log ++ (piece stream e).toList := by
  cases h : piece stream e <;> simp [pieces, h]

theorem latest_snoc_same {text : String} (hw : written e = some stream)
    (ht : e.2.normalized_text = some text) : latest stream (log ++ [e]) = some text := by
  simp [latest, hw, ht]

theorem latest_snoc_other (hw : written e ≠ some stream) :
    latest stream (log ++ [e]) = latest stream log := by
  simp [latest, hw]

theorem latest_none (h : ∀ f ∈ log, written f ≠ some stream) : latest stream log = none := by
  unfold latest
  rw [List.getLast?_eq_none_iff, List.filterMap_eq_nil_iff]
  intro f hf
  rw [if_neg (h f hf)]

/-! ## What the state says of the texts -/

/-- The texts of the state are the latest of their streams; in the second dialect they are the
pieces put together; and what is committed was committed by content of the response. -/
structure Texts (v2 : Bool) (s : LiveTranslateServerState) (log : List Entry) : Prop where
  kept : ∀ f ∈ log, ∀ stream, written f = some stream →
    s.snapshots.lookup stream.identity = latest stream log
  only : ∀ key ∈ s.snapshots, ∃ f ∈ log, ∃ stream, written f = some stream ∧ stream.identity = key
  joined : v2 = true → ∀ stream, (latest stream log).getD "" = String.join (pieces stream log)
  committed : ∀ id text, s.committed_by_response.lookup id = some text → ∃ f ∈ log, Commits id text f

variable {v2 : Bool}

/-- What a stream finds under its key is its own latest text. -/
theorem Texts.own (h : Texts v2 s log)
    (hdistinct : ∀ f ∈ log, ∀ other, written f = some other → other.identity = stream.identity →
      other = stream) : s.snapshots.lookup stream.identity = latest stream log := by
  by_cases hw : ∃ f ∈ log, written f = some stream
  · obtain ⟨f, hf, hw⟩ := hw
    exact h.kept f hf stream hw
  · have hnone : ∀ f ∈ log, written f ≠ some stream := fun f hf hfw => hw ⟨f, hf, hfw⟩
    rw [latest_none hnone, AList.lookup_eq_none]
    intro hkey
    obtain ⟨f, hf, other, hother, hid⟩ := h.only _ hkey
    exact hnone f hf (hdistinct f hf other hother hid ▸ hother)

theorem Texts.write {text : String} (h : Texts v2 s log) (hw : written e = some stream)
    (ht : e.2.normalized_text = some text)
    (hdistinct : ∀ f ∈ log, ∀ other, written f = some other → other.identity = stream.identity →
      other = stream) (hsnapshots : s'.snapshots = s.snapshots.insert stream.identity text)
    (hcommitted : s'.committed_by_response = s.committed_by_response)
    (hjoined : v2 = true → text = String.join (pieces stream (log ++ [e])))
    (hpiece : ∀ other, other ≠ stream → piece other e = none) : Texts v2 s' (log ++ [e]) where
  kept := by
    rw [forall_snoc, hsnapshots]
    have hown : (s.snapshots.insert stream.identity text).lookup stream.identity
        = latest stream (log ++ [e]) := by
      rw [latest_snoc_same hw ht, AList.lookup_insert]
    refine ⟨fun f hf other hother => ?_, fun other hother => ?_⟩
    · by_cases hid : other.identity = stream.identity
      · rw [hdistinct f hf other hother hid]
        exact hown
      · have hne : written e ≠ some other := by
          rw [hw]
          rintro hsome
          exact hid (by rw [Option.some.inj hsome])
        rw [AList.lookup_insert_ne hid, latest_snoc_other hne]
        exact h.kept f hf other hother
    · rw [hw] at hother
      rw [← Option.some.inj hother]
      exact hown
  only := by
    intro key hkey
    rw [hsnapshots] at hkey
    rw [mem_snoc]
    rcases (AList.mem_insert _).mp hkey with rfl | hold
    · exact .inr ⟨stream, hw, rfl⟩
    · exact .inl (h.only key hold)
  joined := by
    intro hv2 other
    by_cases hother : other = stream
    · rw [hother, latest_snoc_same hw ht]
      exact hjoined hv2
    · have hne : written e ≠ some other := by
        rw [hw]
        rintro hsome
        exact hother (Option.some.inj hsome).symm
      rw [latest_snoc_other hne, pieces_snoc, hpiece other hother]
      simpa using h.joined hv2 other
  committed := by
    intro id text hlookup
    rw [hcommitted] at hlookup
    exact mem_snoc.mpr (.inl (h.committed id text hlookup))

theorem Texts.other (h : Texts v2 s log) (hw : written e = none)
    (hsnapshots : s'.snapshots = s.snapshots)
    (hcommitted : ∀ id text, s'.committed_by_response.lookup id = some text →
      s.committed_by_response.lookup id = some text ∨ Commits id text e) :
    Texts v2 s' (log ++ [e]) where
  kept := by
    rw [forall_snoc, hsnapshots]
    refine ⟨fun f hf stream hs => ?_, fun stream hs => by simp [hw] at hs⟩
    rw [latest_snoc_other (by simp [hw])]
    exact h.kept f hf stream hs
  only := by
    intro key hkey
    rw [hsnapshots] at hkey
    exact mem_snoc.mpr (.inl (h.only key hkey))
  joined := by
    intro hv2 stream
    have hpiece : piece stream e = none := by
      unfold piece
      split
      · simp [hw]
      · rfl
    rw [latest_snoc_other (by simp [hw]), pieces_snoc, hpiece]
    simpa using h.joined hv2 stream
  committed := by
    intro id text hlookup
    rw [mem_snoc]
    rcases hcommitted id text hlookup with hold | hnew
    · exact .inl (h.committed id text hold)
    · exact .inr hnew

/-! ## One event -/

variable {kind : TextKind}

theorem written_delta (hkind : kind_of e.1 = .text_delta kind)
    (hstream : text_stream kind e.1 = .ok stream) : written e = some stream := by
  simp [written, hkind, hstream, Except.toOption]

theorem written_snapshot (hkind : kind_of e.1 = .text_snapshot kind)
    (hstream : text_stream kind e.1 = .ok stream) : written e = some stream := by
  simp [written, hkind, hstream, Except.toOption]

theorem Texts.grown {delta : String} (h : Texts true s log) (hkind : kind_of e.1 = .text_delta kind)
    (hstream : text_stream kind e.1 = .ok stream) (hdelta : e.1.get_str "delta" = some delta)
    (hdistinct : ∀ f ∈ log, ∀ other, written f = some other → other.identity = stream.identity →
      other = stream) :
    s.grown stream.identity delta = String.join (pieces stream (log ++ [e])) := by
  have hpiece : piece stream e = some delta := by
    simp [piece, hkind, written_delta hkind hstream, hdelta]
  unfold LiveTranslateServerState.grown
  rw [h.own hdistinct, h.joined rfl stream, pieces_snoc, hpiece]
  simp [String.join_append]

theorem Texts.taken (h : Texts v2 s log) (hv2 : authority.is_v2 = v2)
    (hsnapshot : ∀ kind, kind_of event = .text_snapshot kind → v2 = false)
    (hclear : Clear log (event, mutation))
    (htaken : Taken authority s event (kind_of event) s' mutation) :
    Texts v2 s' (log ++ [(event, mutation)]) := by
  have hquiet : written (event, mutation) = none → s'.snapshots = s.snapshots →
      s'.committed_by_response = s.committed_by_response →
      Texts v2 s' (log ++ [(event, mutation)]) := fun hw hs hc =>
    h.other hw hs fun id text hl => .inl (hc ▸ hl)
  have hwritten : (∀ kind, kind_of event ≠ .text_delta kind) →
      (∀ kind, kind_of event ≠ .text_snapshot kind) → written (event, mutation) = none := by
    intro hd hs
    unfold written
    split
    · exact absurd ‹_› (hd _)
    · exact absurd ‹_› (hs _)
    · rfl
  generalize hkind : kind_of event = kind at htaken hsnapshot hwritten
  cases htaken with
  | text_delta kind stream delta transcriptions hrunning his hstream hdelta =>
    have hw := written_delta (e := (event, { normalized_text := some (s.grown stream.identity delta) }))
      hkind hstream
    have hdistinct := hclear.key stream (by simpa [stream_of, hkind] using hw)
    obtain rfl : v2 = true := hv2.symm.trans his
    refine h.write hw rfl hdistinct rfl rfl (fun _ => h.grown hkind hstream hdelta hdistinct) ?_
    intro other hne
    simp [piece, hkind, hw, Ne.symm hne]
  | text_snapshot kind stream text transcriptions hrunning hstream htext =>
    have hw := written_snapshot (e := (event, { normalized_text := some text })) hkind hstream
    have hdistinct := hclear.key stream (by simpa [stream_of, hkind] using hw)
    refine h.write hw rfl hdistinct rfl rfl (fun htrue => ?_) fun other _ => by simp [piece, hkind]
    rw [hsnapshot kind rfl] at htrue
    cases htrue
  | text_done kind stream id text _ hrunning hstream hid hactive htext key hkey =>
    refine h.other (hwritten (by simp) (by simp)) rfl fun r t hlookup => ?_
    by_cases hr : r = id
    · subst hr
      have ht : text = t := by simpa [AList.lookup_insert] using hlookup
      subst ht
      refine .inr ⟨⟨kind, hkind⟩, ⟨key, hkey, ?_⟩, rfl⟩
      have hnative := hclear.response kind key hkind hkey
      rw [hid] at hnative
      exact (Option.some.inj hnative).symm
    · exact .inl (by simpa [AList.lookup_insert_ne hr] using hlookup)
  | response_done d hrunning _ hactive _ =>
    refine h.other (hwritten (by simp) (by simp)) rfl fun r t hlookup => .inl ?_
    by_cases hr : r = d.response_id
    · subst hr
      simp [AList.lookup_erase] at hlookup
    · simpa [AList.lookup_erase_ne hr] using hlookup
  | aside kind _ hk hsame =>
    refine hquiet (hwritten ?_ ?_) hsame.snapshots hsame.committed_by_response <;> rintro k rfl <;>
      simp [EventType.aside] at hk
  | _ => exact hquiet (hwritten (by simp) (by simp)) rfl rfl

theorem InStream.taken (h : InStream log) (htexts : Texts v2 s log) (hv2 : authority.is_v2 = v2)
    (hclear : Clear log (event, mutation))
    (htaken : Taken authority s event (kind_of event) s' mutation) :
    InStream (log ++ [(event, mutation)]) := by
  refine ⟨Each.snoc.mpr ⟨h.delta, fun kind stream hkind hstream => ?_⟩,
    Each.snoc.mpr ⟨h.done, fun kind stream hkind hstream hnone => ?_⟩,
    Each.snoc.mpr ⟨h.response, fun id text hid htext => ?_⟩⟩
  · have hdistinct := hclear.key stream (by
      simpa [stream_of, show kind_of event = .text_delta kind from hkind]
        using written_delta hkind hstream)
    rw [show kind_of event = .text_delta kind from hkind] at htaken
    cases htaken with
    | text_delta kind stream' delta _ hrunning his hstream' hdelta =>
      obtain rfl : stream' = stream := Except.ok.inj (hstream'.symm.trans hstream)
      obtain rfl : v2 = true := hv2.symm.trans his
      rw [← htexts.grown hkind hstream hdelta hdistinct]
    | aside kind after hk hsame => simp [EventType.aside] at hk
  · have hdistinct := hclear.key stream (by
      simp [stream_of, show kind_of event = .text_done kind from hkind,
        show text_stream kind event = .ok stream from hstream, Except.toOption,
        show event.get_str _ = none from hnone])
    rw [show kind_of event = .text_done kind from hkind] at htaken
    cases htaken with
    | text_done kind stream' id text _ hrunning hstream' hid hactive htext =>
      obtain rfl : stream' = stream := Except.ok.inj (hstream'.symm.trans hstream)
      rw [show event.get_str _ = none from hnone, Option.none_or, htexts.own hdistinct] at htext
      exact htext.symm
    | aside kind after hk hsame => simp [EventType.aside] at hk
  · obtain ⟨hkind, hread⟩ := names_eq hid
    rw [show kind_of event = .response_done from hkind] at htaken
    cases htaken with
    | response_done d hrunning hd hactive _ =>
      simp only [hd] at hread
      rw [← show d.response_id = id from Except.ok.inj hread]
      refine htexts.committed _ text ?_
      by_cases hstatus : d.status = "completed"
      · simpa [hstatus] using htext
      · simp [hstatus] at htext
    | aside kind after hk hsame => simp [EventType.aside] at hk

/-! ## A session -/

/-- The second dialect has no event that brings a whole text. -/
def EventType.is_snapshot : EventType → Bool
  | text_snapshot _ => true
  | _ => false

theorem no_snapshot {name : String} (hv2 : authority.is_v2 = true)
    (hname : event_type event = .ok name)
    (hallowed : name ∈ event_types authority.wire_dialect .server) :
    kind_of event ≠ .text_snapshot kind := by
  have hdialect : authority.wire_dialect = "bailian-livetranslate-session-ws-v2" := by
    simp only [AuthorizedModelProtocolProfile.is_v2, Bool.and_eq_true, beq_iff_eq] at hv2
    exact hv2.1.2
  rw [hdialect] at hallowed
  have hlist : ∀ n ∈ event_types "bailian-livetranslate-session-ws-v2" .server,
      (EventType.parse n).is_snapshot = false := by decide +kernel
  have hparse := hlist name hallowed
  intro hkind
  rw [kind_of, hname] at hkind
  rw [show EventType.parse name = _ from hkind] at hparse
  cases hparse

theorem Texts.of_same (h : Texts v2 s log) (hsame : SameResponses s s') : Texts v2 s' log := by
  obtain ⟨hkept, honly, hjoined, hcommitted⟩ := h
  refine ⟨?_, ?_, hjoined, ?_⟩
  · rw [hsame.snapshots]; exact hkept
  · rw [hsame.snapshots]; exact honly
  · rw [hsame.committed_by_response]; exact hcommitted

/-- The texts so far, as long as the entries are clear. -/
def Streamed (v2 : Bool) (session : Session) : Prop :=
  Distinct session.log → Texts v2 session.state session.log ∧ InStream session.log

theorem Streamed.step {session : Session} (h : Streamed authority.is_v2 session) (op : Op) :
    Streamed authority.is_v2 (session.step codec authority op) := by
  rcases step_cases codec authority session op with ⟨_, heq⟩ | ⟨_, heq⟩ |
    ⟨_, _, _, _, ids, -, _, heq, hname, hallowed, htaken⟩
  · rw [heq]
    intro hdistinct
    obtain ⟨⟨hkept, honly, hjoined, hcommitted⟩, hstream⟩ := h hdistinct
    exact ⟨⟨hkept, honly, hjoined, hcommitted⟩, hstream⟩
  · rw [heq]
    intro hdistinct
    obtain ⟨⟨hkept, honly, hjoined, hcommitted⟩, hstream⟩ := h hdistinct
    exact ⟨⟨hkept, honly, hjoined, hcommitted⟩, hstream⟩
  · rw [heq]
    intro hdistinct
    obtain ⟨hbefore, hclear⟩ := Each.snoc.mp hdistinct
    obtain ⟨htexts, hstream⟩ := h hbefore
    have htexts := htexts.of_same (same_seen ids)
    refine ⟨htexts.taken rfl (fun _ hkind => ?_) hclear htaken, hstream.taken htexts rfl hclear htaken⟩
    by_contra hv2
    exact no_snapshot (Bool.not_eq_false _ ▸ hv2) hname hallowed hkind

theorem Streamed.new (v2 : Bool) : Streamed v2 Session.new := by
  intro _
  refine ⟨⟨?_, ?_, ?_, ?_⟩, Each.nil _, Each.nil _, Each.nil _⟩
  · simp [Session.new]
  · simp [Session.new, LiveTranslateServerState.default]
  · simp [Session.new, latest, pieces, String.join]
  · simp [Session.new, LiveTranslateServerState.default]

/-- In every session in which no two streams share a key and the end of a text names one response, no
text crosses between two streams. -/
theorem texts_stay_in_their_streams (codec : Codec) (authority : AuthorizedModelProtocolProfile)
    (ops : List Op) (hdistinct : Distinct (run (step codec authority) Session.new ops).log) :
    InStream (run (step codec authority) Session.new ops).log :=
  (run_keeps (step codec authority) (Streamed authority.is_v2)
    (fun _ op h => h.step op) (Streamed.new _) ops hdistinct).2

/-! Sessions with two responses: one in which their texts stay apart, one in which their streams have
one key, and one in which the end of a text names both. -/

def sample_place (response item : String) : Fields :=
  [("content_index", .number (.pos 0)), ("item_id", .string item), ("output_index", .number (.pos 0)),
    ("response_id", .string response)]

def sample_part (event kind response item : String) : Op :=
  sample_event event kind
    (sample_place response item ++ [("part", .object [("text", .string ""), ("type", .string "text")])])

def sample_delta (event response item delta : String) : Op :=
  sample_event event "response.text.delta" (sample_place response item ++ [("delta", .string delta)])

def sample_text_done (event response item : String) (fields : Fields) : Op :=
  sample_event event "response.text.done" (sample_place response item ++ fields)

/-- A response with one item and one part. -/
def sample_stream (number response item : String) : List Op :=
  [sample_created ("c" ++ number) response,
    sample_output ("i" ++ number) "response.output_item.added" response item "in_progress",
    sample_part ("p" ++ number) "response.content_part.added" response item]

def clear_streams : List Op :=
  sample_setup ++ sample_stream "1" "a" "i" ++ sample_stream "2" "b" "j"
    ++ [sample_delta "d1" "a" "i" "one", sample_delta "d2" "b" "j" "two", sample_delta "d3" "a" "i" "s",
      sample_text_done "t1" "a" "i" [], sample_part "q1" "response.content_part.done" "a" "i",
      sample_output "o1" "response.output_item.done" "a" "i" "completed",
      sample_done "f1" "a" [sample_item "i" "completed"]]

def joined_streams : List Op :=
  sample_setup ++ sample_stream "1" "a" "b|c" ++ sample_stream "2" "a|b" "c"
    ++ [sample_delta "d1" "a" "b|c" "one", sample_delta "d2" "a|b" "c" "two"]

def crossed_responses : List Op :=
  sample_setup ++ sample_stream "1" "a" "b" ++ [sample_created "c2" "r", sample_delta "d1" "a" "b" "one",
    sample_text_done "t1" "a" "b" [("response", .object [("id", .string "r")])], sample_done "f2" "r" []]

theorem Distinct.of_all
    (hkey : ∀ e ∈ log, ∀ stream ∈ stream_of e, ∀ f ∈ log, ∀ other ∈ written f,
      other.identity = stream.identity → other = stream)
    (hresponse : ∀ e ∈ log, ∀ key ∈ (response_content_identity e.1).toOption,
      native_response_id_from_event e.1 = some key.response_id) : Distinct log := by
  intro before e after hlog
  have hin : ∀ f, f ∈ before ∨ f = e → f ∈ log := by
    rintro f (hf | rfl) <;> simp [*]
  refine ⟨fun stream hs f hf other ho => hkey e (hin e (.inr rfl)) stream hs f (hin f (.inl hf)) other ho,
    fun _ key _ hk => hresponse e (hin e (.inr rfl)) key ?_⟩
  simp [hk, Except.toOption]

theorem clear_streams_stay_apart :
    Distinct (run (step sample_codec sample_authority) Session.new clear_streams).log ∧
      InStream (run (step sample_codec sample_authority) Session.new clear_streams).log ∧
      (run (step sample_codec sample_authority) Session.new clear_streams).log.filterMap
        (·.2.completed_response_text) = ["ones"] := by
  have hdistinct : Distinct (run (step sample_codec sample_authority) Session.new clear_streams).log :=
    .of_all (by decide +kernel) (by decide +kernel)
  exact ⟨hdistinct, texts_stay_in_their_streams _ _ _ hdistinct, by decide +kernel⟩

/-- The second text begins with the first, and a response is done with the text of another. -/
theorem texts_cross_between_streams :
    ¬ InStream (run (step sample_codec sample_authority) Session.new joined_streams).log ∧
      ¬ InStream (run (step sample_codec sample_authority) Session.new crossed_responses).log := by
  constructor
  · intro h
    let stream : TextStream := .content .response_text ⟨"a|b", "c", 0, 0⟩
    obtain ⟨e, he, hkind, hstream, htext⟩ :
        ∃ e ∈ (run (step sample_codec sample_authority) Session.new joined_streams).log.getLast?,
          kind_of e.1 = .text_delta .response_text ∧ text_stream .response_text e.1 = .ok stream ∧
          e.2.normalized_text ≠ some (String.join (pieces stream
            ((run (step sample_codec sample_authority) Session.new joined_streams).log.dropLast
              ++ [e]))) := by
      decide +kernel
    exact htext (h.delta.last he _ _ hkind hstream)
  · intro h
    obtain ⟨e, he, hdone, htext, hother⟩ :
        ∃ e ∈ (run (step sample_codec sample_authority) Session.new crossed_responses).log.getLast?,
          done e = some "r" ∧ e.2.completed_response_text = some "one" ∧
          ∀ f ∈ (run (step sample_codec sample_authority) Session.new
              crossed_responses).log.dropLast,
            ∀ key ∈ (response_content_identity f.1).toOption, key.response_id ≠ "r" := by
      decide +kernel
    obtain ⟨f, hf, -, ⟨key, hkey, hid⟩, -⟩ := h.response.last he _ _ hdone htext
    exact hother f hf key (by simp [hkey, Except.toOption]) hid

end omni_translate.bailian_protocol
