-- The ends of responses on the ledger of a strict watch run: either server
-- reducer says how a response ended, and one function of the socket records it.
import OmniTranslate.DialogueInputs
import OmniTranslate.LiveTranslateTaken
import OmniTranslate.WatchCalls

namespace omni_translate.socket_event_processor

open calls json runs watch_terminal_lifecycle
open bailian_protocol (Codec LiveTranslateServerState LiveTranslateServerMutation native_response_id_from_event)
open bailian_dialogue (AuthorizedModelProtocolProfile DialogueServerState is_supported_authority text)

/-! ## Admission -/

/-- The two server reducers of a socket; the authority says which of them admits its events. -/
structure EventDiagnostics where
  dialogue_server_state : DialogueServerState
  livetranslate_server_state : LiveTranslateServerState

def server_event_type (event : Value) : String := (event.get_str "type").getD "(unknown)"

def unexpected_event (authority : AuthorizedModelProtocolProfile) (event : Value) (error : String) : String :=
  "unexpected_event: " ++ error ++ " profileId=" ++ authority.profile_id
    ++ " profileVersion=" ++ toString authority.profile_version
    ++ " wireDialect=" ++ authority.wire_dialect ++ " eventType=" ++ server_event_type event

section admission

variable (codec : Codec) (authority : AuthorizedModelProtocolProfile)

def admit_bailian_server_event (event : Value) (d : EventDiagnostics) :
    EventDiagnostics × Except String LiveTranslateServerMutation :=
  if is_supported_authority authority = true then
    match d.dialogue_server_state.admit_event codec authority event with
    | .ok (next, mutation) => ({ d with dialogue_server_state := next }, .ok mutation)
    | .error error => (d, .error (unexpected_event authority event error))
  else
    match d.livetranslate_server_state.admit_event codec authority.toAuthorizedModelProtocolProfile event with
    | (next, .ok mutation) => ({ d with livetranslate_server_state := next }, .ok mutation)
    | (next, .error error) =>
      ({ d with livetranslate_server_state := next }, .error (unexpected_event authority event error))

def record_client_session_update (event : Value) (d : EventDiagnostics) : EventDiagnostics :=
  if is_supported_authority authority = true then
    { d with
      dialogue_server_state :=
        (d.dialogue_server_state.record_client_session_update codec authority event).toOption.getD
          d.dialogue_server_state }
  else
    { d with
      livetranslate_server_state :=
        (d.livetranslate_server_state.record_client_session_update codec
          authority.toAuthorizedModelProtocolProfile event).toOption.getD d.livetranslate_server_state }

end admission

/-! ## The ends of responses -/

def record_admitted_strict_response_terminal (direction event_type response_id : String)
    (response_completed : Bool) (response_terminal_status : Option String) (now : Nat) :
    EStateM String StrictWatchTerminalLifecycle Unit :=
  if direction ≠ "inbound" then pure ()
  else if event_type = "response.audio.done" then
    with_active_mut (record_response_terminal .last_response_audio_done response_id now) ()
  else if event_type = "response.done" then
    if response_completed = true then
      with_active_mut (record_response_terminal .response_done response_id now) ()
    else
      match response_terminal_status with
      | some status => with_active_mut (record_response_failed response_id status) ()
      | none => throw "model_protocol.payload_invalid: response.done lacks typed terminal status"
  else pure ()

/-- A server event as the socket reads it, with the response whose audio is under way. -/
structure Frame where
  event : Value
  pending_audio_response_id : Option String := none
  now : Nat := 0

def Frame.terminal_response_id (frame : Frame) : String :=
  let named := native_response_id_from_event frame.event
  (if server_event_type frame.event = "response.audio.done" then named.or frame.pending_audio_response_id
    else named).getD ""

/-- The status that the end of a response carries. -/
def carried_status (event : Value) : String :=
  trim (((event.index "response").get_str "status").getD "")

/-- An admitted end of a response: what it carried, and what the reducer made of it. -/
structure Terminal where
  response_id : String
  status : String
  response_completed : Bool
deriving DecidableEq

/-- The socket of a strict watch run, with the ends of responses admitted so far. -/
structure Socket where
  diagnostics : EventDiagnostics
  lifecycle : StrictWatchTerminalLifecycle
  error : Option String
  terminals : List Terminal

/-- The run's ledger, and nothing admitted yet. -/
def Socket.new (d : EventDiagnostics) (identity : StrictWatchTerminalIdentity) : Socket :=
  ⟨d, some { identity }, none, []⟩

/-- The calls that record the end of a response. -/
def ends_response : Op → Bool
  | .response_terminal _ _ _ | .response_failed _ _ => true
  | _ => false

inductive Step where
  | session_update (event : Value)
  | finish
  | abandon_manual_input (item_id : String) (response_create_sent : Bool)
  | reconnect
  | receive (frame : Frame)
  | watch (op : Op) (hop : ends_response op = false)

namespace Socket

variable (codec : Codec) (authority : AuthorizedModelProtocolProfile) (s : Socket)

/-- The end of a response that an event brings, if it is admitted and not ignored. -/
def terminal (frame : Frame) : Option Terminal :=
  let admitted := admit_bailian_server_event codec authority frame.event s.diagnostics
  match admitted.2 with
  | .ok mutation =>
    if admitted.1.dialogue_server_state.ignored = false ∧ server_event_type frame.event = "response.done" then
      some ⟨frame.terminal_response_id, carried_status frame.event, mutation.response_completed⟩
    else none
  | .error _ => none

/-- An error is the end of the socket. -/
def receive (direction : String) (frame : Frame) : Socket :=
  let admitted := admit_bailian_server_event codec authority frame.event s.diagnostics
  let s' := { s with diagnostics := admitted.1, terminals := s.terminals ++ (s.terminal codec authority frame).toList }
  match admitted.2 with
  | .error error => { s' with error := some error }
  | .ok mutation =>
    if admitted.1.dialogue_server_state.ignored = true then s'
    else
      match record_admitted_strict_response_terminal direction (server_event_type frame.event)
          frame.terminal_response_id mutation.response_completed mutation.response_terminal_status
          frame.now s.lifecycle with
      | .ok _ next => { s' with lifecycle := next }
      | .error error next => { s' with lifecycle := next, error := some error }

def live_step (direction : String) : Step → Socket
  | .session_update event =>
    { s with diagnostics := record_client_session_update codec authority event s.diagnostics }
  | .finish =>
    { s with
      diagnostics.livetranslate_server_state :=
        s.diagnostics.livetranslate_server_state.record_client_finish.toOption.getD
          s.diagnostics.livetranslate_server_state }
  | .abandon_manual_input item_id sent =>
    { s with
      diagnostics.dialogue_server_state :=
        (s.diagnostics.dialogue_server_state.abandon_manual_input item_id sent).toOption.getD
          s.diagnostics.dialogue_server_state }
  | .reconnect => { s with diagnostics := ⟨{}, .default⟩ }
  | .receive frame => s.receive codec authority direction frame
  | .watch op _ =>
    match with_active_mut (record codec.sha256 op) () s.lifecycle with
    | .ok _ next => { s with lifecycle := next }
    | .error _ next => { s with lifecycle := next }

def step (direction : String) (step : Step) : Socket :=
  if s.error = none then s.live_step codec authority direction step else s

end Socket

/-! ## What the reducers say -/

variable {codec : Codec} {authority : AuthorizedModelProtocolProfile} {event : Value}
  {mutation : LiveTranslateServerMutation}

theorem get_str_of_type (htype : server_event_type event = "response.done") :
    event.get_str "type" = some "response.done" := by
  unfold server_event_type at htype
  cases h : event.get_str "type" with
  | none =>
    rw [h] at htype
    exact absurd htype (by decide)
  | some _ => rw [← htype, h, Option.getD_some]

/-- The live-translation reducer says that a response completed where its end says so. -/
theorem livetranslate_ended {s next : LiveTranslateServerState}
    (h : s.admit_event codec authority.toAuthorizedModelProtocolProfile event = (next, .ok mutation))
    (htype : server_event_type event = "response.done") :
    mutation.response_completed = decide (carried_status event = "completed") ∧
      mutation.response_terminal_status = some (carried_status event) := by
  unfold LiveTranslateServerState.admit_event at h
  split at h
  · rename_i _ _ hinner
    obtain ⟨rfl, hmutation⟩ := Prod.mk.inj h
    obtain rfl := Except.ok.inj hmutation
    obtain ⟨-, _, _, _, -, htaken⟩ := bailian_protocol.admit_inner_taken hinner
    have hkind : bailian_protocol.kind_of event = .response_done := by
      unfold bailian_protocol.kind_of bailian_protocol.event_type
      rw [get_str_of_type htype]
      decide +kernel
    rw [hkind] at htaken
    cases htaken with
    | response_done done _ hdone _ _ =>
      obtain ⟨response, hresponse, hdone⟩ := bind_ok hdone
      iterate 4 obtain ⟨_, -, hdone⟩ := bind_ok hdone
      obtain ⟨status, hstatus, hdone⟩ := bind_ok hdone
      iterate 5 obtain ⟨_, -, hdone⟩ := bind_ok hdone
      obtain rfl := Except.ok.inj hdone
      have hcarried : carried_status event = status := by
        obtain ⟨_, hraw, hstatus⟩ := bind_ok hstatus
        obtain ⟨_, -, hstatus⟩ := bind_ok hstatus
        obtain rfl := Except.ok.inj hstatus
        rw [carried_status, Value.index, expect_ok hresponse, Option.getD_some, expect_ok hraw, Option.getD_some]
      rw [hcarried]
      exact ⟨rfl, rfl⟩
    | aside _ _ hkind' _ => exact absurd hkind' (by decide)
  · cases (Prod.mk.inj h).2

/-- The dialogue reducer says that a response completed at every end. -/
theorem dialogue_ended {s next : DialogueServerState}
    (h : s.admit_event codec authority event = .ok (next, mutation)) (hlive : next.ignored = false)
    (htype : server_event_type event = "response.done") : mutation.response_completed = true := by
  rcases DialogueServerState.admitted_applied h with ⟨-, -, hignored, -⟩ | ⟨_, _, -, -, happly, -⟩
  · rw [hlive] at hignored
    cases hignored
  · have hkind : bailian_dialogue.kind_of event = .response_done := by
      unfold bailian_dialogue.kind_of
      rw [get_str_of_type htype]
      decide +kernel
    rw [hkind] at happly
    iterate 7 obtain ⟨_, -, happly⟩ := bind_ok happly
    obtain ⟨-, rfl⟩ := pure_ok happly
    rfl

/-! ## What the ledger takes -/

variable {s s' : StrictWatchTerminalLifecycleState} {op : Op} {ok : Bool}

theorem ends_kept (h : Done s op s' ok) (hop : ends_response op = false) :
    s'.response_done_ids = s.response_done_ids ∧ s'.failed_response_statuses = s.failed_response_statuses := by
  cases h with
  | terminal | terminal_exhausted | failed | failed_again => cases hop
  | _ => exact ⟨rfl, rfl⟩

theorem terminal_taken {stage : ResponseStage} {response_id : String} {now : Nat}
    (h : Done s (.response_terminal stage response_id now) s' true) :
    s'.response_done_ids =
        (if stage = .response_done then insert response_id s.response_done_ids else s.response_done_ids) ∧
      s'.failed_response_statuses = s.failed_response_statuses := by
  cases h with
  | terminal => exact ⟨rfl, rfl⟩
  | idle _ hop => cases hop
  | fresh _ hop => cases hop

theorem failed_taken {response_id status : String} (h : Done s (.response_failed response_id status) s' true) :
    s'.response_done_ids = s.response_done_ids.erase response_id ∧
      s'.failed_response_statuses = s.failed_response_statuses.insert response_id status := by
  cases h with
  | failed => exact ⟨rfl, rfl⟩
  | idle _ hop => cases hop
  | fresh _ hop => cases hop

/-- A call on the ledger that is answered did what such a call does. -/
theorem active_done {x : Ledger Unit} {next : StrictWatchTerminalLifecycle} (hx : Does s op x)
    (h : with_active_mut x () (some s) = .ok () next) : ∃ s', next = some s' ∧ Done s op s' true := by
  unfold Does calls.Ends at hx
  cases hrecord : x s with
  | ok _ s' =>
    rw [hrecord] at hx
    simp only [with_active_mut, hrecord] at h
    cases h
    exact ⟨s', rfl, hx⟩
  | error error s' =>
    simp only [with_active_mut, hrecord] at h
    cases h

variable {event_type response_id : String} {said : Bool} {status : Option String} {now : Nat}
  {next : StrictWatchTerminalLifecycle}

/-- An end that is recorded as completed is kept among those that are done. -/
theorem completed_recorded
    (h : record_admitted_strict_response_terminal "inbound" "response.done" response_id true status now (some s) =
      .ok () next) :
    ∃ s', next = some s' ∧ s'.response_done_ids = insert response_id s.response_done_ids ∧
      s'.failed_response_statuses = s.failed_response_statuses := by
  unfold record_admitted_strict_response_terminal at h
  rw [if_neg (by decide), if_neg (by decide), if_pos rfl, if_pos rfl] at h
  obtain ⟨s', rfl, hdone⟩ := active_done (response_terminal_done .response_done response_id now) h
  exact ⟨s', rfl, terminal_taken hdone⟩

/-- An end that is recorded as failed takes back what was done. -/
theorem failed_recorded {carried : String}
    (h : record_admitted_strict_response_terminal "inbound" "response.done" response_id false (some carried) now
      (some s) = .ok () next) :
    ∃ s', next = some s' ∧ s'.response_done_ids = s.response_done_ids.erase response_id ∧
      s'.failed_response_statuses = s.failed_response_statuses.insert response_id carried := by
  unfold record_admitted_strict_response_terminal at h
  rw [if_neg (by decide), if_neg (by decide), if_pos rfl, if_neg (by decide)] at h
  obtain ⟨s', rfl, hdone⟩ := active_done (response_failed_done response_id carried) h
  exact ⟨s', rfl, failed_taken hdone⟩

theorem others_recorded (htype : event_type ≠ "response.done")
    (h : record_admitted_strict_response_terminal "inbound" event_type response_id said status now (some s) =
      .ok () next) :
    ∃ s', next = some s' ∧ s'.response_done_ids = s.response_done_ids ∧
      s'.failed_response_statuses = s.failed_response_statuses := by
  unfold record_admitted_strict_response_terminal at h
  rw [if_neg (by decide)] at h
  split at h
  · obtain ⟨s', rfl, hdone⟩ := active_done (response_terminal_done .last_response_audio_done response_id now) h
    exact ⟨s', rfl, terminal_taken hdone⟩
  · cases h
    exact ⟨s, rfl, rfl, rfl⟩

/-! ## What the ledger tells -/

/-- The status of the last end of a response. -/
def last_status (terminals : List Terminal) (id : String) : Option String :=
  ((terminals.filter (·.response_id = id)).getLast?).map (·.status)

/-- The ledger holds a response as done where its last end was completed, it holds the status of every other end,
and the reducer said of every end what it carried. -/
structure Told (ledger : StrictWatchTerminalLifecycleState) (terminals : List Terminal) : Prop where
  done : ∀ id, id ∈ ledger.response_done_ids ↔ last_status terminals id = some "completed"
  failed : ∀ id, ledger.failed_response_statuses.lookup id =
    last_status (terminals.filter (·.status ≠ "completed")) id
  agreed : ∀ t ∈ terminals, t.response_completed = true ↔ t.status = "completed"

theorem last_status_snoc (terminals : List Terminal) (t : Terminal) (id : String) :
    last_status (terminals ++ [t]) id = if id = t.response_id then some t.status else last_status terminals id := by
  unfold last_status
  by_cases h : id = t.response_id
  · simp [h]
  · simp [h, Ne.symm h]

variable {ledger ledger' : StrictWatchTerminalLifecycleState} {terminals : List Terminal}

theorem Told.complete {t : Terminal} (h : Told ledger terminals)
    (hdone : ledger'.response_done_ids = insert t.response_id ledger.response_done_ids)
    (hfailed : ledger'.failed_response_statuses = ledger.failed_response_statuses)
    (hstatus : t.status = "completed") (hagreed : t.response_completed = true) :
    Told ledger' (terminals ++ [t]) where
  done id := by
    rw [hdone, Finset.mem_insert, h.done, last_status_snoc, hstatus]
    split <;> simp [*]
  failed id := by
    rw [hfailed, h.failed]
    simp [hstatus]
  agreed other hother := by
    rcases List.mem_append.mp hother with hold | hnew
    · exact h.agreed other hold
    · obtain rfl := List.mem_singleton.mp hnew
      simp [hstatus, hagreed]

theorem Told.failing {t : Terminal} (h : Told ledger terminals)
    (hdone : ledger'.response_done_ids = ledger.response_done_ids.erase t.response_id)
    (hfailed : ledger'.failed_response_statuses = ledger.failed_response_statuses.insert t.response_id t.status)
    (hstatus : t.status ≠ "completed") (hagreed : t.response_completed = false) :
    Told ledger' (terminals ++ [t]) where
  done id := by
    rw [hdone, Finset.mem_erase, h.done, last_status_snoc]
    split <;> simp [*]
  failed id := by
    have hfilter : (terminals ++ [t]).filter (·.status ≠ "completed") =
        terminals.filter (·.status ≠ "completed") ++ [t] := by
      simp [hstatus]
    rw [hfailed, hfilter, last_status_snoc]
    split
    · next heq => rw [heq, AList.lookup_insert]
    · next hne => rw [AList.lookup_insert_ne hne, h.failed]
  agreed other hother := by
    rcases List.mem_append.mp hother with hold | hnew
    · exact h.agreed other hold
    · obtain rfl := List.mem_singleton.mp hnew
      simp [hstatus, hagreed]

theorem Told.same (h : Told ledger terminals)
    (hdone : ledger'.response_done_ids = ledger.response_done_ids)
    (hfailed : ledger'.failed_response_statuses = ledger.failed_response_statuses) :
    Told ledger' terminals :=
  ⟨hdone ▸ h.done, hfailed ▸ h.failed, h.agreed⟩

/-! ## Runs -/

namespace Socket

variable {s : Socket} {d : EventDiagnostics} {frame : Frame} {t : Terminal}

theorem receive_terminals : (s.receive codec authority "inbound" frame).terminals =
    s.terminals ++ (s.terminal codec authority frame).toList := by
  unfold receive
  dsimp only
  split
  · rfl
  · split
    · rfl
    · split <;> rfl

/-- What an admitted end of a response says, where the dialogue reducer admits none but completed ones. -/
theorem admitted_end {next : EventDiagnostics}
    (hadmitted : admit_bailian_server_event codec authority event d = (next, .ok mutation))
    (hlive : next.dialogue_server_state.ignored = false) (htype : server_event_type event = "response.done")
    (hfair : is_supported_authority authority = true → carried_status event = "completed") :
    mutation.response_completed = decide (carried_status event = "completed") ∧
      (carried_status event ≠ "completed" → mutation.response_terminal_status = some (carried_status event)) := by
  unfold admit_bailian_server_event at hadmitted
  split at hadmitted
  · next hdialogue =>
    split at hadmitted
    · next after mutation' hafter =>
      obtain ⟨rfl, hmutation⟩ := Prod.mk.inj hadmitted
      obtain rfl := Except.ok.inj hmutation
      have hstatus := hfair hdialogue
      exact ⟨by simpa [hstatus] using dialogue_ended hafter hlive htype, fun hne => absurd hstatus hne⟩
    · cases (Prod.mk.inj hadmitted).2
  · split at hadmitted
    · next after mutation' hafter =>
      obtain ⟨-, hmutation⟩ := Prod.mk.inj hadmitted
      obtain rfl := Except.ok.inj hmutation
      obtain ⟨hsaid, hstatus⟩ := livetranslate_ended hafter htype
      exact ⟨hsaid, fun _ => hstatus⟩
    · cases (Prod.mk.inj hadmitted).2

/-- The dialogue reducer says of every end that the response completed. -/
theorem terminal_of_dialogue (hdialogue : is_supported_authority authority = true)
    (ht : t ∈ s.terminal codec authority frame) : t.response_completed = true := by
  unfold terminal admit_bailian_server_event at ht
  rw [if_pos hdialogue] at ht
  cases hadmitted : s.diagnostics.dialogue_server_state.admit_event codec authority frame.event with
  | error error =>
    rw [hadmitted] at ht
    cases ht
  | ok _ =>
    rw [hadmitted] at ht
    dsimp only at ht
    split at ht
    · next hlive =>
      cases ht
      exact dialogue_ended hadmitted hlive.1 hlive.2
    · cases ht

/-- The ledger still tells the ends of the responses after an event. -/
theorem receive_told {ledger : StrictWatchTerminalLifecycleState}
    (hlive : (s.receive codec authority "inbound" frame).error = none) (hledger : s.lifecycle = some ledger)
    (htold : Told ledger s.terminals)
    (hfair : is_supported_authority authority = true →
      ∀ t ∈ s.terminal codec authority frame, t.status = "completed") :
    ∃ ledger', (s.receive codec authority "inbound" frame).lifecycle = some ledger' ∧
      Told ledger' (s.receive codec authority "inbound" frame).terminals := by
  unfold receive at hlive ⊢
  unfold terminal at hfair ⊢
  rcases hadmitted : admit_bailian_server_event codec authority frame.event s.diagnostics with ⟨next, error | _⟩ <;>
    rw [hadmitted] at hlive hfair
  · cases hlive
  · dsimp only at hlive hfair ⊢
    cases hignored : next.dialogue_server_state.ignored with
    | true => exact ⟨ledger, hledger, by simpa using htold⟩
    | false =>
      rw [hignored, if_neg (by decide)] at hlive
      rw [if_neg (by decide)]
      rw [hledger] at hlive ⊢
      split at hlive
      · next after hrecord =>
        by_cases htype : server_event_type frame.event = "response.done"
        · rw [hignored, if_pos ⟨rfl, htype⟩] at hfair
          obtain ⟨hsaid, hstatus⟩ := admitted_end hadmitted hignored htype fun h => hfair h _ rfl
          rw [if_pos ⟨rfl, htype⟩]
          rw [htype, hsaid] at hrecord
          by_cases hcompleted : carried_status frame.event = "completed"
          · rw [decide_eq_true hcompleted] at hrecord
            obtain ⟨ledger', rfl, hdone, hfailed⟩ := completed_recorded hrecord
            exact ⟨ledger', rfl, htold.complete hdone hfailed hcompleted (by simp [hsaid, hcompleted])⟩
          · rw [decide_eq_false hcompleted, hstatus hcompleted] at hrecord
            obtain ⟨ledger', rfl, hdone, hfailed⟩ := failed_recorded hrecord
            exact ⟨ledger', rfl, htold.failing hdone hfailed hcompleted (by simp [hsaid, hcompleted])⟩
        · obtain ⟨ledger', rfl, hdone, hfailed⟩ := others_recorded htype hrecord
          exact ⟨ledger', rfl, by simpa [htype] using htold.same hdone hfailed⟩
      · cases hlive

theorem step_error {step : Step} (hlive : (s.step codec authority "inbound" step).error = none) : s.error = none := by
  by_contra herror
  unfold Socket.step at hlive
  rw [if_neg herror] at hlive
  exact herror hlive

theorem step_told {step : Step} {ledger : StrictWatchTerminalLifecycleState}
    (hlive : (s.step codec authority "inbound" step).error = none) (hledger : s.lifecycle = some ledger)
    (htold : Told ledger s.terminals)
    (hfair : is_supported_authority authority = true →
      ∀ frame, step = .receive frame → ∀ t ∈ s.terminal codec authority frame, t.status = "completed") :
    ∃ ledger', (s.step codec authority "inbound" step).lifecycle = some ledger' ∧
      Told ledger' (s.step codec authority "inbound" step).terminals := by
  have hstep : s.step codec authority "inbound" step = s.live_step codec authority "inbound" step :=
    if_pos (step_error hlive)
  rw [hstep] at hlive ⊢
  cases step with
  | receive frame => exact receive_told hlive hledger htold fun h => hfair h frame rfl
  | watch op hop =>
    dsimp only [live_step]
    have hdone := record_done (s := ledger) codec.sha256 op
    unfold Does calls.Ends at hdone
    rw [hledger]
    cases hrecord : record codec.sha256 op ledger with
    | ok _ ledger' =>
      rw [hrecord] at hdone
      obtain ⟨hids, hstatuses⟩ := ends_kept hdone hop
      simp only [with_active_mut, hrecord]
      exact ⟨ledger', rfl, htold.same hids hstatuses⟩
    | error error ledger' =>
      rw [hrecord] at hdone
      obtain ⟨hids, hstatuses⟩ := ends_kept hdone hop
      simp only [with_active_mut, hrecord]
      exact ⟨ledger', rfl, htold.same hids hstatuses⟩
  | session_update | finish | abandon_manual_input | reconnect => exact ⟨ledger, hledger, htold⟩

/-- A run of the socket that a strict watch run listens to. -/
def watched (codec : Codec) (authority : AuthorizedModelProtocolProfile) (d : EventDiagnostics)
    (identity : StrictWatchTerminalIdentity) (steps : List Step) : Socket :=
  run (fun s step => s.step codec authority "inbound" step) (new d identity) steps

theorem watched_snoc (identity : StrictWatchTerminalIdentity) (before : List Step) (step : Step) :
    watched codec authority d identity (before ++ [step]) =
      (watched codec authority d identity before).step codec authority "inbound" step :=
  run_snoc _ _ _ _

/-- A ledger tells of every response how it ended, as long as no dialogue response ends but completed. -/
theorem watched_told (identity : StrictWatchTerminalIdentity) {steps : List Step}
    (hfair : is_supported_authority authority = true → ∀ before frame, before ++ [.receive frame] <+: steps →
      (watched codec authority d identity (before ++ [.receive frame])).error = none →
      ∀ t ∈ (watched codec authority d identity before).terminal codec authority frame, t.status = "completed")
    (hlive : (watched codec authority d identity steps).error = none) :
    ∃ ledger, (watched codec authority d identity steps).lifecycle = some ledger ∧
      Told ledger (watched codec authority d identity steps).terminals := by
  induction steps using List.reverseRecOn with
  | nil => exact ⟨_, rfl, by simp [last_status, watched, new], by simp [last_status, watched, new], by simp [watched, new]⟩
  | append_singleton before _ ih =>
    rw [watched_snoc] at hlive ⊢
    obtain ⟨ledger, hledger, htold⟩ := ih
      (fun h earlier frame hpart => hfair h earlier frame (hpart.trans (List.prefix_append _ _)))
      (step_error hlive)
    refine step_told hlive hledger htold fun h frame hframe => ?_
    subst hframe
    exact hfair h before frame (List.prefix_refl _) (by rwa [watched_snoc])

/-- The ledger holds the responses that were completed as done, and the others as failed, in every run in which
the dialogue reducer admits no end but a completed one. -/
theorem ends_are_told_iff_no_dialogue_response_fails (codec : Codec) (authority : AuthorizedModelProtocolProfile)
    (d : EventDiagnostics) (identity : StrictWatchTerminalIdentity) (steps : List Step) :
    (∀ before, before <+: steps → (watched codec authority d identity before).error = none →
      ∃ ledger, (watched codec authority d identity before).lifecycle = some ledger ∧
        Told ledger (watched codec authority d identity before).terminals) ↔
      (is_supported_authority authority = true → ∀ before frame, before ++ [.receive frame] <+: steps →
        (watched codec authority d identity (before ++ [.receive frame])).error = none →
        ∀ t ∈ (watched codec authority d identity before).terminal codec authority frame,
          t.status = "completed") := by
  constructor
  · intro htold hdialogue before frame hpart hlive t ht
    obtain ⟨ledger, -, htold⟩ := htold _ hpart hlive
    have hmem : t ∈ (watched codec authority d identity (before ++ [.receive frame])).terminals := by
      rw [watched_snoc] at hlive ⊢
      rw [show Socket.step codec authority _ "inbound" (.receive frame) = _ from if_pos (step_error hlive)]
      change t ∈ (receive codec authority _ "inbound" frame).terminals
      rw [receive_terminals]
      exact List.mem_append_right _ (Option.mem_toList.mpr ht)
    refine (htold.agreed t hmem).mp ?_
    exact terminal_of_dialogue hdialogue ht
  · intro hfair before hpart hlive
    exact watched_told identity (fun h earlier frame hearlier => hfair h earlier frame (hearlier.trans hpart)) hlive

/-! ## A response that fails -/

def sample_frame (kind : String) (fields : List (String × Value)) : Step :=
  .receive { event := .object (fields ++ [("type", .string kind)]) }

/-- The session is set up, and its only response fails. -/
def failed_answer : List Step :=
  [.session_update (.object [("session", bailian_dialogue.sample_session), ("type", .string "session.update")]),
    sample_frame "session.created" [("session", .object [("id", .string "session-1")])],
    sample_frame "session.updated" [("session", .object [("id", .string "session-1")])],
    sample_frame "response.created" [("response", .object [("id", .string "response-1")])],
    sample_frame "response.done"
      [("response", .object [("id", .string "response-1"), ("status", .string "failed")])]]

def sample_watched : Socket :=
  watched bailian_dialogue.sample_codec bailian_dialogue.sample_authority ⟨{}, .default⟩ ⟨"run", "cell", "lease"⟩
    failed_answer

theorem a_failed_response_is_recorded_as_done :
    sample_watched.error = none ∧ last_status sample_watched.terminals "response-1" = some "failed" ∧
      ∀ ledger, sample_watched.lifecycle = some ledger → "response-1" ∈ ledger.response_done_ids ∧
        "response-1" ∉ ledger.failed_response_statuses ∧ ¬ Told ledger sample_watched.terminals := by
  have hfailed : last_status sample_watched.terminals "response-1" = some "failed" := by decide +kernel
  have hdone : (sample_watched.lifecycle.all fun ledger =>
      "response-1" ∈ ledger.response_done_ids ∧ "response-1" ∉ ledger.failed_response_statuses) = true := by
    decide +kernel
  refine ⟨by decide +kernel, hfailed, fun ledger hledger => ?_⟩
  rw [hledger] at hdone
  obtain ⟨hin, hnot⟩ := of_decide_eq_true hdone
  refine ⟨hin, hnot, fun htold => ?_⟩
  rw [(htold.done "response-1").mp hin] at hfailed
  exact absurd hfailed (by decide)

end Socket

end omni_translate.socket_event_processor
