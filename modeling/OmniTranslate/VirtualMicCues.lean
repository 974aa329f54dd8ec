-- The cues of the virtual microphone over whole runs of the service. Beside the service goes
-- a record of each cue's incarnations: the writes that were admitted, the ones in flight and
-- the statuses that were emitted for it. An incarnation is a cue under one authority between
-- two resets of the ledger.
import OmniTranslate.VirtualMic
import OmniTranslate.Recent

namespace omni_translate.virtual_mic

open runs playback
open bridge_playback_ack (TranslationPlaybackStatusKind TranslationPlaybackAuthority)
open recent (others Window)

variable {S : Type}

/-! ## The record -/

structure Incarnation where
  resets : Nat
  key : VirtualMicKey
deriving DecidableEq

/-- A write in flight and the resets before it. `ended` says that a frame has ended the cue during
the write. -/
structure Ticket where
  write : VirtualMicWrite
  resets : Nat
  ended : Bool

def Ticket.incarnation (t : Ticket) : Incarnation := ⟨t.resets, t.write.key⟩

/-- A frame of the incarnation may have ended the cue. -/
def Ticket.mark (incarnation : Incarnation) (ended : Bool) (t : Ticket) : Ticket :=
  if t.incarnation = incarnation ∧ ended then { t with ended := true } else t

/-- A write that was admitted. -/
structure Admission where
  incarnation : Incarnation
  chunk_index : Nat
  chunk_count : Nat

/-- The service with the record. `handled` are the keys of the frames and write results since the
last reset, in their order. -/
structure MicLog (S : Type) where
  service : BridgeService S
  resets : Nat
  tickets : List Ticket
  admissions : List Admission
  told : List (Incarnation × TranslationPlaybackStatusKind)
  handled : List VirtualMicKey

namespace MicLog

variable (l : MicLog S)

def new (device_id : String) (authority : TranslationPlaybackAuthority) : MicLog S where
  service := .new device_id authority
  resets := 0
  tickets := []
  admissions := []
  told := []
  handled := []

/-- `handle_audio_client` takes the frame as far as the virtual microphone. -/
def takes (authority : TranslationPlaybackAuthority) (frame : VirtualMicFrame S) : Prop :=
  l.service.translation_frame_has_current_authority authority = true ∧
    frame.cue_id ≠ "" ∧ frame.chunk_index < frame.chunk_count

instance (authority : TranslationPlaybackAuthority) (frame : VirtualMicFrame S) :
    Decidable (l.takes authority frame) :=
  inferInstanceAs (Decidable (_ ∧ _ ∧ _))

variable (service : BridgeService S)

/-- The kinds of the statuses that a step of the service has emitted. -/
def news : List TranslationPlaybackStatusKind :=
  (service.emitted.drop l.service.emitted.length).map fun e => e.2.status

/-- The frame has ended the cue. -/
def ends (key : VirtualMicKey) : Bool :=
  key ∉ l.service.virtual_mic_cue_ledger.terminal ∧ key ∈ service.virtual_mic_cue_ledger.terminal

def frame (key : VirtualMicKey) (frame : VirtualMicFrame S) (service : BridgeService S) :
    MicLog S :=
  let incarnation : Incarnation := ⟨l.resets, key⟩
  let writes := service.writes.drop l.service.writes.length
  { service
    resets := l.resets
    tickets := l.tickets.map (Ticket.mark incarnation (l.ends service key)) ++
      writes.map fun write => ⟨write, l.resets, false⟩
    admissions := l.admissions ++
      writes.map fun write => ⟨incarnation, write.chunk_index, frame.chunk_count⟩
    told := l.told ++ (l.news service).map fun kind => (incarnation, kind)
    handled := l.handled ++ [key] }

def written (i : Nat) (t : Ticket) (service : BridgeService S) : MicLog S :=
  { l with
    service
    tickets := l.tickets.eraseIdx i
    told := l.told ++ (l.news service).map fun kind => (t.incarnation, kind)
    handled := l.handled ++ [t.write.key] }

def reset : MicLog S :=
  { l with
    service
    resets := l.resets + 1
    handled := [] }

/-- A step of the service with its record. -/
def step (op : ServiceOp S) : MicLog S :=
  let service := ServiceOp.step l.service op
  match op with
  | .virtual_mic_frame authority frame =>
    if l.takes authority frame then l.frame ⟨frame.cue_id, authority⟩ frame service
    else { l with service }
  | .written i _ =>
    match l.tickets[i]? with
    | none => { l with service }
    | some t => l.written i t service
  | .bridge_init _ _ capture_or_session_changed requested =>
    if capture_or_session_changed ∨ l.service.virtual_mic_output_requested ≠ requested then
      l.reset service
    else { l with service }
  | .bridge_shutdown => l.reset service
  | _ => { l with service }

/-! ## What is recorded of an incarnation -/

variable (incarnation : Incarnation)

def admitted : List (Nat × Nat) :=
  (l.admissions.filter (·.incarnation = incarnation)).map fun a => (a.chunk_index, a.chunk_count)

def in_flight : List Ticket :=
  l.tickets.filter (·.incarnation = incarnation)

def told_of : List TranslationPlaybackStatusKind :=
  (l.told.filter (·.1 = incarnation)).map (·.2)

end MicLog

/-- What is recorded of an incarnation. -/
structure View where
  admitted : List (Nat × Nat)
  in_flight : List Ticket
  told : List TranslationPlaybackStatusKind

variable (l : MicLog S)

def MicLog.view (incarnation : Incarnation) : View :=
  ⟨l.admitted incarnation, l.in_flight incarnation, l.told_of incarnation⟩

/-- The writes are admitted in the order of the chunks, each at most once and one at a time, and
`Started`, `Completed` and the terminal statuses are emitted at most once. -/
structure View.Orderly (v : View) : Prop where
  in_order : ∃ n chunk_count, n ≤ chunk_count ∧
    v.admitted = (List.range n).map fun chunk_index => (chunk_index, chunk_count)
  one_in_flight : v.in_flight.length ≤ 1
  started_once : v.told.count .Started ≤ 1
  completed_once : v.told.count .Completed ≤ 1
  one_terminal : v.told.countP (·.is_terminal) ≤ 1

/-! ## The condition -/

/-- The counts of a frame are 32 bits wide. -/
def fits_u32 : ServiceOp S → Prop
  | .virtual_mic_frame _ frame => frame.chunk_count < 2 ^ 32
  | _ => True

/-- The other cues that were handled since the first frame of the cue whose frame comes in. -/
def crowd : ServiceOp S → Nat
  | .virtual_mic_frame authority frame =>
    if l.takes authority frame then others ⟨frame.cue_id, authority⟩ l.handled else 0
  | _ => 0

/-- A write comes back before the ledger forgets that a frame has ended its cue. If it comes back
to another authority or another ledger than it was admitted under, no frame has ended its cue, and
under a current authority its cue is not active again. -/
def returns_in_time (t : Ticket) : Prop :=
  if t.resets = l.resets ∧
      l.service.translation_frame_has_current_authority t.write.key.authority = true then
    t.ended = true → others t.write.key l.handled < VIRTUAL_MIC_TERMINAL_LEDGER_CAPACITY
  else
    t.ended = false ∧
      (l.service.translation_frame_has_current_authority t.write.key.authority = true →
        t.write.key ∉ l.service.virtual_mic_cue_ledger.active)

/-- Fewer cues come between two frames of a cue than the ledger remembers, and writes come back in
time. -/
def in_time : ServiceOp S → Prop
  | .written i _ => ∀ t ∈ l.tickets[i]?, returns_in_time l t
  | op => crowd l op < VIRTUAL_MIC_TERMINAL_LEDGER_CAPACITY

/-! ## Statuses -/

section

variable {s s' s'' : BridgeService S}

/-- The service has emitted no statuses but of these kinds, in this order. -/
def Tells (s s' : BridgeService S) (kinds : List TranslationPlaybackStatusKind) : Prop :=
  ∃ new, s'.emitted = s.emitted ++ new ∧ (new.map fun e => e.2.status).Sublist kinds

theorem Tells.nothing (h : s'.emitted = s.emitted) : Tells s s' [] :=
  ⟨[], by rw [h, List.append_nil], List.Sublist.refl _⟩

theorem Tells.trans {kinds kinds' : List TranslationPlaybackStatusKind} (h : Tells s s' kinds)
    (h' : Tells s' s'' kinds') : Tells s s'' (kinds ++ kinds') := by
  obtain ⟨new, heq, hkinds⟩ := h
  obtain ⟨new', heq', hkinds'⟩ := h'
  refine ⟨new ++ new', by rw [heq', heq, List.append_assoc], ?_⟩
  rw [List.map_append]
  exact hkinds.append hkinds'

theorem Tells.emit (s : BridgeService S) (status : TranslationStatus) :
    Tells s (s.emit_translation_status status) [status.status] := by
  unfold BridgeService.emit_translation_status
  split
  · exact ⟨[], (List.append_nil _).symm, List.nil_sublist _⟩
  split
  · exact ⟨[], (List.append_nil _).symm, List.nil_sublist _⟩
  · exact ⟨_, rfl, List.Sublist.refl _⟩

@[simp] theorem emit_ledger (s : BridgeService S) (status : TranslationStatus) :
    (s.emit_translation_status status).virtual_mic_cue_ledger = s.virtual_mic_cue_ledger := by
  unfold BridgeService.emit_translation_status
  split
  · rfl
  split <;> rfl

@[simp] theorem emit_writes (s : BridgeService S) (status : TranslationStatus) :
    (s.emit_translation_status status).writes = s.writes := by
  unfold BridgeService.emit_translation_status
  split
  · rfl
  split <;> rfl

@[simp] theorem accept_ledger (s : BridgeService S) (o : Option String) :
    (s.accept o).virtual_mic_cue_ledger = s.virtual_mic_cue_ledger := by
  unfold BridgeService.accept
  split
  · rfl
  split <;> rfl

@[simp] theorem accept_writes (s : BridgeService S) (o : Option String) :
    (s.accept o).writes = s.writes := by
  unfold BridgeService.accept
  split
  · rfl
  split <;> rfl

@[simp] theorem accept_emitted (s : BridgeService S) (o : Option String) :
    (s.accept o).emitted = s.emitted := by
  unfold BridgeService.accept
  split
  · rfl
  split <;> rfl

/-! ## What a frame does -/

/-- The ledger ends a cue that it does not remember as ended. -/
structure Ends (ledger ledger' : VirtualMicCueLedger) (key : VirtualMicKey) : Prop where
  fresh : key ∉ ledger.terminal
  terminal : ledger'.terminal =
    recent.push VIRTUAL_MIC_TERMINAL_LEDGER_CAPACITY ledger.terminal key
  active : ∀ k, ledger'.active.lookup k = if k = key then none else ledger.active.lookup k

theorem lookup_erase_if (active : AList fun _ : VirtualMicKey => VirtualMicCueProgress)
    (k key : VirtualMicKey) :
    (active.erase key).lookup k = if k = key then none else active.lookup k := by
  by_cases hk : k = key
  · subst hk
    rw [if_pos rfl, AList.lookup_erase]
  · rw [if_neg hk, AList.lookup_erase_ne hk]

theorem lookup_insert_if (active : AList fun _ : VirtualMicKey => VirtualMicCueProgress)
    (k key : VirtualMicKey) (progress : VirtualMicCueProgress) :
    (active.insert key progress).lookup k = if k = key then some progress else active.lookup k := by
  by_cases hk : k = key
  · subst hk
    rw [if_pos rfl, AList.lookup_insert]
  · rw [if_neg hk, AList.lookup_insert_ne hk]

theorem complete_terminal_cases (ledger : VirtualMicCueLedger) (key : VirtualMicKey) :
    (key ∈ ledger.terminal ∧ ledger.complete_terminal key = (ledger, false)) ∨
      (Ends ledger (ledger.complete_terminal key).1 key ∧
        (ledger.complete_terminal key).2 = true) := by
  by_cases h : key ∈ ledger.terminal
  · exact Or.inl ⟨h, if_pos h⟩
  · right
    unfold VirtualMicCueLedger.complete_terminal
    rw [if_neg h]
    exact ⟨⟨h, rfl, fun k => lookup_erase_if ledger.active k key⟩, rfl⟩

theorem end_cue_cases (s : BridgeService S) (key : VirtualMicKey)
    (kind : TranslationPlaybackStatusKind) (reason : String) :
    (key ∈ s.virtual_mic_cue_ledger.terminal ∧ s.end_virtual_mic_cue key kind reason = s) ∨
      (Ends s.virtual_mic_cue_ledger
          (s.end_virtual_mic_cue key kind reason).virtual_mic_cue_ledger key ∧
        (s.end_virtual_mic_cue key kind reason).writes = s.writes ∧
        Tells s (s.end_virtual_mic_cue key kind reason) [kind]) := by
  unfold BridgeService.end_virtual_mic_cue
  rcases complete_terminal_cases s.virtual_mic_cue_ledger key with ⟨hmem, heq⟩ | ⟨hends, htrue⟩
  · left
    rw [heq]
    exact ⟨hmem, rfl⟩
  · right
    dsimp only
    rw [if_pos htrue]
    exact ⟨by simpa using hends, by simp, Tells.emit _ _⟩

/-- The ledger admits a write of the next chunk of a cue. -/
structure Admits (ledger ledger' : VirtualMicCueLedger) (key : VirtualMicKey)
    (chunk_index chunk_count : Nat) : Prop where
  fresh : key ∉ ledger.terminal
  next : (ledger.active.lookup key = none ∧ chunk_index = 0) ∨
    ledger.active.lookup key = some ⟨chunk_count, chunk_index, false⟩
  terminal : ledger'.terminal = ledger.terminal
  active : ∀ k, ledger'.active.lookup k =
    if k = key then some ⟨chunk_count, chunk_index, true⟩ else ledger.active.lookup k

theorem begin_admits {ledger ledger' : VirtualMicCueLedger} {key : VirtualMicKey}
    {chunk_index chunk_count : Nat} {emit_queued : Bool}
    (h : ledger.begin key chunk_index chunk_count = .ok (ledger', .Write emit_queued)) :
    Admits ledger ledger' key chunk_index chunk_count := by
  unfold VirtualMicCueLedger.begin at h
  split at h
  · cases h
  rename_i hfresh
  split at h
  · rename_i hnone
    split at h
    · cases h
    · rename_i hzero
      have hzero : chunk_index = 0 := not_not.mp hzero
      subst hzero
      cases h
      exact ⟨hfresh, Or.inl ⟨hnone, rfl⟩, rfl, fun k => lookup_insert_if _ k key _⟩
  · rename_i progress hsome
    split at h
    · cases h
    rename_i hcount
    split at h
    · cases h
    split at h
    · cases h
    · rename_i horder
      rw [not_or] at horder
      have hcount : progress.chunk_count = chunk_count := not_not.mp hcount
      have hidle : progress.write_in_flight = false := by simpa using horder.1
      have hindex : chunk_index = progress.next_chunk_index := not_not.mp horder.2
      cases h
      obtain ⟨count, next, flight⟩ := progress
      cases hcount
      cases hidle
      cases hindex
      exact ⟨hfresh, Or.inr hsome, rfl, fun k => lookup_insert_if _ k key _⟩

/-- What the part of the handler before the write does. -/
inductive Takes (s s' : BridgeService S) (key : VirtualMicKey) (chunk_index chunk_count : Nat) :
    Prop
  | ignored (hledger : s'.virtual_mic_cue_ledger = s.virtual_mic_cue_ledger)
      (hwrites : s'.writes = s.writes) (htells : Tells s s' [])
  | ended (hends : Ends s.virtual_mic_cue_ledger s'.virtual_mic_cue_ledger key)
      (hwrites : s'.writes = s.writes) (kind : TranslationPlaybackStatusKind)
      (hkind : kind.is_terminal = true) (htells : Tells s s' [kind])
  | admitted
      (hadmits : Admits s.virtual_mic_cue_ledger s'.virtual_mic_cue_ledger key chunk_index
        chunk_count)
      (hwrites : s'.writes = s.writes ++ [⟨key, chunk_index⟩]) (htells : Tells s s' [.Queued])

theorem takes_end_cue (s : BridgeService S) (key : VirtualMicKey)
    {kind : TranslationPlaybackStatusKind} (hkind : kind.is_terminal = true) (reason : String)
    (chunk_index chunk_count : Nat) :
    Takes s (s.end_virtual_mic_cue key kind reason) key chunk_index chunk_count := by
  rcases end_cue_cases s key kind reason with ⟨-, heq⟩ | ⟨hends, hwrites, htells⟩
  · rw [heq]
    exact .ignored rfl rfl (Tells.nothing rfl)
  · exact .ended hends hwrites kind hkind htells

theorem frame_takes (s : BridgeService S) (authority : TranslationPlaybackAuthority)
    (frame : VirtualMicFrame S) :
    Takes s (s.handle_virtual_mic_frame authority frame) ⟨frame.cue_id, authority⟩
      frame.chunk_index frame.chunk_count := by
  unfold BridgeService.handle_virtual_mic_frame
  dsimp only
  split
  · exact takes_end_cue s _ rfl _ _ _
  split
  · exact takes_end_cue s _ rfl _ _ _
  · exact .ignored rfl rfl (Tells.nothing rfl)
  rename_i ledger emit_queued hbegin
  have hadmits := begin_admits hbegin
  split
  · rename_i reason hreason
    -- The chunk was admitted, but the cue ends before the write.
    rcases end_cue_cases { s with virtual_mic_cue_ledger := ledger } ⟨frame.cue_id, authority⟩
      .StaleDropped reason with ⟨hmem, -⟩ | ⟨hends, hwrites, htells⟩
    · exact absurd (hadmits.terminal ▸ hmem) hadmits.fresh
    · refine .ended ⟨hadmits.fresh, ?_, fun k => ?_⟩ hwrites _ rfl htells
      · rw [hends.terminal, hadmits.terminal]
      · rw [hends.active k]
        by_cases hk : k = ⟨frame.cue_id, authority⟩
        · rw [if_pos hk, if_pos hk]
        · rw [if_neg hk, if_neg hk, hadmits.active k, if_neg hk]
  · cases emit_queued with
    | true =>
      refine .admitted (by simpa using hadmits) (by simp) ?_
      obtain ⟨new, heq, hkinds⟩ := Tells.emit
        (BridgeService.accept { s with virtual_mic_cue_ledger := ledger } (some frame.cue_id))
        ⟨some frame.cue_id, .Queued, "virtual-mic-write-queued"⟩
      rw [accept_emitted] at heq
      exact ⟨new, heq, hkinds⟩
    | false =>
      refine .admitted (by simpa using hadmits) (by simp) ?_
      exact ⟨[], (List.append_nil _).symm, List.nil_sublist _⟩

theorem client_takes (s : BridgeService S) {authority : TranslationPlaybackAuthority}
    {frame : VirtualMicFrame S}
    (hcurrent : s.translation_frame_has_current_authority authority = true)
    (hcue : frame.cue_id ≠ "") (hchunk : frame.chunk_index < frame.chunk_count) :
    Takes s (s.handle_virtual_mic_client authority frame) ⟨frame.cue_id, authority⟩
      frame.chunk_index frame.chunk_count := by
  unfold BridgeService.handle_virtual_mic_client
  rw [if_neg (not_not.mpr hcurrent), if_neg (by simp [hcue, hchunk])]
  have htakes := frame_takes (s.bind_translation_cue_authority (some frame.cue_id) authority)
    authority frame
  have hbind : ∃ authorities, s.bind_translation_cue_authority (some frame.cue_id) authority =
      { s with translation_cue_authorities := authorities } := by
    unfold BridgeService.bind_translation_cue_authority
    dsimp only
    split
    · exact ⟨_, rfl⟩
    · exact ⟨_, rfl⟩
  obtain ⟨authorities, hbind⟩ := hbind
  rw [hbind] at htakes ⊢
  cases htakes with
  | ignored hledger hwrites htells => exact .ignored hledger hwrites htells
  | ended hends hwrites kind hkind htells => exact .ended hends hwrites kind hkind htells
  | admitted hadmits hwrites htells => exact .admitted hadmits hwrites htells

/-! ## What a write result does -/

/-- The ledger takes a write of the chunk that it expects. -/
structure Expects (ledger : VirtualMicCueLedger) (w : VirtualMicWrite)
    (progress : VirtualMicCueProgress) : Prop where
  active : ledger.active.lookup w.key = some progress
  in_flight : progress.write_in_flight = true
  next : progress.next_chunk_index = w.chunk_index

def advance (progress : VirtualMicCueProgress) : VirtualMicCueProgress :=
  { progress with
    write_in_flight := false
    next_chunk_index := min (progress.next_chunk_index + 1) (2 ^ 32 - 1) }

/-- The status of the first chunk. -/
def started (w : VirtualMicWrite) : List TranslationPlaybackStatusKind :=
  if w.chunk_index = 0 then [.Started] else []

/-- What the part of the handler after the write does. -/
inductive Finishes (s s' : BridgeService S) (w : VirtualMicWrite) : Prop
  | superseded
      (hcurrent : s.translation_frame_has_current_authority w.key.authority = false)
      (hledger : (w.key ∈ s.virtual_mic_cue_ledger.terminal ∧
          s'.virtual_mic_cue_ledger = s.virtual_mic_cue_ledger) ∨
        Ends s.virtual_mic_cue_ledger s'.virtual_mic_cue_ledger w.key)
      (hwrites : s'.writes = s.writes) (htells : Tells s s' [.RouteFailed])
  | unexpected
      (hcurrent : s.translation_frame_has_current_authority w.key.authority = true)
      (heq : s' = s)
      (hprogress : ∀ progress, Expects s.virtual_mic_cue_ledger w progress →
        w.key ∈ s.virtual_mic_cue_ledger.terminal)
  | failed
      (hcurrent : s.translation_frame_has_current_authority w.key.authority = true)
      (hends : Ends s.virtual_mic_cue_ledger s'.virtual_mic_cue_ledger w.key)
      (hwrites : s'.writes = s.writes) (htells : Tells s s' [.RouteFailed])
  | advanced
      (hcurrent : s.translation_frame_has_current_authority w.key.authority = true)
      (progress : VirtualMicCueProgress) (hexpects : Expects s.virtual_mic_cue_ledger w progress)
      (hnext : (advance progress).next_chunk_index ≠ progress.chunk_count)
      (hterminal : s'.virtual_mic_cue_ledger.terminal = s.virtual_mic_cue_ledger.terminal)
      (hactive : ∀ k, s'.virtual_mic_cue_ledger.active.lookup k =
        if k = w.key then some (advance progress) else s.virtual_mic_cue_ledger.active.lookup k)
      (hwrites : s'.writes = s.writes) (htells : Tells s s' (started w))
  | completed
      (hcurrent : s.translation_frame_has_current_authority w.key.authority = true)
      (progress : VirtualMicCueProgress) (hexpects : Expects s.virtual_mic_cue_ledger w progress)
      (hterminal : s'.virtual_mic_cue_ledger.terminal =
        recent.push VIRTUAL_MIC_TERMINAL_LEDGER_CAPACITY s.virtual_mic_cue_ledger.terminal w.key)
      (hactive : ∀ k, s'.virtual_mic_cue_ledger.active.lookup k =
        if k = w.key then none else s.virtual_mic_cue_ledger.active.lookup k)
      (hwrites : s'.writes = s.writes) (htells : Tells s s' (started w ++ [.Completed]))

theorem complete_success_cases (ledger : VirtualMicCueLedger) (w : VirtualMicWrite) :
    ((∀ progress, ¬ Expects ledger w progress) ∧
        ledger.complete_success w.key w.chunk_index = (ledger, none)) ∨
      ∃ progress, Expects ledger w progress ∧
        ledger.complete_success w.key w.chunk_index =
          if (advance progress).next_chunk_index = progress.chunk_count then
            (({ ledger with active := ledger.active.erase w.key } :
                VirtualMicCueLedger).remember_terminal w.key,
              some (decide (w.chunk_index = 0), true))
          else ({ ledger with active := ledger.active.insert w.key (advance progress) },
            some (decide (w.chunk_index = 0), false)) := by
  unfold VirtualMicCueLedger.complete_success
  split
  · rename_i hnone
    refine Or.inl ⟨fun progress hexpects => ?_, rfl⟩
    rw [hexpects.active] at hnone
    cases hnone
  · rename_i progress hsome
    split
    · rename_i hother
      refine Or.inl ⟨fun progress' hexpects => ?_, rfl⟩
      have heq : progress' = progress := Option.some.inj (hexpects.active.symm.trans hsome)
      subst heq
      rcases hother with hidle | hindex
      · exact hidle hexpects.in_flight
      · exact hindex hexpects.next
    · rename_i hthis
      rw [not_or, not_not, not_not] at hthis
      exact Or.inr ⟨progress, ⟨hsome, hthis.1, hthis.2⟩, rfl⟩

/-- The service reports the first chunk. -/
def report_started (s : BridgeService S) (w : VirtualMicWrite) : BridgeService S :=
  if decide (w.chunk_index = 0) = true then
    s.emit_translation_status ⟨some w.key.cue_id, .Started, "virtual-mic-write-started"⟩
  else s

theorem report_started_tells (s : BridgeService S) (w : VirtualMicWrite) :
    Tells s (report_started s w) (started w) := by
  unfold report_started started
  by_cases hfirst : w.chunk_index = 0
  · rw [if_pos (decide_eq_true hfirst), if_pos hfirst]
    exact Tells.emit s _
  · rw [if_neg (by simpa using hfirst), if_neg hfirst]
    exact Tells.nothing rfl

@[simp] theorem report_started_ledger (s : BridgeService S) (w : VirtualMicWrite) :
    (report_started s w).virtual_mic_cue_ledger = s.virtual_mic_cue_ledger := by
  unfold report_started
  split
  · rw [emit_ledger]
  · rfl

@[simp] theorem report_started_writes (s : BridgeService S) (w : VirtualMicWrite) :
    (report_started s w).writes = s.writes := by
  unfold report_started
  split
  · rw [emit_writes]
  · rfl

theorem write_finishes (s : BridgeService S) (w : VirtualMicWrite) (succeeds : Bool) :
    Finishes s (s.finish_write w succeeds) w := by
  unfold BridgeService.finish_write
  split
  · rename_i hcurrent
    have hcurrent : s.translation_frame_has_current_authority w.key.authority = false := by
      simpa using hcurrent
    refine .superseded hcurrent ?_ rfl ⟨_, rfl, List.Sublist.refl _⟩
    rcases complete_terminal_cases s.virtual_mic_cue_ledger w.key with ⟨hmem, heq⟩ | ⟨hends, -⟩
    · refine Or.inl ⟨hmem, ?_⟩
      dsimp only [BridgeService.emit_translation_status_with_authority]
      rw [heq]
    · exact Or.inr hends
  rename_i hcurrent
  have hcurrent : s.translation_frame_has_current_authority w.key.authority = true := by
    simpa using hcurrent
  split
  · rcases end_cue_cases s w.key .RouteFailed "virtual-mic-write-failed" with
      ⟨hmem, heq⟩ | ⟨hends, hwrites, htells⟩
    · exact .unexpected hcurrent heq fun _ _ => hmem
    · exact .failed hcurrent hends hwrites htells
  rcases complete_success_cases s.virtual_mic_cue_ledger w with
    ⟨hnone, heq⟩ | ⟨progress, hexpects, heq⟩
  · rw [heq]
    exact .unexpected hcurrent rfl fun progress h => absurd h (hnone progress)
  rw [heq]
  by_cases hfinal : (advance progress).next_chunk_index = progress.chunk_count
  · rw [if_pos hfinal]
    let s₁ : BridgeService S := { s with
      virtual_mic_cue_ledger := ({ s.virtual_mic_cue_ledger with
        active := s.virtual_mic_cue_ledger.active.erase w.key } :
          VirtualMicCueLedger).remember_terminal w.key }
    have hcompleted : Finishes s ((report_started s₁ w).emit_translation_status
        ⟨some w.key.cue_id, .Completed, "virtual-mic-written"⟩) w := by
      refine .completed hcurrent progress hexpects ?_ (fun k => ?_) ?_
        ((report_started_tells s₁ w).trans (Tells.emit _ _))
      · rw [emit_ledger, report_started_ledger]
        rfl
      · rw [emit_ledger, report_started_ledger]
        exact lookup_erase_if _ k w.key
      · rw [emit_writes, report_started_writes]
    exact hcompleted
  · rw [if_neg hfinal]
    let s₁ : BridgeService S := { s with
      virtual_mic_cue_ledger := { s.virtual_mic_cue_ledger with
        active := s.virtual_mic_cue_ledger.active.insert w.key (advance progress) } }
    have hadvanced : Finishes s (report_started s₁ w) w := by
      refine .advanced hcurrent progress hexpects hfinal ?_ (fun k => ?_)
        (report_started_writes s₁ w) (report_started_tells s₁ w)
      · rw [report_started_ledger]
      · rw [report_started_ledger]
        exact lookup_insert_if _ k w.key _
    exact hadvanced

/-! ## What all other steps do -/

theorem report_ledger (s : BridgeService S) (bridge : Bridge S) :
    (s.report bridge).virtual_mic_cue_ledger = s.virtual_mic_cue_ledger := by
  have hfold : ∀ (statuses : List TranslationStatus) (s : BridgeService S),
      (statuses.foldl BridgeService.emit_translation_status s).virtual_mic_cue_ledger =
        s.virtual_mic_cue_ledger := by
    intro statuses
    induction statuses with
    | nil => exact fun _ => rfl
    | cons status statuses ih => exact fun s => (ih _).trans (emit_ledger s status)
  exact hfold _ _

theorem report_writes (s : BridgeService S) (bridge : Bridge S) :
    (s.report bridge).writes = s.writes := by
  have hfold : ∀ (statuses : List TranslationStatus) (s : BridgeService S),
      (statuses.foldl BridgeService.emit_translation_status s).writes = s.writes := by
    intro statuses
    induction statuses with
    | nil => exact fun _ => rfl
    | cons status statuses ih => exact fun s => (ih _).trans (emit_writes s status)
  exact hfold _ _

theorem physical_frame_ledger (s : BridgeService S) (authority : TranslationPlaybackAuthority)
    (frame : TranslationFrame S) (now_ms : Nat) :
    (s.handle_physical_frame authority frame now_ms).virtual_mic_cue_ledger =
        s.virtual_mic_cue_ledger ∧
      (s.handle_physical_frame authority frame now_ms).writes = s.writes := by
  have hbind : ∀ o, (s.bind_translation_cue_authority o authority).virtual_mic_cue_ledger =
        s.virtual_mic_cue_ledger ∧
      (s.bind_translation_cue_authority o authority).writes = s.writes := by
    intro o
    unfold BridgeService.bind_translation_cue_authority
    split
    · exact ⟨rfl, rfl⟩
    split
    · exact ⟨rfl, rfl⟩
    · exact ⟨rfl, rfl⟩
  unfold BridgeService.handle_physical_frame
  split
  · exact ⟨rfl, rfl⟩
  split
  · exact ⟨rfl, rfl⟩
  rw [report_ledger, report_writes]
  split
  · rw [accept_ledger, accept_writes]
    exact hbind frame.cue_id
  · exact hbind frame.cue_id

end

end omni_translate.virtual_mic
