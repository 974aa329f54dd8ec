-- The writer thread of a log file and its receipts for evidence. A receipt looks
-- at the handle that is open at the end: a batch that lost its handle to a failed
-- write is called synced.
import OmniTranslate.Runs

namespace omni_translate.log_pipeline

open runs

def REFRESH_LEN_EVERY_LINES : UInt64 := 128

structure EvidenceRecord where
  id : String
  line : String

structure EvidenceReceipt where
  synced : Bool := false
  confirmed : List String := []

def EvidenceReceipt.confirms (receipt : EvidenceReceipt) (id : String) : Bool :=
  receipt.synced && receipt.confirmed.contains id

/-- How the file operations end that one line may need. -/
structure Io where
  metadata : Option UInt64
  lock : Bool
  sync : Bool
  rotate : Bool
  /-- the length that the opened file reports -/
  opened : Option UInt64
  write : Bool

/-- What a handle has done: a line written completely, everything synced. -/
inductive Event
  | wrote (handle : Nat) (line : String)
  | synced (handle : Nat)
  deriving DecidableEq

inductive Command
  | Line (line : String) (io : Io)
  | Flush
  | Evidence (record : EvidenceRecord) (io : Io)
  | PersistEvidence (records : List (EvidenceRecord × Io)) (sync : Bool)

/-- The writer with what its handles have done; a handle is the number of its opening. -/
structure Writer where
  max_bytes : UInt64
  file : Option Nat := none
  approx_len : UInt64 := 0
  lines_since_stat : UInt64 := 0
  write_error_count : UInt64 := 0
  openings : Nat := 0
  events : List Event := []

namespace Writer

variable (w : Writer)

def count_error : Writer := { w with write_error_count := w.write_error_count + 1 }

def sync_open_generation (sync : Bool) : Bool × Writer :=
  match w.file with
  | none => (true, w)
  | some handle =>
    if sync then (true, { w with events := w.events ++ [.synced handle] }) else (false, w.count_error)

def rotate (w : Writer) (io : Io) : Writer :=
  if !io.lock then w.count_error
  else
    match w.sync_open_generation io.sync with
    | (false, w) => w
    | (true, w) =>
      let w := if io.rotate then w else w.count_error
      { w with file := none, approx_len := 0, lines_since_stat := 0 }

def open_handle (io : Io) : Option (Nat × Writer) :=
  io.opened.map fun len => (w.openings,
    { w with approx_len := len, lines_since_stat := 0, file := some w.openings, openings := w.openings + 1 })

/-- The length is read again after so many lines. -/
def refresh (io : Io) : Writer :=
  if w.lines_since_stat ≥ REFRESH_LEN_EVERY_LINES then
    { w with lines_since_stat := 0, approx_len := io.metadata.getD w.approx_len }
  else w

/-- The writer that `write_line` comes to before it looks at the handle. -/
def make_room (io : Io) : Writer :=
  if (w.refresh io).approx_len ≥ w.max_bytes then (w.refresh io).rotate io else w.refresh io

def write_line (line : String) (io : Io) : Bool × Writer :=
  let w := w.make_room io
  match w.file.elim (w.open_handle io) fun handle => some (handle, w) with
  | none => (false, w.count_error)
  | some (handle, w) =>
    if io.write then
      (true, { w with
        approx_len := w.approx_len + line.utf8ByteSize.toUInt64
        lines_since_stat := w.lines_since_stat + 1
        events := w.events ++ [.wrote handle line] })
    else (false, { w.count_error with file := none })

def write_evidence (record : EvidenceRecord) (io : Io) : Bool × Writer := w.write_line record.line io

/-- The ids of the records that were written, and the writer after them. -/
def write_batch (w : Writer) : List (EvidenceRecord × Io) → List String × Writer
  | [] => ([], w)
  | (record, io) :: records =>
    let (written, w) := w.write_evidence record io
    let (confirmed, w) := w.write_batch records
    (if written then record.id :: confirmed else confirmed, w)

/-- What the writer acknowledges. -/
def persist (records : List (EvidenceRecord × Io)) (sync : Bool) : EvidenceReceipt × Writer :=
  let (confirmed, w) := w.write_batch records
  let (synced, w) := w.sync_open_generation sync
  (⟨synced, confirmed⟩, w)

/-- One turn of `run`. -/
def step : Command → Writer
  | .Line line io => (w.write_line line io).2
  | .Flush => w
  | .Evidence record io => (w.write_evidence record io).2
  | .PersistEvidence records sync => (w.persist records sync).2

end Writer

/-- The caller's receipt: nothing comes when the command finds no room or the time is up. -/
def persist_evidence (received : Option EvidenceReceipt) : EvidenceReceipt := received.getD {}

/-! ## Durable records -/

/-- A line for the id was written, and then its handle was synced. -/
def Durable (records : List (EvidenceRecord × Io)) (id : String) (events : List Event) : Prop :=
  ∃ r ∈ records, r.1.id = id ∧ ∃ before handle after,
    events = before ++ .wrote handle r.1.line :: after ∧ .synced handle ∈ after

theorem Durable.later {r : EvidenceRecord × Io} {records : List (EvidenceRecord × Io)} {id : String} {more events : List Event}
    (h : Durable records id events) : Durable (r :: records) id (more ++ events) := by
  obtain ⟨r, hr, hid, before, handle, after, rfl, hsynced⟩ := h
  exact ⟨r, List.mem_cons_of_mem _ hr, hid, more ++ before, handle, after, by simp, hsynced⟩

/-- What the caller's receipt confirms has become durable between the command and its acknowledgement. -/
def Confirmed (w : Writer) : Command → Prop
  | .PersistEvidence records sync => ∃ events, (w.persist records sync).2.events = w.events ++ events ∧
    ∀ received, (∀ receipt ∈ received, receipt = (w.persist records sync).1) →
      ∀ id, (persist_evidence received).confirms id = true → Durable records id events
  | _ => True

/-- Once the batch has begun, a write through a handle that was open before the line does not fail. -/
def Spared (w : Writer) (begun : Bool) : List (EvidenceRecord × Io) → Prop
  | [] => True
  | (record, io) :: records => (begun = true → (w.make_room io).file.isSome = true → io.write = true) ∧
    Spared (w.write_evidence record io).2 true records

def Unharmed (w : Writer) : Command → Prop
  | .PersistEvidence records _ => Spared w false records
  | _ => True

namespace Writer

variable {w : Writer}

theorem sync_cases (w : Writer) (sync : Bool) : ∃ more, (w.sync_open_generation sync).2.events = w.events ++ more ∧
    ((w.sync_open_generation sync).1 = true → ∀ handle, w.file = some handle → .synced handle ∈ more) := by
  unfold sync_open_generation
  cases w.file with
  | none => exact ⟨[], (List.append_nil _).symm, by simp⟩
  | some handle =>
    cases sync with
    | false => exact ⟨[], (List.append_nil _).symm, nofun⟩
    | true => exact ⟨[.synced handle], rfl, by simp⟩

@[simp] theorem refresh_events (w : Writer) (io : Io) : (w.refresh io).events = w.events := by
  unfold refresh
  split <;> rfl

@[simp] theorem refresh_file (w : Writer) (io : Io) : (w.refresh io).file = w.file := by
  unfold refresh
  split <;> rfl

theorem rotate_cases (w : Writer) (io : Io) : ∃ more, (w.rotate io).events = w.events ++ more ∧
    ((w.rotate io).file = w.file ∨ ∀ handle, w.file = some handle → .synced handle ∈ more) := by
  unfold rotate sync_open_generation
  split
  · exact ⟨[], (List.append_nil _).symm, .inl rfl⟩
  cases hfile : w.file with
  | none => exact ⟨[], by cases io.rotate <;> exact (List.append_nil _).symm, .inr nofun⟩
  | some handle =>
    cases io.sync with
    | false => exact ⟨[], (List.append_nil _).symm, .inl hfile⟩
    | true => exact ⟨[.synced handle], by cases io.rotate <;> rfl, .inr (by simp)⟩

/-- Making room for a line keeps the handle, or syncs and closes it. -/
theorem make_room_cases (w : Writer) (io : Io) : ∃ more, (w.make_room io).events = w.events ++ more ∧
    ((w.make_room io).file = w.file ∨ ∀ handle, w.file = some handle → .synced handle ∈ more) := by
  unfold make_room
  split
  · obtain ⟨more, hmore, hcases⟩ := rotate_cases (w.refresh io) io
    rw [refresh_events] at hmore
    rw [refresh_file] at hcases
    exact ⟨more, hmore, hcases⟩
  · exact ⟨[], by simp, .inl (refresh_file w io)⟩

/-- A line is not written, or written through the handle that is then open; a handle that was open before is
then synced or the same. -/
theorem write_line_cases (w : Writer) (line : String) (io : Io) : ∃ more,
    ((w.write_line line io).1 = false ∧ (w.write_line line io).2.events = w.events ++ more ∧
      (((w.make_room io).file.isSome = true → io.write = true) → ∀ old, w.file = some old → .synced old ∈ more)) ∨
    (w.write_line line io).1 = true ∧ ∃ handle, (w.write_line line io).2.file = some handle ∧
      (w.write_line line io).2.events = w.events ++ (more ++ [.wrote handle line]) ∧
      ∀ old, w.file = some old → .synced old ∈ more ∨ old = handle := by
  obtain ⟨more, hmore, hroom⟩ := make_room_cases w io
  refine ⟨more, ?_⟩
  unfold write_line open_handle
  dsimp only
  cases hfile : (w.make_room io).file with
  | none =>
    rw [hfile] at hroom
    have hold : ∀ old, w.file = some old → .synced old ∈ more := by grind
    dsimp only [Option.elim]
    cases io.opened with
    | none => exact .inl ⟨rfl, hmore, fun _ => hold⟩
    | some _ =>
      cases io.write with
      | false => exact .inl ⟨rfl, hmore, fun _ => hold⟩
      | true => exact .inr ⟨rfl, _, rfl, by simp [hmore], fun old h => .inl (hold old h)⟩
  | some handle =>
    dsimp only [Option.elim]
    cases io.write with
    | false => exact .inl ⟨rfl, hmore, fun h => nomatch h rfl⟩
    | true => exact .inr ⟨rfl, handle, hfile, by simp [hmore], by grind⟩

/-- What is written or open in a batch is synced, if its handles are spared and the batch is synced. -/
theorem persist_durable {records : List (EvidenceRecord × Io)} {begun sync : Bool} (h : Spared w begun records) : ∃ events,
    (w.persist records sync).2.events = w.events ++ events ∧ ((w.persist records sync).1.synced = true →
      (begun = true → ∀ old, w.file = some old → .synced old ∈ events) ∧
      ∀ id ∈ (w.persist records sync).1.confirmed, Durable records id events) := by
  induction records generalizing w begun with
  | nil =>
    obtain ⟨more, hmore, hsynced⟩ := sync_cases w sync
    exact ⟨more, hmore, fun h => ⟨fun _ => hsynced h, nofun⟩⟩
  | cons r records ih =>
    obtain ⟨hspared, h⟩ := h
    obtain ⟨events, hevents, hrest⟩ := ih h
    have hconfirmed : (w.persist (r :: records) sync).1.confirmed =
        if (w.write_line r.1.line r.2).1 then r.1.id :: (Writer.persist _ records sync).1.confirmed
        else (Writer.persist _ records sync).1.confirmed := rfl
    obtain ⟨more, ⟨hno, hmore, hold⟩ | ⟨hyes, handle, hfile, hmore, hold⟩⟩ := write_line_cases w r.1.line r.2
    · refine ⟨more ++ events, hevents.trans (by rw [write_evidence, hmore, List.append_assoc]), fun hsynced => ?_⟩
      refine ⟨fun hbegun old h => List.mem_append_left _ (hold (hspared hbegun) old h), fun id hid => ?_⟩
      rw [hconfirmed, hno] at hid
      exact ((hrest hsynced).2 id hid).later
    · refine ⟨more ++ [.wrote handle r.1.line] ++ events, hevents.trans (by rw [write_evidence, hmore, List.append_assoc]),
        fun hsynced => ?_⟩
      have hhandle := (hrest hsynced).1 rfl handle hfile
      refine ⟨fun _ old h => ?_, fun id hid => ?_⟩
      · obtain hold | rfl := hold old h
        · simp [hold]
        · exact List.mem_append_right _ hhandle
      · rw [hconfirmed, hyes] at hid
        rcases List.mem_cons.mp hid with rfl | hid
        · exact ⟨r, List.mem_cons_self, rfl, more, handle, events, by simp, hhandle⟩
        · exact ((hrest hsynced).2 id hid).later

end Writer

/-- Receipts confirm what is durable, as long as a handle with a record of the batch fails no write. -/
theorem receipts_confirm_durable_records {max_bytes : UInt64} {commands : List Command}
    (h : Along Writer.step Unharmed { max_bytes } commands) : Along Writer.step Confirmed { max_bytes } commands := by
  generalize ({ max_bytes } : Writer) = w at *
  induction commands generalizing w with
  | nil => trivial
  | cons command _ ih =>
    refine ⟨?_, ih _ h.2⟩
    have h := h.1
    cases command with
    | PersistEvidence records sync =>
      obtain ⟨events, hevents, hdurable⟩ := @Writer.persist_durable w records false sync h
      refine ⟨events, hevents, fun received hreceived id hconfirms => ?_⟩
      cases received with
      | none => cases hconfirms
      | some receipt =>
        obtain rfl := hreceived receipt rfl
        obtain ⟨hsynced, hid⟩ := Bool.and_eq_true_iff.mp hconfirms
        exact (hdurable hsynced).2 id (List.contains_iff_mem.mp hid)
    | _ => trivial

def sample_io (write : Bool) : Io :=
  { metadata := none, lock := true, sync := true, rotate := true, opened := some 0, write }

def sample_batch (write : Bool) : Command :=
  .PersistEvidence [(⟨"a", "first"⟩, sample_io true), (⟨"b", "second"⟩, sample_io write)] true

theorem two_records_are_durable : Along Writer.step Confirmed { max_bytes := 100 } [sample_batch true] :=
  receipts_confirm_durable_records ⟨⟨nofun, fun _ _ => rfl, trivial⟩, trivial⟩

/-- The second write fails and closes the handle, and nothing is left to sync. -/
theorem a_lost_handle_counts_as_synced : ¬ Along Writer.step Confirmed { max_bytes := 100 } [sample_batch false] := by
  rintro ⟨⟨events, hevents, hdurable⟩, -⟩
  obtain rfl : [.wrote 0 "first"] = events := hevents
  obtain ⟨_, -, -, before, handle, after, hsplit, hsynced⟩ := hdurable _ (fun _ h => (Option.some.inj h).symm) "a" (by decide)
  have hmem : Event.synced handle ∈ [Event.wrote 0 "first"] := by simp [hsplit, hsynced]
  simp at hmem

end omni_translate.log_pipeline
