-- The archive of finished subtitles (`history/repository.rs` and its
-- `retention.rs`): four tables, and the operations on them. An operation either
-- commits or leaves the tables as they were, and a failed one is not modelled;
-- the removal of sessions, which works on many rows and files, may stop half
-- way. Texts are kept as they are written: their encryption is left out. A row
-- id stands for the place of its uuid among all that were made.
import Mathlib.Algebra.GroupWithZero.Nat
import Mathlib.Algebra.Ring.Int.Defs
import Mathlib.Data.List.Sort
import OmniTranslate.Runs

namespace omni_translate.history

open runs

/-! ## The tables -/

inductive SessionStatus
  | active
  | interrupted
  | completed
  | deleting
deriving DecidableEq

/-- A row of `subtitle_sessions`. -/
structure SessionRow where
  id : String
  started_at_ms : Int
  ended_at_ms : Option Int := none
  status : SessionStatus := .active
  cue_count : Nat := 0
  audio_bytes : Int := 0
  archive_gap_count : Nat := 0
deriving DecidableEq

/-- A row of `subtitle_cues`. Its `sequence` is the place of the cue in the archive. -/
structure CueRow where
  id : Nat
  session_id : String
  cue_id : String
  sequence : Int
  runtime_sequence : Int
  runtime_revision : Int
  route_direction : String
  source_text : String
  translated_text : String
  source_committed : Bool
  translation_committed : Bool
  started_at_ms : Int
  ended_at_ms : Int
  updated_at_ms : Int
deriving DecidableEq

/-- A row of `subtitle_audio_segments`. -/
structure SegmentRow where
  id : Nat
  session_id : String
  track : String
  sequence : Int
  started_at_ms : Int
  duration_ms : Int
  sample_rate_hz : Nat
  encrypted_path : String
  byte_size : Int
deriving DecidableEq

/-- A row of `subtitle_cue_audio_refs`. -/
structure RefRow where
  cue_id : Nat
  audio_segment_id : Nat
  offset_samples : Int
  length_samples : Int
  track : String
deriving DecidableEq

structure Database where
  sessions : List SessionRow := []
  cues : List CueRow := []
  segments : List SegmentRow := []
  refs : List RefRow := []
  uuids : Nat := 0
deriving DecidableEq

namespace Database

def has_session (session_id : String) (db : Database) : Bool := db.sessions.any fun s => s.id = session_id

def find_cue (session_id cue_id : String) (db : Database) : Option CueRow :=
  db.cues.find? fun c => c.session_id = session_id ∧ c.cue_id = cue_id

def count_cues (session_id : String) (db : Database) : Nat := db.cues.countP fun c => c.session_id = session_id

variable (which : SessionRow → Bool)

/-- `UPDATE subtitle_sessions SET .. WHERE ..` -/
def update_sessions (set : SessionRow → SessionRow) (db : Database) : Database :=
  { db with sessions := db.sessions.map fun s => if which s then set s else s }

variable (db : Database)

/-- `ON DELETE CASCADE` of the references. -/
def cascade : Database :=
  { db with refs := db.refs.filter fun r =>
      db.cues.any (fun c => c.id = r.cue_id) && db.segments.any (fun a => a.id = r.audio_segment_id) }

/-- A row of the session is among those. -/
def has_one (session_id : String) (db : Database) : Bool :=
  db.sessions.any fun s => s.id = session_id && which s

/-- `DELETE FROM subtitle_sessions WHERE ..`, with what cascades. -/
def delete_sessions : Database :=
  cascade { db with
    sessions := db.sessions.filter fun s => !which s
    cues := db.cues.filter fun c => !db.has_one which c.session_id
    segments := db.segments.filter fun a => !db.has_one which a.session_id }

/-! ## Sessions -/

/-- From `initialize`: what becomes of the sessions that the last run of the program left active. -/
def interrupt_active (now_ms : Int) (db : Database) : Database :=
  db.update_sessions (fun s => s.status = .active ∧ s.ended_at_ms = none)
    fun s => { s with status := .interrupted, ended_at_ms := some now_ms }

/-- `INSERT OR IGNORE` -/
def create_session (id : String) (started_at_ms : Int) (db : Database) : Database :=
  if db.has_session id then db else { db with sessions := db.sessions ++ [{ id, started_at_ms }] }

def end_session (id : String) (ended_at_ms : Int) (db : Database) : Database :=
  db.update_sessions (fun s => s.id = id ∧ s.ended_at_ms = none)
    fun s => { s with ended_at_ms := some ended_at_ms, status := .completed }

def mark_archive_gap (session_id : String) (db : Database) : Database :=
  db.update_sessions (fun s => s.id = session_id) fun s => { s with archive_gap_count := s.archive_gap_count + 1 }

/-! ## Cues -/

structure CueWrite where
  session_id : String
  cue_id : String
  sequence : Int
  revision : Int
  route_direction : String
  source_text : String
  translated_text : String
  source_committed : Bool
  translation_committed : Bool
  started_at_ms : Int
  ended_at_ms : Int
deriving DecidableEq

def delete_cue (session_id cue_id : String) (db : Database) : Database :=
  cascade { db with cues := db.cues.filter fun c => !(c.session_id = session_id ∧ c.cue_id = cue_id) }

/-- `(a, b) >= (c, d)` of two pairs. -/
def pair_ge (a b : Int × Int) : Bool := b.1 < a.1 ∨ (b.1 = a.1 ∧ b.2 ≤ a.2)

/-- `SELECT COALESCE(MAX(sequence), 0) + 1` -/
def next_sequence (sequences : List Int) : Int := sequences.max?.getD 0 + 1

variable (cue : CueWrite)

def rewrite_cue (updated_at_ms : Int) (row : CueRow) : CueRow :=
  { row with
    runtime_revision := cue.revision
    runtime_sequence := cue.sequence
    route_direction := cue.route_direction
    source_text := cue.source_text
    translated_text := cue.translated_text
    source_committed := cue.source_committed
    translation_committed := cue.translation_committed
    started_at_ms := cue.started_at_ms
    ended_at_ms := cue.ended_at_ms
    updated_at_ms := updated_at_ms }

def new_cue (updated_at_ms : Int) (db : Database) : CueRow where
  id := db.uuids
  session_id := cue.session_id
  cue_id := cue.cue_id
  sequence := next_sequence ((db.cues.filter fun c => c.session_id = cue.session_id).map (·.sequence))
  runtime_sequence := cue.sequence
  runtime_revision := cue.revision
  route_direction := cue.route_direction
  source_text := cue.source_text
  translated_text := cue.translated_text
  source_committed := cue.source_committed
  translation_committed := cue.translation_committed
  started_at_ms := cue.started_at_ms
  ended_at_ms := cue.ended_at_ms
  updated_at_ms := updated_at_ms

/-- The row of the cue is rewritten by a snapshot that is not older, or inserted; a row of no session violates
the foreign key. -/
def write_cue (updated_at_ms : Int) (db : Database) : Option Database :=
  match db.find_cue cue.session_id cue.cue_id with
  | some row =>
    if pair_ge (cue.revision, cue.sequence) (row.runtime_revision, row.runtime_sequence) then
      some { db with cues := db.cues.map fun c => if c.id = row.id then rewrite_cue cue updated_at_ms c else c }
    else some db
  | none =>
    if db.has_session cue.session_id then
      some { db with cues := db.cues ++ [db.new_cue cue updated_at_ms], uuids := db.uuids + 1 }
    else none

def recount_cues (session_id : String) (db : Database) : Database :=
  db.update_sessions (fun s => s.id = session_id) fun s => { s with cue_count := db.count_cues session_id }

def upsert_cue_on (updated_at_ms : Int) (db : Database) : Option Database :=
  (db.write_cue cue updated_at_ms).map (recount_cues cue.session_id)

/-- One transaction: nothing is written when one cue cannot be. -/
def upsert_cues_batch (cues : List CueWrite) (updated_at_ms : Int) (db : Database) : Option Database :=
  cues.foldlM (fun db cue => db.upsert_cue_on cue updated_at_ms) db

/-! ## Audio -/

structure AudioCueRefWrite where
  cue_id : String
  offset_samples : Int
  length_samples : Int
deriving DecidableEq

structure AudioSegmentWrite where
  session_id : String
  cue_refs : List AudioCueRefWrite
  track : String
  sequence : Int
  started_at_ms : Int
  duration_ms : Int
  sample_rate_hz : Nat
  encrypted_path : String
  encrypted_bytes : Int
deriving DecidableEq

def next_audio_sequence (session_id track : String) (db : Database) : Int :=
  next_sequence ((db.segments.filter fun a => a.session_id = session_id ∧ a.track = track).map (·.sequence))

/-- `INSERT OR REPLACE`, for the key of the table. -/
def put_ref (ref : RefRow) (db : Database) : Database :=
  { db with refs := (db.refs.filter fun r =>
      !(r.cue_id = ref.cue_id ∧ r.audio_segment_id = ref.audio_segment_id ∧ r.track = ref.track)) ++ [ref] }

variable (segment : AudioSegmentWrite)

/-- A span of a cue that has no row is left out. -/
def put_cue_ref (segment_id : Nat) (db : Database) (cue_ref : AudioCueRefWrite) : Database :=
  match db.find_cue segment.session_id cue_ref.cue_id with
  | none => db
  | some row =>
    db.put_ref { cue_id := row.id, audio_segment_id := segment_id, track := segment.track,
                 offset_samples := cue_ref.offset_samples, length_samples := cue_ref.length_samples }

/-- What a segment without spans shares with a cue, by the clock. -/
def overlap (segment_id : Nat) (c : CueRow) : RefRow :=
  let segment_end_ms := segment.started_at_ms + segment.duration_ms
  let overlap_start := max c.started_at_ms segment.started_at_ms
  let overlap_end := min c.ended_at_ms segment_end_ms
  { cue_id := c.id
    audio_segment_id := segment_id
    track := segment.track
    offset_samples := (overlap_start - segment.started_at_ms) * segment.sample_rate_hz / 1000
    length_samples := (overlap_end - overlap_start) * segment.sample_rate_hz / 1000 }

def put_refs (segment_id : Nat) (db : Database) : Database :=
  if segment.cue_refs = [] then
    let overlaps := db.cues.filter fun c => c.session_id = segment.session_id ∧
      c.started_at_ms < segment.started_at_ms + segment.duration_ms ∧ segment.started_at_ms < c.ended_at_ms
    overlaps.foldl (fun db c => db.put_ref (overlap segment segment_id c)) db
  else segment.cue_refs.foldl (put_cue_ref segment segment_id) db

def new_segment (segment_id : Nat) : SegmentRow where
  id := segment_id
  session_id := segment.session_id
  track := segment.track
  sequence := segment.sequence
  started_at_ms := segment.started_at_ms
  duration_ms := segment.duration_ms
  sample_rate_hz := segment.sample_rate_hz
  encrypted_path := segment.encrypted_path
  byte_size := segment.encrypted_bytes

/-- The session, the track and the sequence of a segment are unique, and its session exists. -/
def may_insert : Bool :=
  db.has_session segment.session_id && !db.segments.any fun a =>
    a.session_id = segment.session_id ∧ a.track = segment.track ∧ a.sequence = segment.sequence

def insert_audio_segment : Option Database :=
  if db.may_insert segment then
    let inserted := { db with segments := db.segments ++ [new_segment segment db.uuids], uuids := db.uuids + 1 }
    some ((inserted.put_refs segment db.uuids).update_sessions (fun s => s.id = segment.session_id)
      fun s => { s with audio_bytes := s.audio_bytes + segment.encrypted_bytes })
  else none

/-! ## Retention -/

def RETENTION_MAX_AGE_MS : Int := 90 * 24 * 60 * 60 * 1000
def RETENTION_MAX_SESSIONS : Nat := 500
def RETENTION_MAX_BYTES : Int := 5 * 1024 * 1024 * 1024

def audio_bytes (db : Database) : Int := (db.sessions.map (·.audio_bytes)).sum

def audio_archive_allowed (database_footprint_bytes : Int) (db : Database) : Bool :=
  db.audio_bytes + database_footprint_bytes < RETENTION_MAX_BYTES

/-- From the `for` of `select_retention_victims`: what is left of the ended sessions, and of the footprint. -/
def victims (age_cutoff : Int) : List SessionRow → Int → List String
  | [], _ => []
  | s :: ended, total_footprint_bytes =>
    if s.ended_at_ms.any (· < age_cutoff) ∨ RETENTION_MAX_SESSIONS < ended.length + 1 ∨
        RETENTION_MAX_BYTES < total_footprint_bytes then
      s.id :: victims age_cutoff ended (total_footprint_bytes - s.audio_bytes)
    else victims age_cutoff ended total_footprint_bytes

/-- `ORDER BY ended_at_ms ASC, id ASC` -/
def ended_before (a b : SessionRow) : Prop :=
  a.ended_at_ms.getD 0 < b.ended_at_ms.getD 0 ∨ (a.ended_at_ms.getD 0 = b.ended_at_ms.getD 0 ∧ a.id ≤ b.id)

instance : DecidableRel ended_before := fun _ _ => inferInstanceAs (Decidable (_ ∨ _))

def select_retention_victims (now_ms database_footprint_bytes : Int) (db : Database) : List String :=
  let ended := (db.sessions.filter fun s => s.ended_at_ms.isSome ∧ s.status ≠ .deleting).insertionSort ended_before
  victims (now_ms - RETENTION_MAX_AGE_MS) ended (db.audio_bytes + database_footprint_bytes)

def mark_deleting : Database :=
  db.update_sessions (fun s => which s && s.ended_at_ms.isSome) fun s => { s with status := .deleting }

/-- The sessions that are removed before an error, all of them where there is none. -/
def resume_deleting_sessions (removed : String → Bool) (db : Database) : Database :=
  db.delete_sessions fun s => s.status = .deleting ∧ removed s.id

def delete_session (session_id : String) (removed : String → Bool) (db : Database) : Database :=
  if db.sessions.any fun s => s.id = session_id ∧ s.ended_at_ms.isSome then
    (db.mark_deleting fun s => s.id = session_id).resume_deleting_sessions removed
  else db

def clear (removed : String → Bool) (db : Database) : Database :=
  (db.mark_deleting fun _ => true).resume_deleting_sessions removed

/-- How far a retention comes before an error: the sessions that its first pass removes, the victims that it
marks, and the sessions that its second pass removes. -/
structure Progress where
  first : String → Bool
  marked : Nat
  second : String → Bool

def run_retention (now_ms database_footprint_bytes : Int) (progress : Progress) (db : Database) : Database :=
  let resumed := db.resume_deleting_sessions progress.first
  match (resumed.select_retention_victims now_ms database_footprint_bytes).take progress.marked with
  | [] => resumed
  | marked => (resumed.mark_deleting fun s => s.id ∈ marked).resume_deleting_sessions progress.second

/-! ## What is read -/

structure HistoryStatistics where
  session_count : Nat
  cue_count : Nat
  audio_bytes : Int
deriving DecidableEq

def statistics : HistoryStatistics where
  session_count := db.sessions.length
  cue_count := (db.sessions.map (·.cue_count)).sum
  audio_bytes := db.audio_bytes

structure AudioCueSegmentRead where
  sequence : Int
  sample_rate_hz : Nat
  encrypted_path : String
  offset_samples : Int
  length_samples : Int
deriving DecidableEq

/-- `ORDER BY audio.sequence ASC, refs.offset_samples ASC` -/
def read_before (a b : AudioCueSegmentRead) : Prop :=
  a.sequence < b.sequence ∨ (a.sequence = b.sequence ∧ a.offset_samples ≤ b.offset_samples)

instance : DecidableRel read_before := fun _ _ => inferInstanceAs (Decidable (_ ∨ _))

/-- The references to a row of a cue, each with the row of its segment. -/
def joined (row : CueRow) (track : String) (db : Database) : List AudioCueSegmentRead :=
  db.refs.flatMap fun r =>
    if r.cue_id = row.id ∧ r.track = track then
      (db.segments.filter fun a => a.id = r.audio_segment_id ∧ a.track = track).map fun a =>
        { sequence := a.sequence, sample_rate_hz := a.sample_rate_hz, encrypted_path := a.encrypted_path,
          offset_samples := r.offset_samples, length_samples := r.length_samples }
    else []

def AudioCueSegmentRead.is_valid (read : AudioCueSegmentRead) : Bool :=
  read.sample_rate_hz ≠ 0 ∧ 0 ≤ read.offset_samples ∧ 0 < read.length_samples

def invalid_reference (read : AudioCueSegmentRead) : String :=
  "历史音频引用无效：sequence=" ++ toString read.sequence ++ " offset=" ++ toString read.offset_samples ++
    " length=" ++ toString read.length_samples ++ " sampleRate=" ++ toString read.sample_rate_hz

def cue_audio_segments (session_id cue_id track : String) (db : Database) :
    Except String (List AudioCueSegmentRead) :=
  let rows := (db.cues.filter fun c => c.session_id = session_id ∧ c.cue_id = cue_id).flatMap
    fun row => db.joined row track
  let reads := rows.insertionSort read_before
  match reads.find? fun read => !read.is_valid with
  | some read => .error (invalid_reference read)
  | none => .ok reads

end Database

end omni_translate.history
