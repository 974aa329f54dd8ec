-- The two totals that a session row carries. `audio_bytes` is always the bytes
-- of the session's segments; `cue_count` is the number of its cues until a cue
-- is deleted, which counts nothing again.
import OmniTranslate.HistoryRepository
import OmniTranslate.Tables

namespace omni_translate.history

open runs tables

/-- The operations on the archive; an operation that violates a constraint changes nothing. -/
inductive Op
  | interrupt_active (now_ms : Int)
  | create_session (id : String) (started_at_ms : Int)
  | end_session (id : String) (ended_at_ms : Int)
  | mark_archive_gap (session_id : String)
  | upsert_cues_batch (cues : List Database.CueWrite) (updated_at_ms : Int)
  | delete_cue (session_id cue_id : String)
  | insert_audio_segment (segment : Database.AudioSegmentWrite)
  | delete_session (session_id : String) (removed : String → Bool)
  | clear (removed : String → Bool)
  | run_retention (now_ms database_footprint_bytes : Int) (progress : Database.Progress)

namespace Database

def step (db : Database) : Op → Database
  | .interrupt_active now_ms => db.interrupt_active now_ms
  | .create_session id started_at_ms => db.create_session id started_at_ms
  | .end_session id ended_at_ms => db.end_session id ended_at_ms
  | .mark_archive_gap session_id => db.mark_archive_gap session_id
  | .upsert_cues_batch cues updated_at_ms => (db.upsert_cues_batch cues updated_at_ms).getD db
  | .delete_cue session_id cue_id => db.delete_cue session_id cue_id
  | .insert_audio_segment segment => (db.insert_audio_segment segment).getD db
  | .delete_session session_id removed => db.delete_session session_id removed
  | .clear removed => db.clear removed
  | .run_retention now_ms footprint progress => db.run_retention now_ms footprint progress

variable {db db' : Database}

/-! ## What always holds -/

/-- Sessions have ids of their own, cues and segments belong to sessions, and the bytes of a session are those of
its segments. -/
structure Sound (db : Database) : Prop where
  nodup : (db.sessions.map (·.id)).Nodup
  cues_in : ∀ c ∈ db.cues, db.has_session c.session_id = true
  segments_in : ∀ a ∈ db.segments, db.has_session a.session_id = true
  bytes : ∀ s ∈ db.sessions, s.audio_bytes = total (·.session_id) (·.byte_size) db.segments s.id

theorem sound_empty : Sound {} := ⟨List.nodup_nil, by simp, by simp, by simp⟩

def Counted (db : Database) : Prop := ∀ s ∈ db.sessions, s.cue_count = db.count_cues s.id

/-- The rows carry the real totals, and so the statistics are the real ones. -/
structure RealTotals (db : Database) : Prop where
  cue_count : ∀ s ∈ db.sessions, s.cue_count = db.cues.countP fun c => c.session_id = s.id
  audio_bytes : ∀ s ∈ db.sessions, s.audio_bytes = ((db.segments.filter fun a => a.session_id = s.id).map (·.byte_size)).sum
  statistics : db.statistics = ⟨db.sessions.length, db.cues.length, (db.segments.map (·.byte_size)).sum⟩

variable {id : String}

theorem has_session_iff : db.has_session id = true ↔ id ∈ db.sessions.map (·.id) := by
  simp [has_session]

theorem Sound.real_totals (h : db.Sound) (hcount : db.Counted) : db.RealTotals where
  cue_count := hcount
  audio_bytes := h.bytes
  statistics := by
    have hcues : (db.sessions.map (·.cue_count)).sum = db.cues.length := by
      have hsum := sum_totals (w := fun _ : CueRow => 1) h.nodup fun c hc => has_session_iff.mp (h.cues_in c hc)
      rw [List.map_congr_left hcount]
      simpa [count_cues, total_count, Function.comp_def] using hsum
    have hbytes : db.audio_bytes = (db.segments.map (·.byte_size)).sum := by
      have hsum := sum_totals (w := SegmentRow.byte_size) h.nodup fun a ha => has_session_iff.mp (h.segments_in a ha)
      rw [List.map_map] at hsum
      rw [Database.audio_bytes, List.map_congr_left h.bytes]
      exact hsum
    simp [Database.statistics, hcues, hbytes]

/-! ## Updates and deletes of sessions -/

section

variable {which : SessionRow → Bool} {set : SessionRow → SessionRow}

theorem session_ids_update (hid : ∀ s, (set s).id = s.id) :
    (db.update_sessions which set).sessions.map (·.id) = db.sessions.map (·.id) := by
  rw [update_sessions, List.map_map]
  refine List.map_congr_left fun s _ => ?_
  dsimp only [Function.comp_apply]
  split
  · exact hid s
  · rfl

theorem has_session_update (hid : ∀ s, (set s).id = s.id) (id : String) :
    (db.update_sessions which set).has_session id = db.has_session id := by
  rw [Bool.eq_iff_iff, has_session_iff, has_session_iff, session_ids_update hid]

theorem forall_update {P : SessionRow → Prop} (h : ∀ s ∈ db.sessions, P s) (hset : ∀ s, P s → P (set s)) :
    ∀ s ∈ (db.update_sessions which set).sessions, P s := by
  intro s hs
  obtain ⟨old, hold, rfl⟩ := List.mem_map.mp hs
  split
  · exact hset old (h old hold)
  · exact h old hold

theorem Sound.update (h : db.Sound) (hid : ∀ s, (set s).id = s.id) (hbytes : ∀ s, (set s).audio_bytes = s.audio_bytes) :
    (db.update_sessions which set).Sound where
  nodup := by
    rw [session_ids_update hid]
    exact h.nodup
  cues_in c hc := (has_session_update hid _).trans (h.cues_in c hc)
  segments_in a ha := (has_session_update hid _).trans (h.segments_in a ha)
  bytes := forall_update h.bytes fun s _ => by rwa [hbytes, hid]

theorem Counted.update (h : db.Counted) (hid : ∀ s, (set s).id = s.id) (hcount : ∀ s, (set s).cue_count = s.cue_count) :
    (db.update_sessions which set).Counted :=
  forall_update h fun s _ => by rwa [hcount, hid]

end

theorem Sound.spared (h : db.Sound) {which : SessionRow → Bool} {s : SessionRow}
    (hs : s ∈ db.sessions) (hkeep : which s = false) (hid : id = s.id) :
    db.has_one which id = false := by
  unfold has_one
  rw [List.any_eq_false]
  intro other hother hgone
  simp only [Bool.and_eq_true, decide_eq_true_eq] at hgone
  have hsame : other = s := List.inj_on_of_nodup_map h.nodup hother hs (hgone.1.trans hid)
  rw [hsame, hkeep] at hgone
  simp at hgone

theorem not_which_of_has_one {which : SessionRow → Bool} {s : SessionRow}
    (h : db.has_one which id = false) (hs : s ∈ db.sessions) (hid : s.id = id) :
    which s = false := by
  unfold has_one at h
  rw [List.any_eq_false] at h
  simpa [hid] using h s hs

theorem Sound.delete (h : db.Sound) (which : SessionRow → Bool) : (db.delete_sessions which).Sound where
  nodup := h.nodup.sublist (List.filter_sublist.map _)
  cues_in c hc := by
    obtain ⟨hc, hkeep⟩ := List.mem_filter.mp hc
    obtain ⟨s, hs, hid⟩ := List.mem_map.mp (has_session_iff.mp (h.cues_in c hc))
    refine has_session_iff.mpr (List.mem_map.mpr ⟨s, List.mem_filter.mpr ⟨hs, ?_⟩, hid⟩)
    rw [Bool.not_eq_true'] at hkeep ⊢
    exact not_which_of_has_one hkeep hs hid
  segments_in a ha := by
    obtain ⟨ha, hkeep⟩ := List.mem_filter.mp ha
    obtain ⟨s, hs, hid⟩ := List.mem_map.mp (has_session_iff.mp (h.segments_in a ha))
    refine has_session_iff.mpr (List.mem_map.mpr ⟨s, List.mem_filter.mpr ⟨hs, ?_⟩, hid⟩)
    rw [Bool.not_eq_true'] at hkeep ⊢
    exact not_which_of_has_one hkeep hs hid
  bytes s hs := by
    obtain ⟨hs, hkeep⟩ := List.mem_filter.mp hs
    rw [h.bytes s hs]
    refine (total_filter fun a _ hid => ?_).symm
    rw [h.spared hs (by simpa using hkeep) hid]
    rfl

theorem Counted.delete (h : db.Counted) (hsound : db.Sound) (which : SessionRow → Bool) :
    (db.delete_sessions which).Counted := by
  intro s hs
  obtain ⟨hs, hkeep⟩ := List.mem_filter.mp hs
  rw [h s hs]
  unfold count_cues
  have hkept : total CueRow.session_id (fun _ => 1) (db.delete_sessions which).cues s.id =
      total CueRow.session_id (fun _ => 1) db.cues s.id := by
    refine total_filter fun _ _ hid => ?_
    rw [hsound.spared hs (by simpa using hkeep) hid]
    rfl
  rw [← total_count, ← total_count]
  exact hkept.symm

/-! ## Cues -/

theorem count_cues_eq (db : Database) (session_id : String) :
    db.count_cues session_id = total CueRow.session_id (fun _ => 1) db.cues session_id := total_count.symm

variable {cue : CueWrite} {updated_at_ms : Int}

/-- A cue is written into a session that exists, and no other table changes. -/
theorem write_cue_cases (h : db.write_cue cue updated_at_ms = some db') :
    (∃ row, db.find_cue cue.session_id cue.cue_id = some row ∧
      ((pair_ge (cue.revision, cue.sequence) (row.runtime_revision, row.runtime_sequence) = true ∧ db' = { db with
          cues := db.cues.map fun c => if c.id = row.id then rewrite_cue cue updated_at_ms c else c }) ∨
        (pair_ge (cue.revision, cue.sequence) (row.runtime_revision, row.runtime_sequence) = false ∧ db' = db))) ∨
      (db.find_cue cue.session_id cue.cue_id = none ∧ db.has_session cue.session_id = true ∧
        db' = { db with cues := db.cues ++ [db.new_cue cue updated_at_ms], uuids := db.uuids + 1 }) := by
  unfold write_cue at h
  cases hfound : db.find_cue cue.session_id cue.cue_id with
  | some row =>
    simp only [hfound] at h
    split at h
    · next hge => exact .inl ⟨row, rfl, .inl ⟨hge, (Option.some.inj h).symm⟩⟩
    · next hlt => exact .inl ⟨row, rfl, .inr ⟨by simpa using hlt, (Option.some.inj h).symm⟩⟩
  | none =>
    simp only [hfound] at h
    split at h
    · next hsession => exact .inr ⟨rfl, hsession, (Option.some.inj h).symm⟩
    · cases h

theorem rewrite_session_id (cue : CueWrite) (updated_at_ms : Int) (id : Nat) (c : CueRow) :
    (if c.id = id then rewrite_cue cue updated_at_ms c else c).session_id = c.session_id := by
  split <;> rfl

theorem Sound.write_cue (h : db.Sound) (hwrite : db.write_cue cue updated_at_ms = some db') :
    db'.Sound := by
  rcases write_cue_cases hwrite with ⟨_, -, ⟨-, rfl⟩ | ⟨-, rfl⟩⟩ | ⟨-, hsession, rfl⟩
  · refine ⟨h.nodup, fun c hc => ?_, h.segments_in, h.bytes⟩
    obtain ⟨old, hold, rfl⟩ := List.mem_map.mp hc
    rw [rewrite_session_id]
    exact h.cues_in old hold
  · exact h
  · refine ⟨h.nodup, fun c hc => ?_, h.segments_in, h.bytes⟩
    rcases List.mem_append.mp hc with hc | hc
    · exact h.cues_in c hc
    · rw [List.mem_singleton.mp hc]
      exact hsession

/-- A cue that is written changes the number of cues of its own session only. -/
theorem count_cues_write (hwrite : db.write_cue cue updated_at_ms = some db')
    (hid : id ≠ cue.session_id) : db'.count_cues id = db.count_cues id := by
  rw [count_cues_eq, count_cues_eq]
  rcases write_cue_cases hwrite with ⟨row, -, ⟨-, rfl⟩ | ⟨-, rfl⟩⟩ | ⟨-, -, rfl⟩
  · exact total_map (fun c _ => rewrite_session_id cue updated_at_ms row.id c) fun _ _ => rfl
  · rfl
  · rw [total_append, total_cons, if_neg fun h => hid h.symm, total_nil, add_zero, add_zero]

theorem write_cue_sessions (hwrite : db.write_cue cue updated_at_ms = some db') :
    db'.sessions = db.sessions := by
  rcases write_cue_cases hwrite with ⟨_, -, ⟨-, rfl⟩ | ⟨-, rfl⟩⟩ | ⟨-, -, rfl⟩ <;> rfl

theorem Sound.upsert (h : db.Sound) (hupsert : db.upsert_cue_on cue updated_at_ms = some db') :
    db'.Sound := by
  obtain ⟨_, hwrite, rfl⟩ := Option.map_eq_some_iff.mp hupsert
  exact (h.write_cue hwrite).update (fun _ => rfl) fun _ => rfl

theorem Counted.upsert (h : db.Counted) (hupsert : db.upsert_cue_on cue updated_at_ms = some db') :
    db'.Counted := by
  obtain ⟨written, hwrite, rfl⟩ := Option.map_eq_some_iff.mp hupsert
  intro s hs
  obtain ⟨old, hold, rfl⟩ := List.mem_map.mp hs
  change _ = written.count_cues _
  by_cases hid : old.id = cue.session_id
  · simp [hid]
  · rw [write_cue_sessions hwrite] at hold
    simp only [hid, decide_false, Bool.false_eq_true, if_false]
    rw [count_cues_write hwrite hid]
    exact h old hold

theorem batch_keeps {Inv : Database → Prop}
    (hstep : ∀ db cue db', Inv db → upsert_cue_on cue updated_at_ms db = some db' → Inv db')
    {cues : List CueWrite} (h : Inv db)
    (hbatch : db.upsert_cues_batch cues updated_at_ms = some db') : Inv db' := by
  unfold upsert_cues_batch at hbatch
  induction cues generalizing db with
  | nil => exact Option.some.inj hbatch ▸ h
  | cons cue cues ih =>
    rw [List.foldlM_cons, Option.bind_eq_bind, Option.bind_eq_some_iff] at hbatch
    obtain ⟨next, hnext, hrest⟩ := hbatch
    exact ih (hstep db cue next h hnext) hrest

/-! ## Audio -/

theorem put_refs_eq (segment : AudioSegmentWrite) (segment_id : Nat) (db : Database) :
    ∃ refs, db.put_refs segment segment_id = { db with refs := refs } := by
  have hfold {α : Type} (put : Database → α → Database) (hput : ∀ db a, ∃ refs, put db a = { db with refs := refs })
      (items : List α) (db : Database) : ∃ refs, items.foldl put db = { db with refs := refs } := by
    induction items generalizing db with
    | nil => exact ⟨db.refs, rfl⟩
    | cons a items ih =>
      obtain ⟨refs, hrefs⟩ := hput db a
      obtain ⟨more, hmore⟩ := ih (put db a)
      refine ⟨more, ?_⟩
      rw [List.foldl_cons, hmore, hrefs]
  unfold put_refs
  split
  · exact hfold _ (fun db _ => ⟨_, rfl⟩) _ db
  · refine hfold _ (fun db _ => ?_) _ db
    unfold put_cue_ref
    split
    · exact ⟨db.refs, rfl⟩
    · exact ⟨_, rfl⟩

variable {segment : AudioSegmentWrite}

theorem insert_cases (h : db.insert_audio_segment segment = some db') :
    db.may_insert segment = true ∧ ∃ refs, db' = Database.update_sessions (fun s => s.id = segment.session_id)
      (fun s => { s with audio_bytes := s.audio_bytes + segment.encrypted_bytes })
      { db with segments := db.segments ++ [new_segment segment db.uuids], uuids := db.uuids + 1, refs := refs } := by
  unfold insert_audio_segment at h
  split at h
  · next hmay =>
    refine ⟨hmay, ?_⟩
    obtain ⟨refs, hrefs⟩ := put_refs_eq segment db.uuids
      { db with segments := db.segments ++ [new_segment segment db.uuids], uuids := db.uuids + 1 }
    dsimp only at h
    rw [hrefs] at h
    exact ⟨refs, (Option.some.inj h).symm⟩
  · cases h

theorem Sound.insert (h : db.Sound) (hinsert : db.insert_audio_segment segment = some db') : db'.Sound := by
  obtain ⟨hmay, _, rfl⟩ := insert_cases hinsert
  have hsession : db.has_session segment.session_id = true := by
    exact (Bool.and_eq_true_iff.mp hmay).1
  refine ⟨?_, fun c hc => ?_, fun a ha => ?_, fun s hs => ?_⟩
  · rw [session_ids_update (by intro s; rfl)]
    exact h.nodup
  · exact (has_session_update (by intro s; rfl) _).trans (h.cues_in c hc)
  · refine (has_session_update (by intro s; rfl) _).trans ?_
    rcases List.mem_append.mp ha with ha | ha
    · exact h.segments_in a ha
    · rw [List.mem_singleton.mp ha]
      exact hsession
  · obtain ⟨old, hold, rfl⟩ := List.mem_map.mp hs
    have hbytes := h.bytes old hold
    change _ = total _ _ (db.segments ++ [new_segment segment db.uuids]) _
    rw [total_append, total_cons, total_nil, add_zero]
    by_cases hid : old.id = segment.session_id
    · simp [hid, new_segment, hbytes]
    · have hother : segment.session_id ≠ old.id := fun h => hid h.symm
      simp [hid, hother, new_segment, hbytes]

theorem Counted.insert (h : db.Counted) (hinsert : db.insert_audio_segment segment = some db') : db'.Counted := by
  obtain ⟨-, _, rfl⟩ := insert_cases hinsert
  exact Counted.update h (fun _ => rfl) fun _ => rfl

/-! ## Every operation -/

theorem Sound.create (h : db.Sound) (id : String) (started_at_ms : Int) : (db.create_session id started_at_ms).Sound := by
  unfold create_session
  split
  · exact h
  · next hnew =>
    have hmem : ∀ id', db.has_session id' = true →
        has_session id' { db with sessions := db.sessions ++ [{ id, started_at_ms }] } = true := by
      intro id' h
      rw [has_session_iff] at h ⊢
      simp [List.mem_map.mp h]
    refine ⟨?_, fun c hc => hmem _ (h.cues_in c hc), fun a ha => hmem _ (h.segments_in a ha), fun s hs => ?_⟩
    · rw [has_session_iff] at hnew
      simpa [List.nodup_append, h.nodup] using hnew
    · rcases List.mem_append.mp hs with hs | hs
      · exact h.bytes s hs
      · rw [List.mem_singleton.mp hs]
        refine (List.sum_eq_zero fun _ hx => ?_).symm
        obtain ⟨a, ha, rfl⟩ := List.mem_map.mp hx
        obtain ⟨ha, hid⟩ := List.mem_filter.mp ha
        have hid : a.session_id = id := of_decide_eq_true hid
        exact absurd (hid ▸ h.segments_in a ha) hnew

theorem Counted.create (h : db.Counted) (hsound : db.Sound) (id : String) (started_at_ms : Int) :
    (db.create_session id started_at_ms).Counted := by
  unfold create_session
  split
  · exact h
  · next hnew =>
    intro s hs
    rcases List.mem_append.mp hs with hs | hs
    · exact h s hs
    · rw [List.mem_singleton.mp hs]
      refine (List.countP_eq_zero.mpr fun c hc hid => hnew ?_).symm
      have hid : c.session_id = id := of_decide_eq_true hid
      exact hid ▸ hsound.cues_in c hc

theorem Sound.delete_cue (h : db.Sound) (session_id cue_id : String) : (db.delete_cue session_id cue_id).Sound :=
  ⟨h.nodup, fun c hc => h.cues_in c (List.mem_filter.mp hc).1, h.segments_in, h.bytes⟩

section

variable (Inv : Database → Prop) (hupdate : ∀ {db which set}, Inv db → (∀ s, (set s).id = s.id ∧
    (set s).audio_bytes = s.audio_bytes ∧ (set s).cue_count = s.cue_count) → Inv (db.update_sessions which set))
  (hdelete : ∀ db which, Inv db → Inv (delete_sessions which db))

include hupdate hdelete

/-- The removal of sessions marks some and deletes some, however far it comes. -/
theorem removal_keeps (h : Inv db) (removed : String → Bool) (which : SessionRow → Bool) (now_ms footprint : Int)
    (progress : Progress) :
    Inv ((db.mark_deleting which).resume_deleting_sessions removed) ∧ Inv (db.run_retention now_ms footprint progress) := by
  refine ⟨hdelete _ _ (hupdate h fun _ => ⟨rfl, rfl, rfl⟩), ?_⟩
  unfold run_retention
  dsimp only
  split
  · exact hdelete _ _ h
  · exact hdelete _ _ (hupdate (hdelete _ _ h) fun _ => ⟨rfl, rfl, rfl⟩)

/-- A step keeps what the writes it is made of keep. -/
theorem step_keeps (h : Inv db) {op : Op} (hcreate : ∀ id started_at_ms, Inv (db.create_session id started_at_ms))
    (hupsert : ∀ cues updated_at_ms, op = .upsert_cues_batch cues updated_at_ms →
      ∀ db cue db', Inv db → upsert_cue_on cue updated_at_ms db = some db' → Inv db')
    (hdelete_cue : ∀ session_id cue_id, op = .delete_cue session_id cue_id → Inv (db.delete_cue session_id cue_id))
    (hinsert : ∀ segment db', db.insert_audio_segment segment = some db' → Inv db') : Inv (db.step op) := by
  have hremoval := removal_keeps Inv hupdate hdelete h
  cases op with
  | interrupt_active | end_session | mark_archive_gap => exact hupdate h fun _ => ⟨rfl, rfl, rfl⟩
  | create_session id started_at_ms => exact hcreate id started_at_ms
  | upsert_cues_batch cues updated_at_ms =>
    dsimp only [Database.step]
    cases hbatch : db.upsert_cues_batch cues updated_at_ms with
    | none => exact h
    | some db' => exact batch_keeps (hupsert cues updated_at_ms rfl) h hbatch
  | delete_cue session_id cue_id => exact hdelete_cue session_id cue_id rfl
  | insert_audio_segment segment =>
    dsimp only [Database.step]
    cases hsegment : db.insert_audio_segment segment with
    | none => exact h
    | some db' => exact hinsert segment db' hsegment
  | delete_session session_id removed =>
    dsimp only [Database.step, delete_session]
    split
    · exact (hremoval removed _ 0 0 ⟨removed, 0, removed⟩).1
    · exact h
  | clear removed => exact (hremoval removed _ 0 0 ⟨removed, 0, removed⟩).1
  | run_retention now_ms footprint progress => exact (hremoval progress.first (fun _ => true) now_ms footprint progress).2

end

theorem Sound.mark (h : db.Sound) (which : SessionRow → Bool) : (db.mark_deleting which).Sound :=
  h.update (fun _ => rfl) fun _ => rfl

theorem Sound.step (h : db.Sound) (op : Op) : (db.step op).Sound :=
  step_keeps Sound (fun h hset => h.update (fun s => (hset s).1) fun s => (hset s).2.1) (fun _ which h => h.delete which)
    h h.create (fun _ _ _ _ _ _ h hupsert => h.upsert hupsert) (fun _ _ _ => h.delete_cue _ _)
    fun _ _ hinsert => h.insert hinsert

/-- The operation deletes no cue. -/
def Spares (db : Database) : Op → Prop
  | .delete_cue session_id cue_id => db.find_cue session_id cue_id = none
  | _ => True

theorem filter_of_not_found {session_id cue_id : String} (h : db.find_cue session_id cue_id = none) :
    (db.cues.filter fun c => !(c.session_id = session_id ∧ c.cue_id = cue_id)) = db.cues := by
  refine List.filter_eq_self.mpr fun c hc => ?_
  rw [Bool.not_eq_true', ← Bool.not_eq_true]
  exact List.find?_eq_none.mp h c hc

theorem Counted.step (h : db.Counted) (hsound : db.Sound) (op : Op) (hspares : db.Spares op) :
    (db.step op).Counted := by
  refine (step_keeps (fun db => db.Sound ∧ db.Counted) (fun h hset => ⟨h.1.update (fun s => (hset s).1) fun s =>
    (hset s).2.1, Counted.update h.2 (fun s => (hset s).1) fun s => (hset s).2.2⟩)
    (fun _ which h => ⟨h.1.delete which, h.2.delete h.1 which⟩) ⟨hsound, h⟩
    (fun _ _ => ⟨hsound.create _ _, h.create hsound _ _⟩)
    (fun _ _ _ _ _ _ h hupsert => ⟨h.1.upsert hupsert, Counted.upsert h.2 hupsert⟩) ?_
    fun _ _ hinsert => ⟨hsound.insert hinsert, Counted.insert h hinsert⟩).2
  rintro session_id cue_id rfl
  refine ⟨hsound.delete_cue session_id cue_id, fun s hs => ?_⟩
  change _ = List.countP _ (db.cues.filter _)
  rw [filter_of_not_found hspares]
  exact h s hs

/-- A cue that is deleted is still counted. -/
theorem not_counted_of_deleted (h : db.Counted) (hsound : db.Sound) {session_id cue_id : String} {row : CueRow}
    (hrow : db.find_cue session_id cue_id = some row) : ¬ (db.delete_cue session_id cue_id).Counted := by
  intro hcounted
  have hmem := List.mem_of_find?_eq_some hrow
  have hfound : row.session_id = session_id ∧ row.cue_id = cue_id := by
    simpa using List.find?_some hrow
  obtain ⟨s, hs, hid⟩ := List.mem_map.mp (has_session_iff.mp (hsound.cues_in row hmem))
  have hsame : db.count_cues s.id = (db.delete_cue session_id cue_id).count_cues s.id := by
    rw [← h s hs, ← hcounted s hs]
  have hless : (db.delete_cue session_id cue_id).count_cues s.id < db.count_cues s.id := by
    exact countP_filter_lt hmem (by simp [hid]) (by simp [hfound])
  omega

end Database

/-- The rows carry the real totals in every state of a run exactly when no operation of the run deletes a cue. -/
theorem totals_are_real_iff (ops : List Op) :
    (∀ before, before <+: ops → (run Database.step {} before).RealTotals) ↔
      Along Database.step Database.Spares {} ops := by
  have hsound (ops : List Op) : (run Database.step {} ops).Sound :=
    run_keeps _ _ (fun db op h => h.step op) Database.sound_empty ops
  constructor
  · intro hreal
    induction ops using List.reverseRecOn with
    | nil => trivial
    | append_singleton ops op ih =>
      have hbefore := ih fun before hbefore => hreal before (hbefore.trans (List.prefix_append ops [op]))
      refine Along.append.mpr ⟨hbefore, ?_, trivial⟩
      have hcounted := (hreal ops (List.prefix_append ops [op])).cue_count
      have hafter := (hreal (ops ++ [op]) List.prefix_rfl).cue_count
      rw [run_snoc] at hafter
      cases op with
      | delete_cue _ _ =>
        by_contra hfound
        obtain ⟨_, hrow⟩ := Option.ne_none_iff_exists'.mp hfound
        exact Database.not_counted_of_deleted hcounted (hsound ops) hrow hafter
      | _ => trivial
  · rintro hspares before ⟨_, rfl⟩
    have hcounted : (run Database.step {} before).Sound ∧ (run Database.step {} before).Counted :=
      (Along.append.mp hspares).1.keeps (fun db => db.Sound ∧ db.Counted)
        (fun db op h hok => ⟨h.1.step op, h.2.step h.1 op hok⟩) ⟨Database.sound_empty, by simp [Database.Counted]⟩
    exact hcounted.1.real_totals hcounted.2

/-- A session with one cue, which is deleted. -/
def deleted_cue : List Op :=
  let cue : Database.CueWrite :=
    { session_id := "session-a", cue_id := "cue-a", sequence := 1, revision := 1, route_direction := "inbound",
      source_text := "source", translated_text := "translated", source_committed := true,
      translation_committed := true, started_at_ms := 1000, ended_at_ms := 2000 }
  [.create_session "session-a" 1000, .upsert_cues_batch [cue] 2000, .delete_cue "session-a" "cue-a"]

/-- The cue is gone, and its session still counts it. -/
theorem a_deleted_cue_is_counted : ¬ (run Database.step {} deleted_cue).RealTotals := by
  intro h
  have hcount := h.cue_count { id := "session-a", started_at_ms := 1000, cue_count := 1 } (by decide)
  exact absurd hcount (by decide)

end omni_translate.history
