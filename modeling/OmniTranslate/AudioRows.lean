-- The rows that a cue's audio is read from: which operations on the archive
-- leave them alone, and what a new segment adds to them.
import OmniTranslate.HistoryRows

namespace omni_translate.history

open runs tables

namespace Database

variable {db db' : Database}

/-- A cue of a session has one row, and a reference links a cue to a segment of its session; the ids of all of
these have been given. -/
structure Linked (db : Database) : Prop where
  cues : (db.cues.map fun c => (c.session_id, c.cue_id)).Nodup
  segments : ∀ a ∈ db.segments, a.id < db.uuids
  refs : ∀ r ∈ db.refs, r.cue_id < db.uuids ∧ r.audio_segment_id < db.uuids
  same_session : ∀ r ∈ db.refs, ∀ c ∈ db.cues, c.id = r.cue_id → ∀ a ∈ db.segments, a.id = r.audio_segment_id →
    a.session_id = c.session_id

theorem linked_empty : Linked {} := ⟨List.nodup_nil, by simp, by simp, by simp⟩

section

variable (h : db.Linked)

include h

theorem Linked.of_fewer (hcues : db'.cues.Sublist db.cues) (hsegments : db'.segments ⊆ db.segments)
    (hrefs : db'.refs ⊆ db.refs) (huuids : db'.uuids = db.uuids) : db'.Linked where
  cues := h.cues.sublist (hcues.map _)
  segments a ha := huuids ▸ h.segments a (hsegments ha)
  refs r hr := huuids ▸ h.refs r (hrefs hr)
  same_session r hr c hc hrc a ha := h.same_session r (hrefs hr) c (hcues.subset hc) hrc a (hsegments ha)

theorem Linked.update (which : SessionRow → Bool) (set : SessionRow → SessionRow) :
    (db.update_sessions which set).Linked := ⟨h.cues, h.segments, h.refs, h.same_session⟩

theorem Linked.delete (which : SessionRow → Bool) : (db.delete_sessions which).Linked :=
  h.of_fewer List.filter_sublist List.filter_sublist.subset List.filter_sublist.subset rfl

theorem Linked.delete_cue (session_id cue_id : String) : (db.delete_cue session_id cue_id).Linked :=
  h.of_fewer List.filter_sublist (List.Subset.refl _) List.filter_sublist.subset rfl

theorem Linked.write_cue {cue : CueWrite} {updated_at_ms : Int}
    (hwrite : db.write_cue cue updated_at_ms = some db') : db'.Linked := by
  rcases write_cue_cases hwrite with ⟨row, _, ⟨-, rfl⟩ | ⟨-, rfl⟩⟩ | ⟨hnew, -, rfl⟩
  · have hsame : ∀ c, (if c.id = row.id then rewrite_cue cue updated_at_ms c else c).session_id = c.session_id ∧
        (if c.id = row.id then rewrite_cue cue updated_at_ms c else c).cue_id = c.cue_id ∧
        (if c.id = row.id then rewrite_cue cue updated_at_ms c else c).id = c.id := by
      intro c
      split <;> exact ⟨rfl, rfl, rfl⟩
    refine ⟨?_, h.segments, h.refs, fun r hr c hc hrc a ha hra => ?_⟩
    · rw [List.map_map]
      refine (congrArg List.Nodup (List.map_congr_left fun c _ => ?_)).mpr h.cues
      obtain ⟨hsession, hcue, -⟩ := hsame c
      exact Prod.ext hsession hcue
    · obtain ⟨old, hold, rfl⟩ := List.mem_map.mp hc
      obtain ⟨hsession, -, hid⟩ := hsame old
      rw [hsession]
      exact h.same_session r hr old hold (hid.symm.trans hrc) a ha hra
  · exact h
  · have hfree : ∀ c ∈ db.cues, ¬ (c.session_id = cue.session_id ∧ c.cue_id = cue.cue_id) := fun c hc => by
      simpa using List.find?_eq_none.mp hnew c hc
    refine ⟨?_, fun a ha => (h.segments a ha).trans (Nat.lt_succ_self _), fun r hr => ?_,
      fun r hr c hc hrc a ha hra => ?_⟩
    · rw [List.map_append, List.nodup_append]
      refine ⟨h.cues, List.nodup_singleton _, fun _ hkey _ hother heq => ?_⟩
      obtain ⟨c, hc, rfl⟩ := List.mem_map.mp hkey
      obtain ⟨_, hd, rfl⟩ := List.mem_map.mp hother
      rw [List.mem_singleton.mp hd] at heq
      exact hfree c hc (Prod.mk.inj heq)
    · obtain ⟨hcue, hsegment⟩ := h.refs r hr
      exact ⟨hcue.trans (Nat.lt_succ_self _), hsegment.trans (Nat.lt_succ_self _)⟩
    · rcases List.mem_append.mp hc with hc | hc
      · exact h.same_session r hr c hc hrc a ha hra
      · rw [List.mem_singleton.mp hc] at hrc
        exact absurd hrc.symm (h.refs r hr).1.ne

theorem Linked.upsert {cue : CueWrite} {updated_at_ms : Int}
    (hupsert : db.upsert_cue_on cue updated_at_ms = some db') : db'.Linked := by
  obtain ⟨_, hwrite, rfl⟩ := Option.map_eq_some_iff.mp hupsert
  exact (h.write_cue hwrite).update _ _

end

/-! ## A new segment -/

/-- A reference that an insertion adds. -/
def Refers (segment : AudioSegmentWrite) (segment_id : Nat) (db : Database) (r : RefRow) : Prop :=
  r.audio_segment_id = segment_id ∧ r.track = segment.track ∧
    ∃ c ∈ db.cues, c.id = r.cue_id ∧ c.session_id = segment.session_id

/-- The references come after those that were there. -/
def Adds (segment : AudioSegmentWrite) (segment_id : Nat) (db : Database) (refs : List RefRow) : Prop :=
  ∃ more, refs = db.refs ++ more ∧ ∀ r ∈ more, Refers segment segment_id db r

variable {segment : AudioSegmentWrite} {segment_id : Nat}

theorem Adds.put (hfresh : ∀ r ∈ db.refs, r.audio_segment_id ≠ segment_id) {refs : List RefRow}
    (h : Adds segment segment_id db refs) {ref : RefRow} (href : Refers segment segment_id db ref) :
    Adds segment segment_id db (put_ref ref { db with refs := refs }).refs := by
  obtain ⟨more, rfl, hmore⟩ := h
  have hkept : (db.refs.filter fun r =>
      !(r.cue_id = ref.cue_id ∧ r.audio_segment_id = ref.audio_segment_id ∧ r.track = ref.track)) = db.refs := by
    refine List.filter_eq_self.mpr fun r hr => ?_
    have hne : r.audio_segment_id ≠ ref.audio_segment_id := href.1 ▸ hfresh r hr
    simp [hne]
  refine ⟨(more.filter fun r =>
    !(r.cue_id = ref.cue_id ∧ r.audio_segment_id = ref.audio_segment_id ∧ r.track = ref.track)) ++ [ref], ?_,
    fun r hr => ?_⟩
  · unfold put_ref
    rw [List.filter_append, hkept, List.append_assoc]
  · rcases List.mem_append.mp hr with hr | hr
    · exact hmore r (List.mem_filter.mp hr).1
    · exact List.mem_singleton.mp hr ▸ href

theorem put_refs_adds (hfresh : ∀ r ∈ db.refs, r.audio_segment_id ≠ segment_id) :
    ∃ refs, db.put_refs segment segment_id = { db with refs := refs } ∧ Adds segment segment_id db refs := by
  have hfold {α : Type} (put : Database → α → Database) (items : List α)
      (hput : ∀ a ∈ items, ∀ refs, Adds segment segment_id db refs →
        ∃ refs', put { db with refs := refs } a = { db with refs := refs' } ∧ Adds segment segment_id db refs')
      {refs : List RefRow} (hrefs : Adds segment segment_id db refs) :
      ∃ refs', items.foldl put { db with refs := refs } = { db with refs := refs' } ∧
        Adds segment segment_id db refs' := by
    induction items generalizing refs with
    | nil => exact ⟨refs, rfl, hrefs⟩
    | cons a items ih =>
      obtain ⟨_, hmore, hadds⟩ := hput a List.mem_cons_self refs hrefs
      rw [List.foldl_cons, hmore]
      exact ih (fun a ha => hput a (List.mem_cons_of_mem _ ha)) hadds
  have hnone : Adds segment segment_id db db.refs := ⟨[], by simp, by simp⟩
  unfold put_refs
  split
  · refine hfold _ _ (fun c hc refs hrefs => ⟨_, rfl, hrefs.put hfresh ⟨rfl, rfl, c, (List.mem_filter.mp hc).1, rfl, ?_⟩⟩) hnone
    exact (of_decide_eq_true (List.mem_filter.mp hc).2).1
  · refine hfold _ _ (fun _ _ refs hrefs => ?_) hnone
    unfold put_cue_ref
    split
    · exact ⟨refs, rfl, hrefs⟩
    · next row hrow =>
      refine ⟨_, rfl, hrefs.put hfresh ⟨rfl, rfl, row, List.mem_of_find?_eq_some hrow, rfl, (find_cue_key hrow).1⟩⟩

/-- What an insertion does: a segment and its references are added. -/
theorem insert_adds (h : db.Linked) (hinsert : db.insert_audio_segment segment = some db') :
    db.may_insert segment = true ∧ ∃ refs, Adds segment db.uuids db refs ∧
      db' = Database.update_sessions (fun s => s.id = segment.session_id)
        (fun s => { s with audio_bytes := s.audio_bytes + segment.encrypted_bytes })
        { db with segments := db.segments ++ [new_segment segment db.uuids], uuids := db.uuids + 1, refs := refs } := by
  unfold insert_audio_segment at hinsert
  split at hinsert
  · next hmay =>
    refine ⟨hmay, ?_⟩
    obtain ⟨refs, hrefs, hadds⟩ := @put_refs_adds
      { db with segments := db.segments ++ [new_segment segment db.uuids], uuids := db.uuids + 1 } segment db.uuids
      fun r hr => (h.refs r hr).2.ne
    dsimp only at hinsert
    rw [hrefs] at hinsert
    exact ⟨refs, hadds, (Option.some.inj hinsert).symm⟩
  · cases hinsert

theorem Linked.insert (h : db.Linked) (hkeyed : db.Keyed) (hinsert : db.insert_audio_segment segment = some db') :
    db'.Linked := by
  obtain ⟨-, refs, ⟨_, rfl, hmore⟩, rfl⟩ := insert_adds h hinsert
  refine ⟨h.cues, fun a ha => ?_, fun r hr => ?_, fun r hr c hc hrc a ha hra => ?_⟩
  · rcases List.mem_append.mp ha with ha | ha
    · exact (h.segments a ha).trans (Nat.lt_succ_self _)
    · rw [List.mem_singleton.mp ha]
      exact Nat.lt_succ_self _
  · rcases List.mem_append.mp hr with hr | hr
    · exact ⟨(h.refs r hr).1.trans (Nat.lt_succ_self _), (h.refs r hr).2.trans (Nat.lt_succ_self _)⟩
    · obtain ⟨hsegment, -, c, hc, hid, -⟩ := hmore r hr
      exact ⟨hid ▸ (hkeyed.below c hc).trans (Nat.lt_succ_self _), hsegment ▸ Nat.lt_succ_self _⟩
  · rcases List.mem_append.mp hr with hr | hr
    · rcases List.mem_append.mp ha with ha | ha
      · exact h.same_session r hr c hc hrc a ha hra
      · rw [List.mem_singleton.mp ha] at hra
        exact absurd hra.symm (h.refs r hr).2.ne
    · obtain ⟨hsegment, -, d, hd, hid, hsession⟩ := hmore r hr
      have hsame : c = d := List.inj_on_of_nodup_map hkeyed.nodup hc hd (hrc.trans hid.symm)
      rcases List.mem_append.mp ha with ha | ha
      · exact absurd (hra.trans hsegment) (h.segments a ha).ne
      · rw [List.mem_singleton.mp ha, hsame, hsession]
        rfl

theorem Linked.step (h : db.Linked) (hkeyed : db.Keyed) (op : Op) : (db.step op).Linked := by
  refine step_keeps Linked (fun h _ => h.update _ _) (fun _ which h => h.delete which) h (fun _ _ => ?_)
    (fun _ _ _ _ _ _ h hupsert => h.upsert hupsert) (fun _ _ _ => h.delete_cue _ _)
    fun _ _ hinsert => h.insert hkeyed hinsert
  unfold create_session
  split
  · exact h
  · exact ⟨h.cues, h.segments, h.refs, h.same_session⟩

/-- All that always holds of the tables. -/
structure Consistent (db : Database) : Prop where
  sound : db.Sound
  keyed : db.Keyed
  linked : db.Linked

theorem consistent_empty : Consistent {} := ⟨sound_empty, keyed_empty, linked_empty⟩

theorem Consistent.step (h : db.Consistent) (op : Op) : (db.step op).Consistent :=
  ⟨h.sound.step op, h.keyed.step op, h.linked.step h.keyed op⟩

/-- After any operations, what is read for a cue are valid pieces of segments of its own session. -/
theorem a_cue_reads_from_its_session (ops : List Op) (session_id cue_id track : String) :
    ∃ db, db = run Database.step {} ops ∧ ∀ reads,
      db.cue_audio_segments session_id cue_id track = .ok reads → ∀ read ∈ reads, read.is_valid = true ∧
        ∃ a ∈ db.segments, a.session_id = session_id ∧ a.track = track ∧ a.sequence = read.sequence ∧
          a.encrypted_path = read.encrypted_path := by
  refine ⟨_, rfl, fun reads hreads read hread => ?_⟩
  have h := run_keeps Database.step Consistent (fun _ op h => h.step op) consistent_empty ops
  unfold cue_audio_segments joined at hreads
  dsimp only at hreads
  split at hreads
  · cases hreads
  · rename_i hvalid
    cases hreads
    refine ⟨by simpa using List.find?_eq_none.mp hvalid read hread, ?_⟩
    obtain ⟨row, hrow, hread⟩ := List.mem_flatMap.mp ((List.perm_insertionSort ..).subset hread)
    obtain ⟨r, hr, hread⟩ := List.mem_flatMap.mp hread
    split at hread
    · rename_i href
      obtain ⟨a, ha, rfl⟩ := List.mem_map.mp hread
      simp only [List.mem_filter, decide_eq_true_eq] at hrow ha
      obtain ⟨hrow, hsession, -⟩ := hrow
      obtain ⟨ha, hid, htrack⟩ := ha
      have hsame := h.linked.same_session r hr row hrow href.1.symm a ha hid
      exact ⟨a, ha, hsame.trans hsession, htrack, rfl, rfl⟩
    · cases hread

/-! ## The audio of one cue -/

variable {session_id cue_id track : String}

/-- The session is there and goes on. -/
def Live (session_id : String) (db : Database) : Prop :=
  ∃ s ∈ db.sessions, s.id = session_id ∧ s.ended_at_ms = none ∧ s.status ≠ .deleting

def gap_count (session_id : String) (db : Database) : Nat :=
  ((db.sessions.find? fun s => s.id = session_id).map (·.archive_gap_count)).getD 0

/-- The segments of a track of a session. -/
def track_rows (session_id track : String) (db : Database) : List SegmentRow :=
  db.segments.filter fun a => a.session_id = session_id ∧ a.track = track

/-- What the references to a cue read, as they were put. -/
def cue_reads (session_id cue_id track : String) (db : Database) : List AudioCueSegmentRead :=
  match db.find_cue session_id cue_id with
  | none => []
  | some row => db.joined row track

/-- A change that leaves the session going and the audio of the cue as it is. -/
structure Unmoved (session_id cue_id track : String) (db db' : Database) : Prop where
  live : db'.Live session_id
  gaps : db'.gap_count session_id = db.gap_count session_id
  rows : db'.track_rows session_id track = db.track_rows session_id track
  found : (db.find_cue session_id cue_id).isSome = true → (db'.find_cue session_id cue_id).isSome = true
  reads : db'.cue_reads session_id cue_id track = db.cue_reads session_id cue_id track

theorem Unmoved.refl (h : db.Live session_id) : Unmoved session_id cue_id track db db :=
  ⟨h, rfl, rfl, id, rfl⟩

theorem Unmoved.trans {middle : Database} (h : Unmoved session_id cue_id track db middle)
    (h' : Unmoved session_id cue_id track middle db') : Unmoved session_id cue_id track db db' :=
  ⟨h'.live, h'.gaps.trans h.gaps, h'.rows.trans h.rows, fun hfound => h'.found (h.found hfound),
    h'.reads.trans h.reads⟩

theorem Live.only (hlive : db.Live session_id) (h : db.Sound) :
    ∀ s ∈ db.sessions, s.id = session_id → s.ended_at_ms = none ∧ s.status ≠ .deleting := by
  obtain ⟨_, hin, rfl, hopen, hstatus⟩ := hlive
  intro s hs hid
  rw [List.inj_on_of_nodup_map h.nodup hs hin hid]
  exact ⟨hopen, hstatus⟩

variable {which : SessionRow → Bool}

theorem find_session_update {set : SessionRow → SessionRow} (hid : ∀ s, (set s).id = s.id) :
    (db.update_sessions which set).sessions.find? (fun s => s.id = session_id) =
      (db.sessions.find? fun s => s.id = session_id).map fun s => if which s then set s else s := by
  unfold update_sessions
  rw [List.find?_map]
  congr 2
  funext s
  dsimp only [Function.comp_apply]
  split
  · rw [hid]
  · rfl

/-- An update that leaves the open sessions open and counts no gap. -/
theorem Unmoved.update {set : SessionRow → SessionRow} (hlive : db.Live session_id) (hid : ∀ s, (set s).id = s.id)
    (hgaps : ∀ s, which s = true → s.id = session_id →
      (set s).archive_gap_count = s.archive_gap_count)
    (hopen : ∀ s, which s = true → s.id = session_id → s.ended_at_ms = none → s.status ≠ .deleting →
      (set s).ended_at_ms = none ∧ (set s).status ≠ .deleting) :
    Unmoved session_id cue_id track db (db.update_sessions which set) where
  live := by
    obtain ⟨s, hs, hsid, hended, hstatus⟩ := hlive
    refine ⟨if which s then set s else s, List.mem_map_of_mem hs, ?_⟩
    split
    · next hwhich =>
      exact ⟨(hid s).trans hsid, hopen s hwhich hsid hended hstatus⟩
    · exact ⟨hsid, hended, hstatus⟩
  gaps := by
    unfold gap_count
    rw [find_session_update hid]
    cases hs : db.sessions.find? fun s => s.id = session_id with
    | none => rfl
    | some s =>
      have hsid : s.id = session_id := by simpa using List.find?_some hs
      rw [Option.map_some, Option.map_some, Option.map_some]
      split
      · next hwhich => rw [hgaps s hwhich hsid]
      · rfl
  rows := rfl
  found := id
  reads := rfl

theorem Unmoved.mark (hlive : db.Live session_id) (which : SessionRow → Bool) :
    Unmoved session_id cue_id track db (db.mark_deleting which) :=
  .update hlive (fun _ => rfl) (fun _ _ _ => rfl) fun _ hwhich _ hopen _ => by simp [hopen] at hwhich

theorem flatMap_filter {α β : Type} (keep : α → Bool) (f : α → List β) (l : List α) :
    (l.filter keep).flatMap f = l.flatMap fun a => if keep a then f a else [] := by
  induction l with
  | nil => rfl
  | cons a l ih =>
    rw [List.filter_cons, List.flatMap_cons, ← ih]
    split <;> simp

theorem find?_congr {α : Type} {p q : α → Bool} {l : List α} (h : ∀ a ∈ l, p a = q a) : l.find? p = l.find? q := by
  induction l with
  | nil => rfl
  | cons a l ih =>
    obtain ⟨ha, hl⟩ := List.forall_mem_cons.mp h
    rw [List.find?_cons, List.find?_cons, ha, ih hl]

/-- The references of a row stay with the row and with the segments of its session. -/
theorem joined_cascade (h : db.Linked) {row : CueRow} (hrow : row ∈ db.cues) {cues : List CueRow} (hkept : row ∈ cues)
    {keep : SegmentRow → Bool} (hkeep : ∀ a ∈ db.segments, a.session_id = row.session_id → keep a = true)
    (sessions : List SessionRow) :
    (cascade { db with sessions := sessions, cues := cues, segments := db.segments.filter keep }).joined row track =
      db.joined row track := by
  unfold joined cascade
  rw [flatMap_filter]
  refine List.flatMap_congr fun r hr => ?_
  by_cases hmine : r.cue_id = row.id ∧ r.track = track
  · have hsame : (db.segments.filter keep).filter (fun a => a.id = r.audio_segment_id ∧ a.track = track) =
        db.segments.filter fun a => a.id = r.audio_segment_id ∧ a.track = track := by
      rw [List.filter_filter]
      refine List.filter_congr fun a ha => ?_
      by_cases hread : a.id = r.audio_segment_id ∧ a.track = track
      · simp [hread, hkeep a ha (h.same_session r hr row hrow hmine.1.symm a ha hread.1)]
      · simp [hread]
    rw [hsame]
    split
    · rfl
    · next hdropped =>
      -- a reference without its segment reads nothing
      refine (List.map_eq_nil_iff.mpr (List.filter_eq_nil_iff.mpr fun a ha hread => hdropped ?_)).symm
      obtain ⟨hid, -⟩ := of_decide_eq_true hread
      have hstays := hkeep a ha (h.same_session r hr row hrow hmine.1.symm a ha hid)
      simp only [Bool.and_eq_true, List.any_eq_true, decide_eq_true_eq]
      exact ⟨⟨row, hkept, hmine.1.symm⟩, a, List.mem_filter.mpr ⟨ha, hstays⟩, hid⟩
  · split <;> rfl

theorem cue_reads_of_found {row : CueRow} (hrow : db.find_cue session_id cue_id = some row) :
    db.cue_reads session_id cue_id track = db.joined row track := by
  unfold cue_reads
  rw [hrow]

/-- The rows of a cue's audio are those of the one row of the cue. -/
theorem Linked.cue_rows (h : db.Linked) : (db.cues.filter fun c => c.session_id = session_id ∧ c.cue_id = cue_id).flatMap
    (fun row => db.joined row track) = db.cue_reads session_id cue_id track := by
  unfold cue_reads
  cases hrow : db.find_cue session_id cue_id with
  | none =>
    have hnone : (db.cues.filter fun c => c.session_id = session_id ∧ c.cue_id = cue_id) = [] :=
      List.filter_eq_nil_iff.mpr (List.find?_eq_none.mp hrow)
    rw [hnone]
    rfl
  | some row =>
    obtain ⟨hkey, before, after, hcues, hbefore⟩ := List.find?_eq_some_iff_append.mp hrow
    have hafter : (after.filter fun c => c.session_id = session_id ∧ c.cue_id = cue_id) = [] := by
      refine List.filter_eq_nil_iff.mpr fun c hc hsame => ?_
      have hnodup := h.cues
      rw [hcues, List.map_append, List.map_cons] at hnodup
      obtain ⟨hrow_session, hrow_cue⟩ := of_decide_eq_true hkey
      obtain ⟨hsession, hcue⟩ := of_decide_eq_true hsame
      refine (List.nodup_cons.mp (List.nodup_append.mp hnodup).2.1).1 (List.mem_map.mpr ⟨c, hc, ?_⟩)
      rw [hrow_session, hrow_cue, hsession, hcue]
    have hnothing : (before.filter fun c => c.session_id = session_id ∧ c.cue_id = cue_id) = [] :=
      List.filter_eq_nil_iff.mpr fun c hc => Bool.eq_false_iff.mp ((Bool.not_eq_true' _).mp (hbefore c hc))
    rw [hcues, List.filter_append, hnothing, List.filter_cons_of_pos (by exact hkey), hafter]
    simp

theorem Unmoved.delete (h : db.Consistent) (hlive : db.Live session_id)
    (hspared : ∀ s ∈ db.sessions, s.id = session_id → which s = false) :
    Unmoved session_id cue_id track db (db.delete_sessions which) := by
  obtain ⟨live, hin, hid, hopen⟩ := hlive
  have hone : db.has_one which session_id = false := h.sound.spared hin (hspared live hin hid) hid.symm
  have hfind : (db.delete_sessions which).find_cue session_id cue_id = db.find_cue session_id cue_id := by
    unfold find_cue delete_sessions cascade
    rw [List.find?_filter]
    congr 1
    funext c
    by_cases hkey : c.session_id = session_id ∧ c.cue_id = cue_id
    · simp [hkey, hone]
    · simp [hkey]
  refine ⟨⟨live, List.mem_filter.mpr ⟨hin, by simp [hspared live hin hid]⟩, hid, hopen⟩, ?_, ?_, ?_, ?_⟩
  · have hsessions : (db.delete_sessions which).sessions.find? (fun s => s.id = session_id) =
        db.sessions.find? fun s => s.id = session_id := by
      change (db.sessions.filter fun s => !which s).find? _ = _
      rw [List.find?_filter]
      refine find?_congr fun s hs => ?_
      by_cases hsid : s.id = session_id
      · simp [hsid, hspared s hs hsid]
      · simp [hsid]
    unfold gap_count
    rw [hsessions]
  · change (db.segments.filter fun a => !db.has_one which a.session_id).filter _ = _
    rw [List.filter_filter]
    refine List.filter_congr fun a _ => ?_
    by_cases ha : a.session_id = session_id
    · simp [ha, hone]
    · simp [ha]
  · rw [hfind]
    exact id
  · unfold cue_reads
    rw [hfind]
    cases hrow : db.find_cue session_id cue_id with
    | none => rfl
    | some _ =>
      have hmem := List.mem_of_find?_eq_some hrow
      have hsession := (find_cue_key hrow).1
      refine joined_cascade h.linked hmem (List.mem_filter.mpr ⟨hmem, ?_⟩) (fun a _ ha => ?_) _
      · rw [hsession, hone]
        rfl
      · rw [ha, hsession, hone]
        rfl

theorem Unmoved.create (hlive : db.Live session_id) (id : String) (started_at_ms : Int) :
    Unmoved session_id cue_id track db (db.create_session id started_at_ms) := by
  unfold create_session
  split
  · exact .refl hlive
  · obtain ⟨s, hs, hsid, hopen⟩ := hlive
    refine ⟨⟨s, List.mem_append_left _ hs, hsid, hopen⟩, ?_, rfl, fun h => h, rfl⟩
    have hfound : (db.sessions.find? fun s => s.id = session_id).isSome = true :=
      List.find?_isSome.mpr ⟨s, hs, decide_eq_true hsid⟩
    obtain ⟨_, hfirst⟩ := Option.isSome_iff_exists.mp hfound
    simp only [gap_count, List.find?_append, hfirst, Option.some_or]

theorem joined_congr {row row' : CueRow} (hrefs : db'.refs = db.refs) (hsegments : db'.segments = db.segments)
    (hid : row'.id = row.id) : db'.joined row' track = db.joined row track := by
  unfold joined
  rw [hrefs, hsegments, hid]

section

variable (h : db.Consistent)

include h

section

variable (hlive : db.Live session_id)

include hlive

theorem Unmoved.upsert {cue : CueWrite} {updated_at_ms : Int}
    (hupsert : db.upsert_cue_on cue updated_at_ms = some db') :
    Unmoved session_id cue_id track db db' := by
  have hfind := find_cue_upsert h.keyed hupsert session_id cue_id
  obtain ⟨next, hwrite, rfl⟩ := Option.map_eq_some_iff.mp hupsert
  have htables : next.sessions = db.sessions ∧ next.segments = db.segments ∧ next.refs = db.refs := by
    rcases write_cue_cases hwrite with ⟨row, -, ⟨-, rfl⟩ | ⟨-, rfl⟩⟩ | ⟨-, -, rfl⟩ <;> exact ⟨rfl, rfl, rfl⟩
  obtain ⟨hsessions, hsegments, hrefs⟩ := htables
  have hlive' : next.Live session_id := by
    unfold Live
    rwa [hsessions]
  have hcounted : Unmoved session_id cue_id track next (recount_cues cue.session_id next) :=
    .update hlive' (fun _ => rfl) (fun _ _ _ => rfl) fun _ _ _ hopen hstatus => ⟨hopen, hstatus⟩
  refine .trans ⟨hlive', by rw [gap_count, gap_count, hsessions], by rw [track_rows, track_rows, hsegments], ?_, ?_⟩ hcounted
  · change next.find_cue session_id cue_id = _ at hfind
    rw [hfind]
    split <;> simp
  · change next.find_cue session_id cue_id = _ at hfind
    unfold cue_reads
    rw [hfind]
    by_cases hkey : session_id = cue.session_id ∧ cue_id = cue.cue_id
    · rw [if_pos hkey, hkey.1, hkey.2]
      cases hrow : db.find_cue cue.session_id cue.cue_id with
      | some row => exact joined_congr hrefs hsegments ((written_cases cue updated_at_ms db).2.2 row hrow).1
      | none =>
        -- no reference links to a row that is new
        have hnew : db.written cue updated_at_ms = db.new_cue cue updated_at_ms := by
          unfold written
          rw [hrow]
        rw [hnew]
        refine List.flatMap_eq_nil_iff.mpr fun r hr => if_neg fun hmine => ?_
        rw [hrefs] at hr
        exact absurd hmine.1 (h.linked.refs r hr).1.ne
    · rw [if_neg hkey]
      cases hrow : db.find_cue session_id cue_id with
      | some row => exact joined_congr hrefs hsegments rfl
      | none => rfl

theorem Unmoved.delete_cue {other_session other : String}
    (hother : (other_session, other) ≠ (session_id, cue_id)) :
    Unmoved session_id cue_id track db (db.delete_cue other_session other) := by
  have hfind : (db.delete_cue other_session other).find_cue session_id cue_id = db.find_cue session_id cue_id :=
    find_cue_delete hother
  refine ⟨hlive, rfl, rfl, fun hfound => hfind ▸ hfound, ?_⟩
  unfold cue_reads
  rw [hfind]
  cases hrow : db.find_cue session_id cue_id with
  | none => rfl
  | some row =>
    have hmem := List.mem_of_find?_eq_some hrow
    obtain ⟨hsession, hcue⟩ := find_cue_key hrow
    have hkept : row ∈ db.cues.filter fun c => !(c.session_id = other_session ∧ c.cue_id = other) := by
      refine List.mem_filter.mpr ⟨hmem, ?_⟩
      rw [hsession, hcue]
      simp only [Bool.not_eq_true', decide_eq_false_iff_not]
      exact fun hsame => hother (Prod.ext hsame.1.symm hsame.2.symm)
    have hjoined := @joined_cascade db track h.linked row hmem _ hkept (fun _ => true) (fun _ _ _ => rfl) db.sessions
    rwa [List.filter_eq_self.mpr fun _ _ => rfl] at hjoined

/-- Operations that neither end the session nor report a gap in it, and delete or insert none of what is read. -/
def Harmless (session_id cue_id : String) : Op → Prop
  | .interrupt_active _ => False
  | .end_session id _ => id ≠ session_id
  | .mark_archive_gap id => id ≠ session_id
  | .delete_cue id cue => (id, cue) ≠ (session_id, cue_id)
  | .insert_audio_segment _ => False
  | .create_session _ _ | .upsert_cues_batch _ _ | .delete_session _ _ | .clear _ | .run_retention _ _ _ => True

instance (op : Op) : Decidable (Harmless session_id cue_id op) := by
  cases op <;> unfold Harmless <;> infer_instance

theorem Unmoved.resume (removed : String → Bool) :
    Unmoved session_id cue_id track db (db.resume_deleting_sessions removed) := by
  refine .delete h hlive fun s hs hid => ?_
  simp [(hlive.only h.sound s hs hid).2]

/-- A removal of sessions passes over one that goes on. -/
theorem Unmoved.removal (removed : String → Bool) (which : SessionRow → Bool)
    (now_ms footprint : Int) (progress : Progress) :
    Unmoved session_id cue_id track db ((db.mark_deleting which).resume_deleting_sessions removed) ∧
      Unmoved session_id cue_id track db (db.run_retention now_ms footprint progress) := by
  have hmarked {next : Database} (hnext : next.Consistent) (hgoes : next.Live session_id) (which : SessionRow → Bool)
      (removed : String → Bool) :
      Unmoved session_id cue_id track next ((next.mark_deleting which).resume_deleting_sessions removed) := by
    have hmark : Unmoved session_id cue_id track next (next.mark_deleting which) := .mark hgoes which
    exact hmark.trans (.resume ⟨hnext.sound.mark which, hnext.keyed.update _ _, hnext.linked.update _ _⟩ hmark.live removed)
  refine ⟨hmarked h hlive which removed, ?_⟩
  have hresume : Unmoved session_id cue_id track db (db.resume_deleting_sessions progress.first) :=
    .resume h hlive progress.first
  unfold run_retention
  dsimp only
  split
  · exact hresume
  · exact hresume.trans (hmarked ⟨h.sound.delete _, h.keyed.delete _, h.linked.delete _⟩ hresume.live _ _)

theorem Unmoved.step {op : Op} (hop : Harmless session_id cue_id op) :
    Unmoved session_id cue_id track db (db.step op) := by
  have hremoval := @Unmoved.removal db session_id cue_id track h hlive
  cases op with
  | interrupt_active | insert_audio_segment => exact hop.elim
  | end_session id _ =>
    refine .update hlive (fun _ => rfl) (fun _ _ _ => rfl) fun s hwhich hid _ _ => absurd ?_ hop
    exact (of_decide_eq_true hwhich).1.symm.trans hid
  | mark_archive_gap id =>
    refine .update hlive (fun _ => rfl) (fun s hwhich hid => absurd ?_ hop) fun s _ _ hopen hstatus => ⟨hopen, hstatus⟩
    exact (of_decide_eq_true hwhich).symm.trans hid
  | create_session id started_at_ms => exact .create hlive id started_at_ms
  | upsert_cues_batch cues updated_at_ms =>
    dsimp only [Database.step]
    cases hbatch : db.upsert_cues_batch cues updated_at_ms with
    | none => exact .refl hlive
    | some _ =>
      have hstep (next : Database) (cue : CueWrite) (after : Database)
          (hnext : next.Consistent ∧ Unmoved session_id cue_id track db next)
          (hupsert : upsert_cue_on cue updated_at_ms next = some after) :
          after.Consistent ∧ Unmoved session_id cue_id track db after :=
        ⟨⟨hnext.1.sound.upsert hupsert, hnext.1.keyed.upsert hupsert,
          hnext.1.linked.upsert hupsert⟩, hnext.2.trans (.upsert hnext.1 hnext.2.live hupsert)⟩
      have hkept := batch_keeps hstep ⟨h, .refl hlive⟩ hbatch
      exact hkept.2
  | delete_cue id cue => exact .delete_cue h hlive hop
  | delete_session id removed =>
    dsimp only [Database.step, delete_session]
    split
    · exact (hremoval removed _ 0 0 ⟨removed, 0, removed⟩).1
    · exact .refl hlive
  | clear removed => exact (hremoval removed _ 0 0 ⟨removed, 0, removed⟩).1
  | run_retention now_ms footprint progress => exact (hremoval progress.first (fun _ => true) now_ms footprint progress).2

end

end

/-! ## A new segment of the track -/

/-- The references of one key. -/
def own_refs (row_id segment_id : Nat) (track : String) (db : Database) : List RefRow :=
  db.refs.filter fun r => r.cue_id = row_id ∧ r.audio_segment_id = segment_id ∧ r.track = track

theorem own_refs_put (ref : RefRow) (row_id segment_id : Nat) :
    (db.put_ref ref).own_refs row_id segment_id track =
      if ref.cue_id = row_id ∧ ref.audio_segment_id = segment_id ∧ ref.track = track then [ref]
      else db.own_refs row_id segment_id track := by
  unfold own_refs put_ref
  rw [List.filter_append, List.filter_filter]
  split
  · next hkey =>
    obtain ⟨rfl, rfl, rfl⟩ := hkey
    simp
  · next hkey =>
    have hsame : (db.refs.filter fun r =>
        (decide (r.cue_id = row_id ∧ r.audio_segment_id = segment_id ∧ r.track = track) &&
          !decide (r.cue_id = ref.cue_id ∧ r.audio_segment_id = ref.audio_segment_id ∧ r.track = ref.track))) =
        db.refs.filter fun r => r.cue_id = row_id ∧ r.audio_segment_id = segment_id ∧ r.track = track := by
      refine List.filter_congr fun r _ => ?_
      by_cases hr : r.cue_id = row_id ∧ r.audio_segment_id = segment_id ∧ r.track = track
      · obtain ⟨rfl, rfl, rfl⟩ := hr
        have hother : ¬ (r.cue_id = ref.cue_id ∧ r.audio_segment_id = ref.audio_segment_id ∧ r.track = ref.track) :=
          fun h => hkey ⟨h.1.symm, h.2.1.symm, h.2.2.symm⟩
        simp [hother]
      · simp [hr]
    rw [hsame]
    simp [hkey]

/-- The reference that a span of the cue becomes. -/
def ref_of (row : CueRow) (segment_id : Nat) (track : String) (span : AudioCueRefWrite) : RefRow where
  cue_id := row.id
  audio_segment_id := segment_id
  track := track
  offset_samples := span.offset_samples
  length_samples := span.length_samples

/-- Of the spans of a cue only the last one keeps its reference, for all of them have one key. -/
theorem own_refs_fold (h : db.Keyed) {row : CueRow} (hrow : db.find_cue segment.session_id cue_id = some row)
    (spans : List AudioCueRefWrite) :
    (spans.foldl (put_cue_ref segment segment_id) db).own_refs row.id segment_id segment.track =
      match (spans.filter fun span => span.cue_id = cue_id).getLast? with
      | none => db.own_refs row.id segment_id segment.track
      | some span => [ref_of row segment_id segment.track span] := by
  induction spans generalizing db with
  | nil => rfl
  | cons span spans ih =>
    have hone : (put_cue_ref segment segment_id db span).own_refs row.id segment_id segment.track =
        if span.cue_id = cue_id then [ref_of row segment_id segment.track span]
        else db.own_refs row.id segment_id segment.track := by
      unfold put_cue_ref
      by_cases hcue : span.cue_id = cue_id
      · subst hcue
        rw [hrow, if_pos rfl]
        exact (own_refs_put _ _ _).trans (if_pos ⟨rfl, rfl, rfl⟩)
      · rw [if_neg hcue]
        cases hother : db.find_cue segment.session_id span.cue_id with
        | none => rfl
        | some _ =>
          refine (own_refs_put _ _ _).trans (if_neg fun hkey => hcue ?_)
          have hsame := List.inj_on_of_nodup_map h.nodup (List.mem_of_find?_eq_some hother)
            (List.mem_of_find?_eq_some hrow) hkey.1
          rw [← (find_cue_key hother).2, hsame, (find_cue_key hrow).2]
    have hcues : (put_cue_ref segment segment_id db span).cues = db.cues ∧
        (put_cue_ref segment segment_id db span).uuids = db.uuids := by
      unfold put_cue_ref
      split <;> exact ⟨rfl, rfl⟩
    have hkeyed : (put_cue_ref segment segment_id db span).Keyed := by
      refine ⟨?_, fun c hc => ?_⟩
      · rw [hcues.1]
        exact h.nodup
      · rw [hcues.1] at hc
        rw [hcues.2]
        exact h.below c hc
    have hfind : (put_cue_ref segment segment_id db span).find_cue segment.session_id cue_id = some row := by
      unfold find_cue
      rw [hcues.1]
      exact hrow
    rw [List.foldl_cons, ih hkeyed hfind, hone]
    by_cases hcue : span.cue_id = cue_id
    · have hfilter : ((span :: spans).filter fun span => span.cue_id = cue_id) =
          span :: spans.filter fun span => span.cue_id = cue_id := List.filter_cons_of_pos (by simpa using hcue)
      rw [hfilter, List.getLast?_cons, if_pos hcue]
      cases (spans.filter fun span => span.cue_id = cue_id).getLast? <;> rfl
    · rw [List.filter_cons_of_neg (by simpa using hcue), if_neg hcue]

/-- What a read of the span gives. -/
def read_of (segment : AudioSegmentWrite) (span : AudioCueRefWrite) : AudioCueSegmentRead where
  sequence := segment.sequence
  sample_rate_hz := segment.sample_rate_hz
  encrypted_path := segment.encrypted_path
  offset_samples := span.offset_samples
  length_samples := span.length_samples

/-- What a segment with spans adds to the audio of a cue. -/
structure Extended (session_id cue_id track : String) (segment : AudioSegmentWrite) (db db' : Database) : Prop where
  live : db'.Live session_id
  gaps : db'.gap_count session_id = db.gap_count session_id
  rows : ∃ row, row.sequence = segment.sequence ∧ row.encrypted_path = segment.encrypted_path ∧
    db'.track_rows session_id track = db.track_rows session_id track ++ [row]
  found : db'.find_cue session_id cue_id = db.find_cue session_id cue_id
  reads : (db.find_cue session_id cue_id).isSome = true → db'.cue_reads session_id cue_id track =
    db.cue_reads session_id cue_id track ++
      ((segment.cue_refs.filter fun span => span.cue_id = cue_id).getLast?.map (read_of segment)).toList
  silent : db.find_cue session_id cue_id = none → db'.cue_reads session_id cue_id track = []

theorem Extended.of_insert (h : db.Consistent) (hlive : db.Live segment.session_id) (hspans : segment.cue_refs ≠ [])
    (hinsert : db.insert_audio_segment segment = some db') :
    Extended segment.session_id cue_id segment.track segment db db' := by
  obtain ⟨-, refs, ⟨more, rfl, hmore⟩, hdb'⟩ := insert_adds h.linked hinsert
  have hput : db' = Database.update_sessions (fun s => s.id = segment.session_id)
      (fun s => { s with audio_bytes := s.audio_bytes + segment.encrypted_bytes })
      (segment.cue_refs.foldl (put_cue_ref segment db.uuids)
        { db with segments := db.segments ++ [new_segment segment db.uuids], uuids := db.uuids + 1 }) := by
    unfold insert_audio_segment at hinsert
    split at hinsert
    · rw [← Option.some.inj hinsert]
      dsimp only [put_refs]
      rw [if_neg hspans]
    · cases hinsert
  have hsegments : db'.segments = db.segments ++ [new_segment segment db.uuids] := by rw [hdb']; rfl
  have hrefs : db'.refs = db.refs ++ more := by rw [hdb']; rfl
  have hfind : db'.find_cue segment.session_id cue_id = db.find_cue segment.session_id cue_id := by rw [hdb']; rfl
  have hcharged : Unmoved segment.session_id cue_id segment.track
      { db with segments := db.segments ++ [new_segment segment db.uuids], uuids := db.uuids + 1,
                refs := db.refs ++ more } db' := by
    rw [hdb']
    exact .update hlive (fun _ => rfl) (fun _ _ _ => rfl) fun s _ _ hopen hstatus => ⟨hopen, hstatus⟩
  refine ⟨hcharged.live, hcharged.gaps, ⟨new_segment segment db.uuids, rfl, rfl, ?_⟩, hfind, fun hfound => ?_,
    fun hnone => ?_⟩
  · unfold track_rows
    rw [hsegments, List.filter_append]
    simp [new_segment]
  · obtain ⟨row, hrow⟩ := Option.isSome_iff_exists.mp hfound
    rw [cue_reads_of_found (hfind.trans hrow), cue_reads_of_found hrow]
    -- the segments that the old references read are as they were
    have hold : ∀ r ∈ db.refs, (db'.segments.filter fun a => a.id = r.audio_segment_id ∧ a.track = segment.track) =
        db.segments.filter fun a => a.id = r.audio_segment_id ∧ a.track = segment.track := by
      intro r hr
      have hne : db.uuids ≠ r.audio_segment_id := (h.linked.refs r hr).2.ne'
      rw [hsegments, List.filter_append]
      simp [new_segment, hne]
    have hnew : (db'.segments.filter fun a => a.id = db.uuids ∧ a.track = segment.track) =
        [new_segment segment db.uuids] := by
      have hnone : (db.segments.filter fun a => a.id = db.uuids ∧ a.track = segment.track) = [] := by
        refine List.filter_eq_nil_iff.mpr fun a ha hkey => ?_
        exact (h.linked.segments a ha).ne (of_decide_eq_true hkey).1
      rw [hsegments, List.filter_append, hnone]
      simp [new_segment]
    have hmine : (more.filter fun r => r.cue_id = row.id) =
        ((segment.cue_refs.filter fun span => span.cue_id = cue_id).getLast?.map
          (ref_of row db.uuids segment.track)).toList := by
      have hkeyed : Keyed
          { db with segments := db.segments ++ [new_segment segment db.uuids], uuids := db.uuids + 1 } :=
        ⟨h.keyed.nodup, fun c hc => (h.keyed.below c hc).trans (Nat.lt_succ_self _)⟩
      have howned := @own_refs_fold _ segment db.uuids cue_id hkeyed row hrow segment.cue_refs
      have hrest : own_refs row.id db.uuids segment.track db = [] := by
        refine List.filter_eq_nil_iff.mpr fun r hr hkey => ?_
        exact (h.linked.refs r hr).2.ne (of_decide_eq_true hkey).2.1
      have hall : own_refs row.id db.uuids segment.track db' = more.filter fun r => r.cue_id = row.id := by
        unfold own_refs at hrest ⊢
        rw [hrefs, List.filter_append, hrest, List.nil_append]
        refine List.filter_congr fun r hr => ?_
        obtain ⟨hsegment, htrack, -⟩ := hmore r hr
        simp [hsegment, htrack]
      rw [← hall, hput]
      refine Eq.trans howned ?_
      cases (segment.cue_refs.filter fun span => span.cue_id = cue_id).getLast? with
      | none => exact hrest
      | some span => rfl
    have hjoined : db'.joined row segment.track = (db.refs.flatMap fun r =>
          if r.cue_id = row.id ∧ r.track = segment.track then
            (db'.segments.filter fun a => a.id = r.audio_segment_id ∧ a.track = segment.track).map fun a =>
              { sequence := a.sequence, sample_rate_hz := a.sample_rate_hz, encrypted_path := a.encrypted_path,
                offset_samples := r.offset_samples, length_samples := r.length_samples }
          else []) ++ (more.filter fun r => r.cue_id = row.id).map fun r =>
            { sequence := segment.sequence, sample_rate_hz := segment.sample_rate_hz,
              encrypted_path := segment.encrypted_path, offset_samples := r.offset_samples,
              length_samples := r.length_samples } := by
      unfold joined
      rw [hrefs, List.flatMap_append]
      congr 1
      rw [List.map_eq_flatMap, flatMap_filter]
      refine List.flatMap_congr fun r hr => ?_
      obtain ⟨hsegment, htrack, -⟩ := hmore r hr
      rw [htrack, hsegment, hnew]
      by_cases hcue : r.cue_id = row.id
      · simp [hcue, new_segment]
      · simp [hcue]
    rw [hjoined, hmine]
    congr 1
    · refine List.flatMap_congr fun r hr => ?_
      rw [hold r hr]
    · cases (segment.cue_refs.filter fun span => span.cue_id = cue_id).getLast? <;> rfl
  · unfold cue_reads
    rw [hfind, hnone]

/-! ## A session that goes on -/

/-- The tables are consistent, and the session goes on. -/
structure Goes (session_id : String) (db : Database) : Prop where
  consistent : db.Consistent
  live : db.Live session_id

section

variable (h : db.Goes session_id)

include h

theorem Goes.found : ∃ s, (db.sessions.find? fun s => s.id = session_id) = some s := by
  obtain ⟨s, hs, hid, -⟩ := h.live
  exact Option.isSome_iff_exists.mp (List.find?_isSome.mpr ⟨s, hs, decide_eq_true hid⟩)

theorem Goes.mark : (db.mark_archive_gap session_id).Goes session_id ∧
    (db.mark_archive_gap session_id).gap_count session_id = db.gap_count session_id + 1 := by
  refine ⟨⟨h.consistent.step (.mark_archive_gap session_id), ?_⟩, ?_⟩
  · obtain ⟨s, hs, hid, hopen⟩ := h.live
    exact ⟨{ s with archive_gap_count := s.archive_gap_count + 1 }, List.mem_map.mpr ⟨s, hs, by simp [hid]⟩, hid, hopen⟩
  · obtain ⟨s, hs⟩ := h.found
    have hid : s.id = session_id := by simpa using List.find?_some hs
    unfold gap_count mark_archive_gap
    rw [find_session_update (by intro s; rfl), hs]
    simp [hid]

theorem Goes.retention (now_ms footprint : Int) (progress : Progress) :
    (db.run_retention now_ms footprint progress).Goes session_id ∧
      (db.run_retention now_ms footprint progress).gap_count session_id = db.gap_count session_id := by
  have hunmoved := (@Unmoved.removal db session_id "" "" h.consistent h.live progress.first (fun _ => true) now_ms footprint
    progress).2
  exact ⟨⟨h.consistent.step (.run_retention now_ms footprint progress), hunmoved.live⟩, hunmoved.gaps⟩

theorem Goes.insert (hinsert : db.insert_audio_segment segment = some db') :
    db'.Goes session_id ∧ db'.gap_count session_id = db.gap_count session_id := by
  have hstep : db.step (.insert_audio_segment segment) = db' := by
    change (db.insert_audio_segment segment).getD db = db'
    rw [hinsert, Option.getD_some]
  obtain ⟨-, refs, hdb'⟩ := insert_cases hinsert
  have hcharged : Unmoved session_id "" "" { db with
      segments := db.segments ++ [new_segment segment db.uuids], uuids := db.uuids + 1, refs := refs } db' := by
    rw [hdb']
    exact .update h.live (fun _ => rfl) (fun _ _ _ => rfl) fun _ _ _ hopen hstatus => ⟨hopen, hstatus⟩
  exact ⟨⟨hstep ▸ h.consistent.step (.insert_audio_segment segment), hcharged.live⟩, hcharged.gaps⟩

end

end Database

end omni_translate.history
