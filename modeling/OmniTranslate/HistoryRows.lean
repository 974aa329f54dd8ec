-- The rows of `subtitle_cues`: each has an id of its own, so a snapshot changes
-- the row of its own cue only; a row is replaced by snapshots that are not
-- older, and its place in the archive stays.
import OmniTranslate.HistoryTotals

namespace omni_translate.history

open runs tables

variable {cue : CueWrite} {updated_at_ms : Int}

namespace Database

variable {db db' : Database}

/-- Row ids are given once. -/
structure Keyed (db : Database) : Prop where
  nodup : (db.cues.map (·.id)).Nodup
  below : ∀ c ∈ db.cues, c.id < db.uuids

theorem keyed_empty : Keyed {} := ⟨List.nodup_nil, by simp⟩

theorem Keyed.of_sublist (h : db.Keyed) (hcues : (db'.cues.map (·.id)).Sublist (db.cues.map (·.id)))
    (huuids : db.uuids ≤ db'.uuids) : db'.Keyed where
  nodup := h.nodup.sublist hcues
  below c hc := by
    obtain ⟨old, hold, hid⟩ := List.mem_map.mp (hcues.subset (List.mem_map_of_mem hc))
    exact hid ▸ (h.below old hold).trans_le huuids

theorem rewrite_id (cue : CueWrite) (updated_at_ms : Int) (id : Nat) (c : CueRow) :
    (if c.id = id then rewrite_cue cue updated_at_ms c else c).id = c.id := by
  split <;> rfl

theorem rewrite_ids (cue : CueWrite) (updated_at_ms : Int) (id : Nat) (cues : List CueRow) :
    (cues.map fun c => if c.id = id then rewrite_cue cue updated_at_ms c else c).map (·.id) = cues.map (·.id) := by
  rw [List.map_map]
  exact List.map_congr_left fun c _ => rewrite_id cue updated_at_ms id c

theorem Keyed.write_cue (h : db.Keyed) (hwrite : db.write_cue cue updated_at_ms = some db') :
    db'.Keyed := by
  rcases write_cue_cases hwrite with ⟨_, -, ⟨-, rfl⟩ | ⟨-, rfl⟩⟩ | ⟨-, -, rfl⟩
  · exact h.of_sublist (by rw [rewrite_ids]) (Nat.le_refl _)
  · exact h
  · refine ⟨?_, fun c hc => ?_⟩
    · have hnew : ∀ c ∈ db.cues, c.id ≠ db.uuids := fun c hc => (h.below c hc).ne
      simpa [List.nodup_append, h.nodup, new_cue] using hnew
    · rcases List.mem_append.mp hc with hc | hc
      · exact (h.below c hc).trans (Nat.lt_succ_self _)
      · rw [List.mem_singleton.mp hc]
        exact Nat.lt_succ_self _

theorem Keyed.update (h : db.Keyed) (which : SessionRow → Bool) (set : SessionRow → SessionRow) :
    (db.update_sessions which set).Keyed := ⟨h.nodup, h.below⟩

theorem Keyed.delete (h : db.Keyed) (which : SessionRow → Bool) : (db.delete_sessions which).Keyed :=
  h.of_sublist (List.filter_sublist.map _) (Nat.le_refl _)

theorem Keyed.upsert (h : db.Keyed) (hupsert : db.upsert_cue_on cue updated_at_ms = some db') :
    db'.Keyed := by
  obtain ⟨_, hwrite, rfl⟩ := Option.map_eq_some_iff.mp hupsert
  exact (h.write_cue hwrite).update _ _

theorem Keyed.step (h : db.Keyed) (op : Op) : (db.step op).Keyed := by
  refine step_keeps Keyed (fun h _ => h.update _ _) (fun _ which h => h.delete which) h (fun _ _ => ?_)
    (fun _ _ _ _ _ _ h hupsert => h.upsert hupsert)
    (fun _ _ _ => h.of_sublist (List.filter_sublist.map _) (Nat.le_refl _)) fun _ _ hinsert => ?_
  · unfold create_session
    split
    · exact h
    · exact ⟨h.nodup, h.below⟩
  · obtain ⟨-, _, rfl⟩ := insert_cases hinsert
    exact h.of_sublist (List.Sublist.refl _) (Nat.le_succ _)

/-! ## The row of a cue -/

theorem find_cue_key {session_id cue_id : String} {row : CueRow} (h : db.find_cue session_id cue_id = some row) :
    row.session_id = session_id ∧ row.cue_id = cue_id := by
  simpa using List.find?_some h

theorem find_cue_delete {session_id cue_id : String} {key : String × String} (hother : (session_id, cue_id) ≠ key) :
    (db.delete_cue session_id cue_id).find_cue key.1 key.2 = db.find_cue key.1 key.2 := by
  unfold find_cue delete_cue cascade
  rw [List.find?_filter]
  congr 1
  funext c
  by_cases hkey : c.session_id = key.1 ∧ c.cue_id = key.2
  · have hkept : ¬ (key.1 = session_id ∧ key.2 = cue_id) := fun h => hother (Prod.ext h.1.symm h.2.symm)
    simp only [hkey]
    simp [hkept]
  · simp [hkey]

/-- The row that the cue has after it was written. -/
def written (cue : CueWrite) (updated_at_ms : Int) (db : Database) : CueRow :=
  match db.find_cue cue.session_id cue.cue_id with
  | some row =>
    if pair_ge (cue.revision, cue.sequence) (row.runtime_revision, row.runtime_sequence) then
      rewrite_cue cue updated_at_ms row
    else row
  | none => db.new_cue cue updated_at_ms

/-- A snapshot writes the row of its cue, and leaves those of the other cues. -/
theorem find_cue_write (h : db.Keyed) (hwrite : db.write_cue cue updated_at_ms = some db')
    (session_id cue_id : String) :
    db'.find_cue session_id cue_id =
      if session_id = cue.session_id ∧ cue_id = cue.cue_id then some (db.written cue updated_at_ms)
      else db.find_cue session_id cue_id := by
  unfold written
  rcases write_cue_cases hwrite with ⟨row, hrow, ⟨hge, rfl⟩ | ⟨hlt, rfl⟩⟩ | ⟨hnew, -, rfl⟩
  · have hfound : find_cue session_id cue_id
        { db with cues := db.cues.map fun c => if c.id = row.id then rewrite_cue cue updated_at_ms c else c } =
          (db.find_cue session_id cue_id).map fun c => if c.id = row.id then rewrite_cue cue updated_at_ms c else c := by
      unfold find_cue
      rw [List.find?_map]
      congr 2
      funext c
      dsimp only [Function.comp_apply]
      split <;> rfl
    rw [hfound, hrow]
    split
    · next hkey => simp [hkey, hrow, hge]
    · next hkey =>
      cases hother : db.find_cue session_id cue_id with
      | none => rfl
      | some other =>
        have hne : other.id ≠ row.id := by
          intro hid
          have hsame := List.inj_on_of_nodup_map h.nodup (List.mem_of_find?_eq_some hother)
            (List.mem_of_find?_eq_some hrow) hid
          have hokey := find_cue_key hother
          have hrkey := find_cue_key hrow
          exact hkey ⟨by rw [← hokey.1, hsame, hrkey.1], by rw [← hokey.2, hsame, hrkey.2]⟩
        simp [hne]
  · rw [hrow]
    simp only [hlt]
    split
    · next hkey => simpa [hkey] using hrow
    · rfl
  · unfold find_cue at hnew ⊢
    rw [List.find?_append]
    split
    · next hkey =>
      rw [hkey.1, hkey.2, hnew]
      simp [new_cue]
    · next hkey =>
      have hnone : [db.new_cue cue updated_at_ms].find? (fun c => c.session_id = session_id ∧ c.cue_id = cue_id) = none := by
        refine List.find?_eq_none.mpr fun c hc hcue => hkey ?_
        rw [List.mem_singleton.mp hc] at hcue
        have hsame : cue.session_id = session_id ∧ cue.cue_id = cue_id := of_decide_eq_true hcue
        exact ⟨hsame.1.symm, hsame.2.symm⟩
      rw [hnone, Option.or_none]

theorem find_cue_upsert (h : db.Keyed) (hupsert : db.upsert_cue_on cue updated_at_ms = some db')
    (session_id cue_id : String) :
    db'.find_cue session_id cue_id =
      if session_id = cue.session_id ∧ cue_id = cue.cue_id then some (db.written cue updated_at_ms)
      else db.find_cue session_id cue_id := by
  obtain ⟨written, hwrite, rfl⟩ := Option.map_eq_some_iff.mp hupsert
  exact find_cue_write h hwrite session_id cue_id

/-- The session of the cue exists, or the write violates the foreign key. -/
theorem upsert_isSome_iff (h : db.Sound) (cue : CueWrite) (updated_at_ms : Int) :
    (db.upsert_cue_on cue updated_at_ms).isSome = db.has_session cue.session_id := by
  unfold upsert_cue_on write_cue
  cases hfound : db.find_cue cue.session_id cue.cue_id with
  | some row =>
    have hsession := h.cues_in row (List.mem_of_find?_eq_some hfound)
    rw [(find_cue_key hfound).1] at hsession
    rw [hsession]
    dsimp only
    split <;> rfl
  | none =>
    cases db.has_session cue.session_id <;> simp

theorem has_session_upsert (hupsert : db.upsert_cue_on cue updated_at_ms = some db')
    (session_id : String) : db'.has_session session_id = db.has_session session_id := by
  obtain ⟨_, hwrite, rfl⟩ := Option.map_eq_some_iff.mp hupsert
  refine (has_session_update (by intro s; rfl) session_id).trans ?_
  unfold has_session
  rw [write_cue_sessions hwrite]

/-- A batch is written when the session of each of its cues exists. -/
theorem batch_isSome_iff (h : db.Sound) (cues : List CueWrite) (updated_at_ms : Int) :
    (db.upsert_cues_batch cues updated_at_ms).isSome = cues.all fun cue => db.has_session cue.session_id := by
  unfold upsert_cues_batch
  induction cues generalizing db with
  | nil => rfl
  | cons cue cues ih =>
    rw [List.foldlM_cons, List.all_cons, ← upsert_isSome_iff h cue updated_at_ms]
    cases hupsert : db.upsert_cue_on cue updated_at_ms with
    | none => rfl
    | some _ =>
      rw [Option.bind_eq_bind, Option.bind_some, ih (h.upsert hupsert)]
      congr 1
      funext other
      exact has_session_upsert hupsert _

/-! ## Newer and older -/

theorem pair_ge_iff (a b : Int × Int) : pair_ge a b = true ↔ b.1 < a.1 ∨ (b.1 = a.1 ∧ b.2 ≤ a.2) := by
  simp [pair_ge]

theorem pair_ge_refl (a : Int × Int) : pair_ge a a = true := by
  simp [pair_ge_iff]

theorem pair_ge_trans {a b c : Int × Int} (hab : pair_ge a b = true) (hbc : pair_ge b c = true) :
    pair_ge a c = true := by
  rw [pair_ge_iff] at *
  omega

theorem pair_ge_total {a b : Int × Int} (h : pair_ge a b = false) : pair_ge b a = true := by
  rw [Bool.eq_false_iff, Ne, pair_ge_iff] at h
  rw [pair_ge_iff]
  omega

def CueWrite.order (cue : CueWrite) : Int × Int := (cue.revision, cue.sequence)

end Database

def CueRow.order (row : CueRow) : Int × Int := (row.runtime_revision, row.runtime_sequence)

/-- The row holds this snapshot. -/
structure CueRow.Holds (row : CueRow) (cue : Database.CueWrite) : Prop where
  runtime_revision : row.runtime_revision = cue.revision
  runtime_sequence : row.runtime_sequence = cue.sequence
  route_direction : row.route_direction = cue.route_direction
  source_text : row.source_text = cue.source_text
  translated_text : row.translated_text = cue.translated_text
  source_committed : row.source_committed = cue.source_committed
  translation_committed : row.translation_committed = cue.translation_committed
  started_at_ms : row.started_at_ms = cue.started_at_ms
  ended_at_ms : row.ended_at_ms = cue.ended_at_ms

/-- The same row, in the same place. -/
def CueRow.SamePlace (a b : CueRow) : Prop := a.id = b.id ∧ a.session_id = b.session_id ∧ a.sequence = b.sequence

theorem CueRow.SamePlace.trans {a b c : CueRow} (hab : a.SamePlace b) (hbc : b.SamePlace c) : a.SamePlace c :=
  ⟨hab.1.trans hbc.1, hab.2.1.trans hbc.2.1, hab.2.2.trans hbc.2.2⟩

/-- Only a batch writes cues. -/
def Op.writes_cues : Op → Bool
  | .upsert_cues_batch _ _ => true
  | _ => false

theorem CueRow.Holds.order {row : CueRow} {cue : Database.CueWrite} (h : row.Holds cue) : row.order = cue.order := by
  unfold CueRow.order Database.CueWrite.order
  rw [h.runtime_revision, h.runtime_sequence]

namespace Database

variable {db db' : Database}

/-- The row that a snapshot leaves holds that snapshot, or is the older row, which is not older; a row that was
there keeps its id and its place. -/
theorem written_cases (cue : CueWrite) (updated_at_ms : Int) (db : Database) :
    pair_ge (db.written cue updated_at_ms).order cue.order = true ∧
      ((db.written cue updated_at_ms).Holds cue ∨
        db.find_cue cue.session_id cue.cue_id = some (db.written cue updated_at_ms)) ∧
      ∀ row, db.find_cue cue.session_id cue.cue_id = some row →
        (db.written cue updated_at_ms).id = row.id ∧ (db.written cue updated_at_ms).sequence = row.sequence ∧
          pair_ge (db.written cue updated_at_ms).order row.order = true := by
  unfold written
  cases hfound : db.find_cue cue.session_id cue.cue_id with
  | none => exact ⟨pair_ge_refl _, .inl ⟨rfl, rfl, rfl, rfl, rfl, rfl, rfl, rfl, rfl⟩, nofun⟩
  | some row =>
    dsimp only
    split
    · next hge =>
      refine ⟨pair_ge_refl _, .inl ⟨rfl, rfl, rfl, rfl, rfl, rfl, rfl, rfl, rfl⟩, ?_⟩
      rintro _ ⟨⟩
      exact ⟨rfl, rfl, hge⟩
    · next hlt =>
      refine ⟨pair_ge_total (Bool.eq_false_of_not_eq_true hlt), .inr rfl, ?_⟩
      rintro _ ⟨⟩
      exact ⟨rfl, rfl, pair_ge_refl _⟩

/-- What a batch does to the row of a cue. The row is the older one, or holds a snapshot of the batch; it is not
older than any of them, and a row that was there keeps its id and its place. -/
theorem batch_row (h : db.Keyed) {cues : List CueWrite}
    (hbatch : db.upsert_cues_batch cues updated_at_ms = some db') (session_id cue_id : String) :
    (∀ cue ∈ cues, cue.session_id = session_id → cue.cue_id = cue_id →
        ∃ row, db'.find_cue session_id cue_id = some row ∧ pair_ge row.order cue.order = true) ∧
      (∀ row, db'.find_cue session_id cue_id = some row → db.find_cue session_id cue_id = some row ∨
        ∃ cue ∈ cues, cue.session_id = session_id ∧ cue.cue_id = cue_id ∧ row.Holds cue) ∧
      ∀ row, db.find_cue session_id cue_id = some row → ∃ row', db'.find_cue session_id cue_id = some row' ∧
        row'.id = row.id ∧ row'.sequence = row.sequence ∧ pair_ge row'.order row.order = true := by
  unfold upsert_cues_batch at hbatch
  induction cues generalizing db with
  | nil =>
    obtain rfl := Option.some.inj hbatch
    exact ⟨nofun, fun row hrow => .inl hrow, fun row hrow => ⟨row, hrow, rfl, rfl, pair_ge_refl _⟩⟩
  | cons cue cues ih =>
    rw [List.foldlM_cons, Option.bind_eq_bind, Option.bind_eq_some_iff] at hbatch
    obtain ⟨_, hnext, hrest⟩ := hbatch
    obtain ⟨hge, hfrom, hkeeps⟩ := ih (h.upsert hnext) hrest
    have hrow := find_cue_upsert h hnext session_id cue_id
    obtain ⟨hnew, hholds, hold⟩ := written_cases cue updated_at_ms db
    by_cases hkey : session_id = cue.session_id ∧ cue_id = cue.cue_id
    · rw [if_pos hkey] at hrow
      obtain ⟨rfl, rfl⟩ := hkey
      obtain ⟨last, hlast, hid, hsequence, hlater⟩ := hkeeps _ hrow
      refine ⟨fun other hother hs hc => ?_, fun row hfound => ?_, fun row hfound => ?_⟩
      · rcases List.mem_cons.mp hother with rfl | hother
        · exact ⟨last, hlast, pair_ge_trans hlater hnew⟩
        · exact hge other hother hs hc
      · rcases hfrom row hfound with hfirst | ⟨other, hother, hs, hc, hheld⟩
        · obtain rfl : db.written cue updated_at_ms = row := Option.some.inj (hrow.symm.trans hfirst)
          rcases hholds with hheld | hold
          · exact .inr ⟨cue, List.mem_cons_self, rfl, rfl, hheld⟩
          · exact .inl hold
        · exact .inr ⟨other, List.mem_cons_of_mem _ hother, hs, hc, hheld⟩
      · obtain ⟨hid', hsequence', hlater'⟩ := hold row hfound
        exact ⟨last, hlast, hid.trans hid', hsequence.trans hsequence', pair_ge_trans hlater hlater'⟩
    · rw [if_neg hkey] at hrow
      refine ⟨fun other hother hs hc => ?_, fun row hfound => ?_, fun row hfound => hkeeps row (hrow.trans hfound)⟩
      · rcases List.mem_cons.mp hother with rfl | hother
        · exact absurd ⟨hs.symm, hc.symm⟩ hkey
        · exact hge other hother hs hc
      · rcases hfrom row hfound with hfirst | ⟨other, hother, hs, hc, hheld⟩
        · exact .inl (hrow.symm.trans hfirst)
        · exact .inr ⟨other, List.mem_cons_of_mem _ hother, hs, hc, hheld⟩

/-! ## Places -/

theorem lt_next_sequence {sequences : List Int} {n : Int} (h : n ∈ sequences) : n < next_sequence sequences := by
  unfold next_sequence
  obtain ⟨m, hm⟩ := Option.isSome_iff_exists.mp (List.isSome_max?_of_mem h)
  have hle : n ≤ m := (List.max?_le_iff hm).mp (le_refl m) n h
  rw [hm, Option.getD_some]
  omega

theorem rewrite_place (cue : CueWrite) (updated_at_ms : Int) (id : Nat) (c : CueRow) :
    CueRow.SamePlace c (if c.id = id then rewrite_cue cue updated_at_ms c else c) := by
  split <;> exact ⟨rfl, rfl, rfl⟩

/-- No row loses its place, and a new one comes after those of its session. -/
theorem write_places (hwrite : db.write_cue cue updated_at_ms = some db') :
    (∀ c ∈ db.cues, ∃ c' ∈ db'.cues, CueRow.SamePlace c c') ∧
      ∀ c' ∈ db'.cues, (∃ c ∈ db.cues, CueRow.SamePlace c c') ∨
        ∀ c ∈ db.cues, c.session_id = c'.session_id → c.sequence < c'.sequence := by
  rcases write_cue_cases hwrite with ⟨_, -, ⟨-, rfl⟩ | ⟨-, rfl⟩⟩ | ⟨-, -, rfl⟩
  · refine ⟨fun c hc => ⟨_, List.mem_map_of_mem hc, rewrite_place _ _ _ _⟩, fun c' hc' => .inl ?_⟩
    obtain ⟨c, hc, rfl⟩ := List.mem_map.mp hc'
    exact ⟨c, hc, rewrite_place _ _ _ _⟩
  · exact ⟨fun c hc => ⟨c, hc, rfl, rfl, rfl⟩, fun c' hc' => .inl ⟨c', hc', rfl, rfl, rfl⟩⟩
  · refine ⟨fun c hc => ⟨c, List.mem_append_left _ hc, rfl, rfl, rfl⟩, fun c' hc' => ?_⟩
    rcases List.mem_append.mp hc' with hc' | hc'
    · exact .inl ⟨c', hc', rfl, rfl, rfl⟩
    · refine .inr fun c hc hsession => ?_
      rw [List.mem_singleton.mp hc'] at hsession ⊢
      exact lt_next_sequence (List.mem_map_of_mem (List.mem_filter.mpr ⟨hc, decide_eq_true hsession⟩))

theorem batch_places {cues : List CueWrite}
    (hbatch : db.upsert_cues_batch cues updated_at_ms = some db') :
    ∀ c' ∈ db'.cues, (∃ c ∈ db.cues, CueRow.SamePlace c c') ∨
      ∀ c ∈ db.cues, c.session_id = c'.session_id → c.sequence < c'.sequence := by
  unfold upsert_cues_batch at hbatch
  induction cues generalizing db with
  | nil =>
    obtain rfl := Option.some.inj hbatch
    exact fun c' hc' => .inl ⟨c', hc', rfl, rfl, rfl⟩
  | cons _ cues ih =>
    rw [List.foldlM_cons, Option.bind_eq_bind, Option.bind_eq_some_iff] at hbatch
    obtain ⟨_, hnext, hrest⟩ := hbatch
    obtain ⟨_, hwrite, rfl⟩ := Option.map_eq_some_iff.mp hnext
    obtain ⟨hkeeps, hfrom⟩ := write_places hwrite
    intro c' hc'
    rcases ih hrest c' hc' with ⟨c, hc, hsame⟩ | hafter
    · rcases hfrom c hc with ⟨old, hold, hplace⟩ | hafter
      · exact .inl ⟨old, hold, hplace.trans hsame⟩
      · refine .inr fun old hold hsession => hsame.2.2 ▸ hafter old hold (hsession.trans hsame.2.1.symm)
    · refine .inr fun old hold hsession => ?_
      obtain ⟨c, hc, hplace⟩ := hkeeps old hold
      exact hplace.2.2 ▸ hafter c hc (hplace.2.1.symm.trans hsession)

theorem step_cues_subset (db : Database) {op : Op} (hop : op.writes_cues = false) : (db.step op).cues ⊆ db.cues := by
  refine step_keeps (fun db' => db'.cues ⊆ db.cues) (fun h _ => h) (fun _ _ h c hc => h (List.mem_filter.mp hc).1)
    (List.Subset.refl _) (fun _ _ => ?_) ?_ (fun _ _ _ c hc => (List.mem_filter.mp hc).1) fun _ _ hinsert => ?_
  · unfold create_session
    split <;> exact List.Subset.refl _
  · rintro cues updated_at_ms rfl
    cases hop
  · obtain ⟨-, _, rfl⟩ := insert_cases hinsert
    exact List.Subset.refl _

end Database

end omni_translate.history
