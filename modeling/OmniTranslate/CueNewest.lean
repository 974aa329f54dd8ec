-- The archive keeps the newest snapshot of a cue. A snapshot that the worker has
-- taken is pending, or stored, or there is a newer one that is; a flush that
-- succeeds moves what is pending into the row, and the row keeps its place.
import OmniTranslate.CueFlushes
import OmniTranslate.Maps

namespace omni_translate.history

open runs maps
open Database (pair_ge pair_ge_refl pair_ge_trans)

namespace QueuedCue

variable {a b : QueuedCue}

/-- Its revision and its sequence are below 2^63. -/
def Fits (queued : QueuedCue) : Prop := (queued.revision : Int) ≤ I64_MAX ∧ (queued.sequence : Int) ≤ I64_MAX

/-- The order of the archive. -/
def order (queued : QueuedCue) : Int × Int := (queued.revision, queued.sequence)

theorem write_order (h : a.Fits) : a.write.order = a.order := by
  have hzero : to_i64 0 = 0 := by decide
  have hmap (value : Option Nat) : (value.map to_i64).getD 0 = to_i64 (value.getD 0) := by
    cases value <;> simp [hzero]
  unfold Database.CueWrite.order write order
  rw [hmap, hmap]
  exact Prod.ext (if_pos h.1) (if_pos h.2)

theorem order_ge_iff : a.order_ge b = true ↔ b.revision < a.revision ∨ (b.revision = a.revision ∧
    (b.sequence < a.sequence ∨ (b.sequence = a.sequence ∧ b.updated_at_ms ≤ a.updated_at_ms))) := by
  simp [order_ge]

theorem pair_ge_of_order_ge (h : a.order_ge b = true) : pair_ge a.order b.order = true := by
  rw [order_ge_iff] at h
  rw [Database.pair_ge_iff]
  simp only [order]
  omega

theorem pair_ge_of_not_order_ge (h : ¬ a.order_ge b = true) : pair_ge b.order a.order = true := by
  rw [order_ge_iff] at h
  rw [Database.pair_ge_iff]
  simp only [order]
  omega

end QueuedCue

/-! ## The maps keep the newest snapshot -/

def Keyed (m : CueMap) : Prop := ∀ key held, m.lookup key = some held → held.key = key

/-- A snapshot that is not older is held under the same key. -/
def Covers (m : CueMap) (queued : QueuedCue) : Prop :=
  ∃ held, m.lookup queued.key = some held ∧ pair_ge held.order queued.order = true

section

variable {m : CueMap} {cue queued : QueuedCue} {key : String × String}

/-- The map holds the newer of the two under the key of the snapshot, and the other keys as before. -/
theorem insert_latest_cases (m : CueMap) (cue : QueuedCue) :
    (∃ held, (insert_latest_cue m cue).lookup cue.key = some held ∧ (held = cue ∨ m.lookup cue.key = some held) ∧
        pair_ge held.order cue.order = true ∧
        ∀ old, m.lookup cue.key = some old → pair_ge held.order old.order = true) ∧
      ∀ key, key ≠ cue.key → (insert_latest_cue m cue).lookup key = m.lookup key := by
  unfold insert_latest_cue
  cases hold : m.lookup cue.key with
  | none =>
    refine ⟨⟨cue, AList.lookup_insert m, .inl rfl, pair_ge_refl _, nofun⟩, fun key hkey => ?_⟩
    exact AList.lookup_insert_ne hkey
  | some old =>
    dsimp only
    split
    · next hnewer =>
      refine ⟨⟨cue, AList.lookup_insert m, .inl rfl, pair_ge_refl _, ?_⟩, fun key hkey => ?_⟩
      · rintro _ ⟨⟩
        exact QueuedCue.pair_ge_of_order_ge hnewer
      · exact AList.lookup_insert_ne hkey
    · next holder =>
      refine ⟨⟨old, hold, .inr rfl, QueuedCue.pair_ge_of_not_order_ge holder, ?_⟩, fun _ _ => rfl⟩
      rintro _ ⟨⟩
      exact pair_ge_refl _

theorem Covers.newer (h : Covers m queued) (hkey : cue.key = queued.key)
    (hge : pair_ge queued.order cue.order = true) : Covers m cue := by
  obtain ⟨held, hheld, hnewer⟩ := h
  exact ⟨held, hkey ▸ hheld, pair_ge_trans hnewer hge⟩

theorem insert_covers (m : CueMap) (cue : QueuedCue) : Covers (insert_latest_cue m cue) cue := by
  obtain ⟨⟨held, hheld, -, hge, -⟩, -⟩ := insert_latest_cases m cue
  exact ⟨held, hheld, hge⟩

theorem Covers.insert (h : Covers m queued) (cue : QueuedCue) : Covers (insert_latest_cue m cue) queued := by
  obtain ⟨⟨held, hheld, -, -, hold⟩, hother⟩ := insert_latest_cases m cue
  obtain ⟨old, hfound, hge⟩ := h
  by_cases hkey : queued.key = cue.key
  · rw [hkey] at hfound
    exact ⟨held, hkey ▸ hheld, pair_ge_trans (hold old hfound) hge⟩
  · exact ⟨old, (hother _ hkey).trans hfound, hge⟩

theorem insert_from (h : (insert_latest_cue m cue).lookup key = some queued) :
    m.lookup key = some queued ∨ (queued = cue ∧ cue.key = key) := by
  obtain ⟨⟨_, hheld, hfrom, -, -⟩, hother⟩ := insert_latest_cases m cue
  by_cases hkey : key = cue.key
  · rw [hkey, hheld] at h
    obtain rfl := Option.some.inj h
    rcases hfrom with rfl | hold
    · exact .inr ⟨rfl, hkey.symm⟩
    · exact .inl (hkey ▸ hold)
  · exact .inl ((hother key hkey) ▸ h)

theorem Keyed.insert (h : Keyed m) (cue : QueuedCue) : Keyed (insert_latest_cue m cue) := by
  intro key held hheld
  rcases insert_from hheld with hold | ⟨rfl, hkey⟩
  · exact h key held hold
  · exact hkey

/-! ## Many snapshots at once -/

theorem insert_all_covers (cues : List QueuedCue) (m : CueMap) (hqueued : queued ∈ cues ∨ Covers m queued) :
    Covers (cues.foldl insert_latest_cue m) queued := by
  induction cues generalizing m with
  | nil => exact hqueued.resolve_left List.not_mem_nil
  | cons cue cues ih =>
    refine ih _ ?_
    rcases hqueued with hmem | hcovers
    · rcases List.mem_cons.mp hmem with rfl | hmem
      · exact .inr (insert_covers m queued)
      · exact .inl hmem
    · exact .inr (hcovers.insert cue)

theorem insert_all_from (cues : List QueuedCue) (m : CueMap)
    (h : (cues.foldl insert_latest_cue m).lookup key = some queued) :
    m.lookup key = some queued ∨ (queued ∈ cues ∧ queued.key = key) := by
  induction cues generalizing m with
  | nil => exact .inl h
  | cons _ cues ih =>
    rcases ih _ h with hold | ⟨hmem, hkey⟩
    · rcases insert_from hold with hold | ⟨rfl, hkey⟩
      · exact .inl hold
      · exact .inr ⟨List.mem_cons_self, hkey⟩
    · exact .inr ⟨List.mem_cons_of_mem _ hmem, hkey⟩

theorem Keyed.insert_all (h : Keyed m) (cues : List QueuedCue) : Keyed (cues.foldl insert_latest_cue m) := by
  intro key held hheld
  rcases insert_all_from cues m hheld with hold | ⟨-, hkey⟩
  · exact h key held hold
  · exact hkey

theorem mem_values (h : Keyed m) : queued ∈ values m ↔ m.lookup queued.key = some queued := by
  constructor
  · intro hmem
    obtain ⟨⟨key, held⟩, hentry, rfl⟩ := List.mem_map.mp hmem
    have hfound : m.lookup key = some held := AList.mem_lookup_iff.mpr hentry
    rw [h key held hfound]
    exact hfound
  · intro hfound
    exact List.mem_map.mpr ⟨_, AList.mem_lookup_iff.mp hfound, rfl⟩

end

def CueStep.sent : CueStep → List QueuedCue
  | .send_cue cue => [cue]
  | _ => []

namespace CueWorker

variable {w : CueWorker} {key : String × String} {S T : List QueuedCue}

/-! ## Flushes and their outcome -/

/-- A flush finds nothing to write, or writes the batch, or fails; a failed flush keeps what is pending as long as
the repository is there. -/
theorem flush_outcome (w : CueWorker) (hash : HashOrder) (updated_at_ms : Int) (failure : Option String) :
    (values w.pending = [] ∧ w.flush_pending_cues hash updated_at_ms failure = (.ok (), w)) ∨
      (∃ repository, w.unavailable_reason = none ∧
        w.repository.upsert_cues_batch ((w.batch hash).map (·.write)) updated_at_ms = some repository ∧
        w.flush_pending_cues hash updated_at_ms failure =
          (.ok (), { w with repository := repository, pending := ∅ })) ∨
      ∃ error failed, w.flush_pending_cues hash updated_at_ms failure = (.error error, failed) ∧
        failed.cue_rx = w.cue_rx ∧ failed.cue_overflow = w.cue_overflow ∧ failed.repository = w.repository ∧
        ((failed.unavailable_reason = none ∧ w.unavailable_reason = none ∧ failed.pending = w.pending) ∨
          (failed.unavailable_reason ≠ none ∧ failed.pending = ∅)) := by
  have hfailed (error : String) : ∃ failed, w.flush_failed error = failed ∧
      failed.cue_rx = w.cue_rx ∧ failed.cue_overflow = w.cue_overflow ∧ failed.repository = w.repository ∧
        ((failed.unavailable_reason = none ∧ w.unavailable_reason = none ∧ failed.pending = w.pending) ∨
          (failed.unavailable_reason ≠ none ∧ failed.pending = ∅)) := by
    unfold flush_failed disable_history_after_unrecoverable_error
    rcases hreason : w.unavailable_reason with _ | reason
    · by_cases herror : is_unrecoverable_database_error error = true <;> simp [herror, hreason]
    · simp [hreason]
  unfold flush_pending_cues
  by_cases hempty : w.pending.entries.isEmpty = true
  · rw [if_pos hempty]
    exact .inl ⟨pending_empty.mp hempty, rfl⟩
  · rw [if_neg hempty]
    refine .inr ?_
    rcases hwrite : w.write_batch (w.batch hash) updated_at_ms failure with error | repository
    · obtain ⟨failed, hsame, hrest⟩ := hfailed error
      exact .inr ⟨error, failed, by rw [← hsame], hrest⟩
    · refine .inl ⟨repository, ?_⟩
      unfold write_batch at hwrite
      rcases hreason : w.unavailable_reason with _ | reason
      · rcases failure with _ | error
        · simp only [hreason] at hwrite
          split at hwrite
          · cases hwrite
          · next hbatch =>
            rw [hbatch]
            exact ⟨rfl, congrArg some (Except.ok.inj hwrite), rfl⟩
        · simp [hreason] at hwrite
      · simp [hreason] at hwrite

/-! ## What is sent and what the worker takes -/

/-- The snapshots that a step takes out of the channel and the overflow map. -/
def taken (w : CueWorker) : CueStep → List QueuedCue
  | .receive_cue => w.cue_rx.take 1
  | .drain_cue_overflow hash => hash.order (values w.cue_overflow)
  | .drain_latest_cues hash | .discard_queued_cue hash _ _ => w.cue_rx ++ hash.order (values w.cue_overflow)
  | _ => []

def all_taken (w : CueWorker) : List CueStep → List QueuedCue
  | [] => []
  | op :: ops => w.taken op ++ all_taken (w.step op) ops

theorem all_taken_snoc (w : CueWorker) (ops : List CueStep) (op : CueStep) :
    w.all_taken (ops ++ [op]) = w.all_taken ops ++ (run CueWorker.step w ops).taken op := by
  induction ops generalizing w with
  | nil => simp [all_taken]
  | cons _ ops ih => simp [all_taken, ih]

/-- A snapshot of the channel or the overflow map. -/
def Waits (w : CueWorker) (queued : QueuedCue) : Prop := queued ∈ w.cue_rx ∨ queued ∈ values w.cue_overflow

/-- The step leaves the row of this cue to the flushes, and takes none of its snapshots out of the maps. -/
def Spares (key : String × String) (w : CueWorker) : CueStep → Prop
  | .discard_overflow session_id cue_id | .discard_queued_cue _ session_id cue_id => (session_id, cue_id) ≠ key
  | .repository op => op.writes_cues = false ∧
    (w.repository.step op).find_cue key.1 key.2 = w.repository.find_cue key.1 key.2
  | .finish_session hash session_id ended_at_ms updated_at_ms failure audio audio_error =>
    (∀ op ∈ audio, op.writes_cues = false) ∧
      (w.finish_session hash session_id ended_at_ms updated_at_ms failure audio audio_error).2.repository.find_cue
        key.1 key.2 = (w.flush_pending_cues hash updated_at_ms failure).2.repository.find_cue key.1 key.2
  | _ => True

/-- Where the snapshots of a cue are: `S` were sent, and `T` taken by the worker. -/
structure Newest (key : String × String) (S T : List QueuedCue) (w : CueWorker) : Prop where
  overflow_keyed : Keyed w.cue_overflow
  pending_keyed : Keyed w.pending
  rows : w.repository.Keyed
  waiting_sent : ∀ queued, w.Waits queued → queued ∈ S
  taken_sent : ∀ queued ∈ T, queued ∈ S
  sent_kept : ∀ queued ∈ S, queued.key = key → ∃ other, (w.Waits other ∨ other ∈ T) ∧ other.key = key ∧
    pair_ge other.order queued.order = true
  pending_taken : ∀ queued, w.pending.lookup key = some queued → queued ∈ T
  row_taken : ∀ row, w.repository.find_cue key.1 key.2 = some row →
    ∃ queued ∈ T, queued.key = key ∧ row.Holds queued.write
  newest : w.unavailable_reason = none → ∀ queued ∈ T, queued.key = key → Covers w.pending queued ∨
    ∃ row, w.repository.find_cue key.1 key.2 = some row ∧ pair_ge row.order queued.order = true

theorem Newest.initial (key : String × String) : Newest key [] [] {} where
  overflow_keyed := by simp [Keyed]
  pending_keyed := by simp [Keyed]
  rows := Database.keyed_empty
  waiting_sent := by simp [Waits, values]
  taken_sent := by simp
  sent_kept := by simp
  pending_taken := by simp
  row_taken := by simp [Database.find_cue]
  newest := by simp

section

variable (h : w.Newest key S T)

include h

theorem Newest.send (cue : QueuedCue) : (w.send_cue cue).Newest key (S ++ [cue]) T := by
  have hold : ∀ queued ∈ S, queued ∈ S ++ [cue] := fun queued hqueued => List.mem_append_left _ hqueued
  have hnew : cue ∈ S ++ [cue] := List.mem_append_right _ (List.mem_singleton.mpr rfl)
  unfold send_cue
  split
  · refine ⟨h.overflow_keyed, h.pending_keyed, h.rows, ?_, fun q hq => hold q (h.taken_sent q hq), ?_,
      h.pending_taken, h.row_taken, h.newest⟩
    · rintro queued (hqueued | hqueued)
      · rcases List.mem_append.mp hqueued with hqueued | hqueued
        · exact hold queued (h.waiting_sent queued (.inl hqueued))
        · exact List.mem_singleton.mp hqueued ▸ hnew
      · exact hold queued (h.waiting_sent queued (.inr hqueued))
    · intro queued hqueued hkey
      rcases List.mem_append.mp hqueued with hqueued | hqueued
      · obtain ⟨other, hother, hsame, hge⟩ := h.sent_kept queued hqueued hkey
        refine ⟨other, ?_, hsame, hge⟩
        rcases hother with (hother | hother) | hother
        · exact .inl (.inl (List.mem_append_left _ hother))
        · exact .inl (.inr hother)
        · exact .inr hother
      · exact ⟨queued, .inl (.inl (List.mem_append_right _ hqueued)), hkey, pair_ge_refl _⟩
  · have hkeyed := h.overflow_keyed.insert cue
    -- what the overflow map has for a key is not older than what it had
    have hcovered : ∀ queued, Covers (insert_latest_cue w.cue_overflow cue) queued →
        ∃ other, other ∈ values (insert_latest_cue w.cue_overflow cue) ∧ other.key = queued.key ∧
          pair_ge other.order queued.order = true := by
      rintro queued ⟨other, hother, hge⟩
      have hsame := hkeyed _ _ hother
      exact ⟨other, (mem_values hkeyed).mpr (hsame ▸ hother), hsame, hge⟩
    refine ⟨hkeyed, h.pending_keyed, h.rows, ?_, fun q hq => hold q (h.taken_sent q hq), ?_,
      h.pending_taken, h.row_taken, h.newest⟩
    · rintro queued (hqueued | hqueued)
      · exact hold queued (h.waiting_sent queued (.inl hqueued))
      · rcases insert_from ((mem_values hkeyed).mp hqueued) with hfound | ⟨rfl, -⟩
        · exact hold queued (h.waiting_sent queued (.inr ((mem_values h.overflow_keyed).mpr hfound)))
        · exact hnew
    · intro queued hqueued hkey
      have hcase : (∃ other, (other ∈ w.cue_rx ∨ other ∈ T) ∧ other.key = key ∧
          pair_ge other.order queued.order = true) ∨ Covers (insert_latest_cue w.cue_overflow cue) queued := by
        rcases List.mem_append.mp hqueued with hqueued | hqueued
        · obtain ⟨other, hother, hsame, hge⟩ := h.sent_kept queued hqueued hkey
          rcases hother with (hother | hother) | hother
          · exact .inl ⟨other, .inl hother, hsame, hge⟩
          · have hcovers : Covers w.cue_overflow other :=
              ⟨other, (mem_values h.overflow_keyed).mp hother, pair_ge_refl _⟩
            exact .inr ((hcovers.insert cue).newer (hkey.trans hsame.symm) hge)
          · exact .inl ⟨other, .inr hother, hsame, hge⟩
        · rw [List.mem_singleton.mp hqueued]
          exact .inr (insert_covers _ cue)
      rcases hcase with ⟨other, hother, hrest⟩ | hcovers
      · exact ⟨other, hother.imp_left .inl, hrest⟩
      · obtain ⟨other, hother, hsame, hge⟩ := hcovered queued hcovers
        exact ⟨other, .inl (.inr hother), hsame.trans hkey, hge⟩

/-- The worker takes snapshots that waited, and what it took is pending, under a newer one or its own. -/
theorem Newest.take (cues cue_rx : List QueuedCue) (cue_overflow : CueMap)
    (hoverflow : Keyed cue_overflow) (hcues : ∀ queued ∈ cues, w.Waits queued)
    (hrest : ∀ queued, w.Waits queued ↔ queued ∈ cues ∨ queued ∈ cue_rx ∨ queued ∈ values cue_overflow) :
    Newest key S (T ++ cues) { w with
      cue_rx := cue_rx, cue_overflow := cue_overflow, pending := cues.foldl insert_latest_cue w.pending } where
  overflow_keyed := hoverflow
  pending_keyed := h.pending_keyed.insert_all cues
  rows := h.rows
  waiting_sent queued hqueued := h.waiting_sent queued ((hrest queued).mpr (.inr hqueued))
  taken_sent queued hqueued := by
    rcases List.mem_append.mp hqueued with hqueued | hqueued
    · exact h.taken_sent queued hqueued
    · exact h.waiting_sent queued (hcues queued hqueued)
  sent_kept queued hqueued hkey := by
    obtain ⟨other, hother, hsame, hge⟩ := h.sent_kept queued hqueued hkey
    refine ⟨other, ?_, hsame, hge⟩
    rcases hother with hother | hother
    · rcases (hrest other).mp hother with hother | hother
      · exact .inr (List.mem_append_right _ hother)
      · exact .inl hother
    · exact .inr (List.mem_append_left _ hother)
  pending_taken queued hqueued := by
    rcases insert_all_from cues w.pending hqueued with hold | ⟨hnew, -⟩
    · exact List.mem_append_left _ (h.pending_taken queued hold)
    · exact List.mem_append_right _ hnew
  row_taken row hrow := by
    obtain ⟨queued, hqueued, hkey, hheld⟩ := h.row_taken row hrow
    exact ⟨queued, List.mem_append_left _ hqueued, hkey, hheld⟩
  newest havailable queued hqueued hkey := by
    rcases List.mem_append.mp hqueued with hqueued | hqueued
    · rcases h.newest havailable queued hqueued hkey with hcovers | hrow
      · exact .inl (insert_all_covers cues w.pending (.inr hcovers))
      · exact .inr hrow
    · exact .inl (insert_all_covers cues w.pending (.inl hqueued))

theorem Newest.drain_overflow (hash : HashOrder) :
    (w.drain_cue_overflow hash).Newest key S (T ++ hash.order (values w.cue_overflow)) := by
  have hperm (queued : QueuedCue) := (hash.perm (values w.cue_overflow)).mem_iff (a := queued)
  refine h.take _ w.cue_rx ∅ (by simp [Keyed]) (fun queued hqueued => .inr ((hperm queued).mp hqueued)) fun queued => ?_
  rw [hperm]
  simp [Waits, values, or_comm]

theorem Newest.drain (hash : HashOrder) :
    (w.drain_latest_cues hash).Newest key S (T ++ (w.cue_rx ++ hash.order (values w.cue_overflow))) := by
  have hperm (queued : QueuedCue) := (hash.perm (values w.cue_overflow)).mem_iff (a := queued)
  have hdrained := h.take (w.cue_rx ++ hash.order (values w.cue_overflow)) [] ∅ (by simp [Keyed])
    (fun queued hqueued => (List.mem_append.mp hqueued).imp id (hperm queued).mp) fun queued => by
      rw [List.mem_append, hperm]
      simp [Waits, values]
  rwa [List.foldl_append] at hdrained

theorem Newest.with_repository {db : Database} (hkeyed : db.Keyed)
    (hrow : db.find_cue key.1 key.2 = w.repository.find_cue key.1 key.2) :
    Newest key S T { w with repository := db } where
  overflow_keyed := h.overflow_keyed
  pending_keyed := h.pending_keyed
  rows := hkeyed
  waiting_sent := h.waiting_sent
  taken_sent := h.taken_sent
  sent_kept := h.sent_kept
  pending_taken := h.pending_taken
  row_taken row hfound := h.row_taken row (hrow ▸ hfound)
  newest havailable queued hqueued hkey := by
    rw [hrow]
    exact h.newest havailable queued hqueued hkey

theorem Newest.forget {other : String × String} (hother : other ≠ key) :
    Newest key S T { w with pending := w.pending.erase other } ∧
      Newest key S T { w with cue_overflow := w.cue_overflow.erase other } := by
  have herase (m : CueMap) (hm : Keyed m) : Keyed (m.erase other) := by
    intro k held hheld
    by_cases hk : k = other
    · rw [hk, AList.lookup_erase] at hheld
      cases hheld
    · rw [AList.lookup_erase_ne hk] at hheld
      exact hm k held hheld
  have hlookup (m : CueMap) : (m.erase other).lookup key = m.lookup key := AList.lookup_erase_ne fun h => hother h.symm
  constructor
  · refine ⟨h.overflow_keyed, herase _ h.pending_keyed, h.rows, h.waiting_sent, h.taken_sent, h.sent_kept, ?_,
      h.row_taken, ?_⟩
    · intro queued hqueued
      exact h.pending_taken queued (hlookup _ ▸ hqueued)
    · intro havailable queued hqueued hkey
      have hnewest := h.newest havailable queued hqueued hkey
      unfold Covers at hnewest ⊢
      rw [hkey] at hnewest ⊢
      rwa [hlookup]
  · have hvalues (queued : QueuedCue) (hkey : queued.key = key) :
        queued ∈ values (w.cue_overflow.erase other) ↔ queued ∈ values w.cue_overflow := by
      rw [mem_values (herase _ h.overflow_keyed), mem_values h.overflow_keyed, hkey, hlookup]
    refine ⟨herase _ h.overflow_keyed, h.pending_keyed, h.rows, ?_, h.taken_sent, ?_, h.pending_taken, h.row_taken,
      h.newest⟩
    · rintro queued (hqueued | hqueued)
      · exact h.waiting_sent queued (.inl hqueued)
      · have hfound := (mem_values (herase _ h.overflow_keyed)).mp hqueued
        by_cases hk : queued.key = other
        · rw [hk, AList.lookup_erase] at hfound
          cases hfound
        · rw [AList.lookup_erase_ne hk] at hfound
          exact h.waiting_sent queued (.inr ((mem_values h.overflow_keyed).mpr hfound))
    · intro queued hqueued hkey
      obtain ⟨t, ht, hsame, hge⟩ := h.sent_kept queued hqueued hkey
      refine ⟨t, ht.imp_left fun hwaits => ?_, hsame, hge⟩
      exact hwaits.imp id (hvalues t hsame).mpr

theorem Newest.flush (hfits : ∀ queued ∈ S, queued.key = key → queued.Fits) (hash : HashOrder)
    (updated_at_ms : Int) (failure : Option String) :
    (w.flush_pending_cues hash updated_at_ms failure).2.Newest key S T ∧
      ((w.flush_pending_cues hash updated_at_ms failure).1 = .ok () → w.unavailable_reason = none →
        ∀ queued ∈ T, queued.key = key → ∃ row,
          (w.flush_pending_cues hash updated_at_ms failure).2.repository.find_cue key.1 key.2 = some row ∧
            pair_ge row.order queued.order = true) := by
  rcases flush_outcome w hash updated_at_ms failure with
    ⟨hempty, hflush⟩ | ⟨repository, -, hbatch, hflush⟩ | ⟨error, failed, hflush, hrx, hoverflow, hrepository, hpending⟩
  · rw [hflush]
    refine ⟨h, fun _ havailable queued hqueued hkey => ?_⟩
    rcases h.newest havailable queued hqueued hkey with ⟨held, hheld, -⟩ | hrow
    · have hmem := (mem_values h.pending_keyed).mpr (h.pending_keyed _ _ hheld ▸ hheld)
      rw [hempty] at hmem
      cases hmem
    · exact hrow
  · rw [hflush]
    obtain ⟨hge, hfrom, hkeeps⟩ := Database.batch_row h.rows hbatch key.1 key.2
    have hstored : w.unavailable_reason = none → ∀ queued ∈ T, queued.key = key → ∃ row,
        repository.find_cue key.1 key.2 = some row ∧ pair_ge row.order queued.order = true := by
      intro havailable queued hqueued hkey
      rcases h.newest havailable queued hqueued hkey with ⟨held, hheld, hnewer⟩ | ⟨row, hrow, hnewer⟩
      · have hsame : held.key = key := (h.pending_keyed _ _ hheld).trans hkey
        have hmem := (mem_values h.pending_keyed).mpr (h.pending_keyed _ _ hheld ▸ hheld)
        have hheldfits := hfits held (h.taken_sent held (h.pending_taken held (hkey ▸ hheld))) hsame
        obtain ⟨row, hrow, hrowge⟩ := hge held.write (List.mem_map_of_mem ((mem_batch hash held).mpr hmem))
          (congrArg Prod.fst hsame) (congrArg Prod.snd hsame)
        rw [QueuedCue.write_order hheldfits] at hrowge
        exact ⟨row, hrow, pair_ge_trans hrowge hnewer⟩
      · obtain ⟨row', hrow', -, -, hlater⟩ := hkeeps row hrow
        exact ⟨row', hrow', pair_ge_trans hlater hnewer⟩
    refine ⟨?_, fun _ => hstored⟩
    refine ⟨h.overflow_keyed, by simp [Keyed], ?_, h.waiting_sent, h.taken_sent, h.sent_kept, by simp, ?_,
      fun havailable queued hqueued hkey => .inr (hstored havailable queued hqueued hkey)⟩
    · exact Database.batch_keeps (fun _ _ _ h hupsert => h.upsert hupsert) h.rows hbatch
    · intro row hrow
      rcases hfrom row hrow with hold | ⟨write, hwrite, hsession, hcue, hheld⟩
      · exact h.row_taken row hold
      · obtain ⟨queued, hqueued, rfl⟩ := List.mem_map.mp hwrite
        have hsame : queued.key = key := Prod.ext hsession hcue
        have hfound := (mem_values h.pending_keyed).mp ((mem_batch hash queued).mp hqueued)
        exact ⟨queued, h.pending_taken queued (hsame ▸ hfound), hsame, hheld⟩
  · rw [hflush]
    refine ⟨?_, nofun⟩
    have hwaits (queued : QueuedCue) : failed.Waits queued ↔ w.Waits queued := by
      unfold Waits
      rw [hrx, hoverflow]
    rcases hpending with ⟨hnone, havailable, hsame⟩ | ⟨hsome, hcleared⟩
    · exact {
        overflow_keyed := hoverflow ▸ h.overflow_keyed
        pending_keyed := hsame ▸ h.pending_keyed
        rows := hrepository ▸ h.rows
        waiting_sent := fun queued hqueued => h.waiting_sent queued ((hwaits queued).mp hqueued)
        taken_sent := h.taken_sent
        sent_kept := by simpa only [hwaits] using h.sent_kept
        pending_taken := hsame ▸ h.pending_taken
        row_taken := hrepository ▸ h.row_taken
        newest := fun _ => by
          rw [hsame, hrepository]
          exact h.newest havailable }
    · exact {
        overflow_keyed := hoverflow ▸ h.overflow_keyed
        pending_keyed := by simp [hcleared, Keyed]
        rows := hrepository ▸ h.rows
        waiting_sent := fun queued hqueued => h.waiting_sent queued ((hwaits queued).mp hqueued)
        taken_sent := h.taken_sent
        sent_kept := by simpa only [hwaits] using h.sent_kept
        pending_taken := by simp [hcleared]
        row_taken := hrepository ▸ h.row_taken
        newest := fun hnone => absurd hnone hsome }

end

/-- After its flush, the end of a session touches the repository only. -/
theorem finish_cases (w : CueWorker) (hash : HashOrder) (session_id : String) (ended_at_ms updated_at_ms : Int)
    (failure : Option String) (audio : List Op) (audio_error : Option String) :
    (w.finish_session hash session_id ended_at_ms updated_at_ms failure audio audio_error).2 =
        (w.flush_pending_cues hash updated_at_ms failure).2 ∨
      ∃ ops, (w.finish_session hash session_id ended_at_ms updated_at_ms failure audio audio_error).2 =
          { (w.flush_pending_cues hash updated_at_ms failure).2 with
            repository := run Database.step (w.flush_pending_cues hash updated_at_ms failure).2.repository ops } ∧
        ((∀ op ∈ audio, op.writes_cues = false) → ∀ op ∈ ops, op.writes_cues = false) := by
  unfold finish_session
  dsimp only
  split
  · exact .inl rfl
  · exact .inl rfl
  · cases audio_error with
    | some _ => exact .inr ⟨audio, rfl, id⟩
    | none =>
      refine .inr ⟨audio ++ [.end_session session_id ended_at_ms], by rw [run_snoc]; rfl, fun haudio op hop => ?_⟩
      rcases List.mem_append.mp hop with hop | hop
      · exact haudio op hop
      · rw [List.mem_singleton.mp hop]
        rfl

theorem Newest.step (h : w.Newest key S T) (op : CueStep) (hspares : w.Spares key op)
    (hfits : ∀ queued ∈ S, queued.key = key → queued.Fits) :
    (w.step op).Newest key (S ++ op.sent) (T ++ w.taken op) := by
  cases op with
  | send_cue cue =>
    simp only [CueStep.sent, taken, List.append_nil]
    exact h.send cue
  | receive_cue =>
    simp only [CueStep.sent, List.append_nil]
    cases hrx : w.cue_rx with
    | nil => simpa [CueWorker.step, receive_cue, taken, hrx] using h
    | cons cue rest =>
      have htaken := h.take [cue] rest w.cue_overflow h.overflow_keyed
        (fun queued hqueued => .inl (by simp [hrx, List.mem_singleton.mp hqueued]))
        fun queued => by simp [Waits, hrx, or_assoc]
      simpa [CueWorker.step, receive_cue, taken, hrx] using htaken
  | drain_cue_overflow hash =>
    simp only [CueStep.sent, List.append_nil]
    exact h.drain_overflow hash
  | drain_latest_cues hash =>
    simp only [CueStep.sent, List.append_nil]
    exact h.drain hash
  | flush_pending_cues hash updated_at_ms failure =>
    simp only [CueStep.sent, taken, List.append_nil]
    exact (h.flush hfits hash updated_at_ms failure).1
  | finish_session hash session_id ended_at_ms updated_at_ms failure audio audio_error =>
    have hflushed := (h.flush hfits hash updated_at_ms failure).1
    simp only [CueStep.sent, taken, List.append_nil, CueWorker.step]
    obtain ⟨-, hrow⟩ := hspares
    rcases finish_cases w hash session_id ended_at_ms updated_at_ms failure audio audio_error with
      hsame | ⟨ops, hsame, -⟩
    · rwa [hsame]
    · rw [hsame] at hrow ⊢
      exact hflushed.with_repository (run_keeps _ _ (fun _ op h => h.step op) hflushed.rows ops) hrow
  | discard_overflow session_id cue_id =>
    simp only [CueStep.sent, taken, List.append_nil]
    exact (h.forget hspares).2
  | discard_queued_cue hash session_id cue_id =>
    have hforgot := ((h.drain hash).forget hspares).1
    simp only [CueStep.sent, List.append_nil]
    refine hforgot.with_repository ?_ ?_
    · split
      · exact h.rows
      · exact h.rows.step (.delete_cue session_id cue_id)
    · split
      · rfl
      · refine Database.find_cue_delete ?_
        exact hspares
  | repository op =>
    simp only [CueStep.sent, taken, List.append_nil, CueWorker.step]
    split
    · exact h
    · exact h.with_repository (h.rows.step op) hspares.2

theorem newest_run {key : String × String} {ops : List CueStep} (hspares : Along CueWorker.step (Spares key) {} ops)
    (hfits : ∀ queued ∈ ops.flatMap CueStep.sent, queued.key = key → queued.Fits) :
    (run CueWorker.step {} ops).Newest key (ops.flatMap CueStep.sent) (all_taken {} ops) := by
  induction ops using List.reverseRecOn with
  | nil => exact .initial key
  | append_singleton ops op ih =>
    rw [List.flatMap_append] at hfits ⊢
    have hbefore := ih (Along.append.mp hspares).1 fun queued hqueued => hfits queued (List.mem_append_left _ hqueued)
    rw [run_snoc, all_taken_snoc, List.flatMap_singleton]
    exact hbefore.step op (Along.append.mp hspares).2.1 fun queued hqueued =>
      hfits queued (List.mem_append_left _ hqueued)

/-! ## What a run keeps of a row -/

/-- A flush succeeds: it returns without an error, and the repository is there. -/
def Flushes (w : CueWorker) : CueStep → Prop
  | .flush_pending_cues hash updated_at_ms failure | .finish_session hash _ _ updated_at_ms failure _ _ =>
    (w.flush_pending_cues hash updated_at_ms failure).1 = .ok () ∧ w.unavailable_reason = none
  | _ => False

/-- What one flush does to a row and to the places of the others. -/
theorem flush_places (h : w.repository.Keyed) (hash : HashOrder) (updated_at_ms : Int) (failure : Option String)
    {row : CueRow} (hrow : w.repository.find_cue key.1 key.2 = some row) :
    (∃ row', (w.flush_pending_cues hash updated_at_ms failure).2.repository.find_cue key.1 key.2 = some row' ∧
        row.SamePlace row') ∧
      ∀ c' ∈ (w.flush_pending_cues hash updated_at_ms failure).2.repository.cues, c'.session_id = key.1 →
        (∃ c ∈ w.repository.cues, c.SamePlace c') ∨ row.sequence < c'.sequence := by
  rcases flush_outcome w hash updated_at_ms failure with
    ⟨-, hflush⟩ | ⟨repository, -, hbatch, hflush⟩ | ⟨error, failed, hflush, -, -, hrepository, -⟩
  · rw [hflush]
    exact ⟨⟨row, hrow, rfl, rfl, rfl⟩, fun c' hc' _ => .inl ⟨c', hc', rfl, rfl, rfl⟩⟩
  · rw [hflush]
    obtain ⟨row', hrow', hid, hsequence, -⟩ := (Database.batch_row h hbatch key.1 key.2).2.2 row hrow
    have hsession := (Database.find_cue_key hrow).1
    refine ⟨⟨row', hrow', hid.symm, hsession.trans (Database.find_cue_key hrow').1.symm, hsequence.symm⟩, ?_⟩
    intro c' hc' hc'session
    rcases Database.batch_places hbatch c' hc' with hold | hafter
    · exact .inl hold
    · exact .inr (hafter row (List.mem_of_find?_eq_some hrow) (hsession.trans hc'session.symm))
  · rw [hflush, hrepository]
    exact ⟨⟨row, hrow, rfl, rfl, rfl⟩, fun c' hc' _ => .inl ⟨c', hc', rfl, rfl, rfl⟩⟩

theorem run_cues_subset (db : Database) {ops : List Op} (hops : ∀ op ∈ ops, op.writes_cues = false) :
    (run Database.step db ops).cues ⊆ db.cues := by
  induction ops generalizing db with
  | nil => exact List.Subset.refl _
  | cons op ops ih =>
    exact List.Subset.trans (ih _ fun op hop => hops op (List.mem_cons_of_mem _ hop))
      (Database.step_cues_subset db (hops op List.mem_cons_self))

/-- Where a step flushes, it leaves the row that the flush leaves, and no cues but those; the other steps leave
the row, and no cues but those that were there. -/
theorem step_rows (w : CueWorker) (op : CueStep) (hspares : w.Spares key op) :
    ∃ repository, (w.step op).repository.find_cue key.1 key.2 = repository.find_cue key.1 key.2 ∧
      (w.step op).repository.cues ⊆ repository.cues ∧ (repository = w.repository ∨
        ∃ hash updated_at_ms failure, repository = (w.flush_pending_cues hash updated_at_ms failure).2.repository ∧
          (w.Flushes op ↔
            (w.flush_pending_cues hash updated_at_ms failure).1 = .ok () ∧ w.unavailable_reason = none)) := by
  cases op with
  | send_cue _ =>
    refine ⟨w.repository, ?_, ?_, .inl rfl⟩ <;> dsimp only [CueWorker.step, send_cue] <;> split
    · rfl
    · rfl
    · exact List.Subset.refl _
    · exact List.Subset.refl _
  | receive_cue =>
    refine ⟨w.repository, ?_, ?_, .inl rfl⟩ <;> dsimp only [CueWorker.step, receive_cue] <;> split
    · rfl
    · rfl
    · exact List.Subset.refl _
    · exact List.Subset.refl _
  | drain_cue_overflow | drain_latest_cues | discard_overflow => exact ⟨_, rfl, List.Subset.refl _, .inl rfl⟩
  | flush_pending_cues hash updated_at_ms failure =>
    exact ⟨_, rfl, List.Subset.refl _, .inr ⟨hash, updated_at_ms, failure, rfl, Iff.rfl⟩⟩
  | finish_session hash session_id ended_at_ms updated_at_ms failure audio audio_error =>
    refine ⟨_, hspares.2, ?_, .inr ⟨hash, updated_at_ms, failure, rfl, Iff.rfl⟩⟩
    rcases finish_cases w hash session_id ended_at_ms updated_at_ms failure audio audio_error with
      hsame | ⟨ops, hsame, hops⟩
    · exact (congrArg (·.repository.cues) hsame) ▸ List.Subset.refl _
    · exact (congrArg (·.repository.cues) hsame) ▸ run_cues_subset _ (hops hspares.1)
  | discard_queued_cue hash session_id cue_id =>
    refine ⟨w.repository, ?_, ?_, .inl rfl⟩ <;> dsimp only [CueWorker.step, discard_queued_cue] <;> split
    · rfl
    · exact Database.find_cue_delete hspares
    · exact List.Subset.refl _
    · exact @Database.step_cues_subset w.repository (.delete_cue session_id cue_id) rfl
  | repository op =>
    refine ⟨w.repository, ?_, ?_, .inl rfl⟩ <;> dsimp only [CueWorker.step] <;> split
    · rfl
    · exact hspares.2
    · exact List.Subset.refl _
    · exact Database.step_cues_subset w.repository hspares.1

/-- A step keeps the place of a row, and what it adds to the session comes after it. -/
theorem step_places (h : w.repository.Keyed) {op : CueStep} (hspares : w.Spares key op) {row : CueRow}
    (hrow : w.repository.find_cue key.1 key.2 = some row) :
    (∃ row', (w.step op).repository.find_cue key.1 key.2 = some row' ∧ row.SamePlace row') ∧
      ∀ c' ∈ (w.step op).repository.cues, c'.session_id = key.1 →
        (∃ c ∈ w.repository.cues, c.SamePlace c') ∨ row.sequence < c'.sequence := by
  obtain ⟨repository, hfound, hcues, hcase⟩ := w.step_rows op hspares
  rcases hcase with rfl | ⟨hash, updated_at_ms, failure, rfl, -⟩
  · rw [hfound]
    exact ⟨⟨row, hrow, rfl, rfl, rfl⟩, fun c' hc' _ => .inl ⟨c', hcues hc', rfl, rfl, rfl⟩⟩
  · obtain ⟨hkept, hplaces⟩ := flush_places h hash updated_at_ms failure hrow
    rw [hfound]
    exact ⟨hkept, fun c' hc' => hplaces c' (hcues hc')⟩

theorem step_row (w : CueWorker) {op : CueStep} (hspares : w.Spares key op) (hnot : ¬ w.Flushes op) :
    (w.step op).repository.find_cue key.1 key.2 = w.repository.find_cue key.1 key.2 := by
  obtain ⟨repository, hfound, -, hcase⟩ := w.step_rows op hspares
  rcases hcase with rfl | ⟨hash, updated_at_ms, failure, rfl, hflushes⟩
  · exact hfound
  · rw [hfound]
    rcases flush_outcome w hash updated_at_ms failure with
      ⟨-, hflush⟩ | ⟨repository, havailable, -, hflush⟩ | ⟨error, failed, hflush, -, -, hrepository, -⟩
    · rw [hflush]
    · exact absurd (hflushes.mpr ⟨by rw [hflush], havailable⟩) hnot
    · rw [hflush, hrepository]

theorem step_keyed (h : w.repository.Keyed) (op : CueStep) : (w.step op).repository.Keyed := by
  have hflush (hash updated_at_ms failure) : (w.flush_pending_cues hash updated_at_ms failure).2.repository.Keyed := by
    rcases flush_outcome w hash updated_at_ms failure with
      ⟨-, hflush⟩ | ⟨repository, -, hbatch, hflush⟩ | ⟨error, failed, hflush, -, -, hrepository, -⟩
    · rwa [hflush]
    · rw [hflush]
      exact Database.batch_keeps (fun _ _ _ h hupsert => h.upsert hupsert) h hbatch
    · rwa [hflush, hrepository]
  cases op with
  | send_cue _ =>
    dsimp only [CueWorker.step, send_cue]
    split <;> exact h
  | receive_cue =>
    dsimp only [CueWorker.step, receive_cue]
    split <;> exact h
  | drain_cue_overflow | drain_latest_cues | discard_overflow => exact h
  | flush_pending_cues hash updated_at_ms failure => exact hflush hash updated_at_ms failure
  | finish_session hash session_id ended_at_ms updated_at_ms failure audio audio_error =>
    dsimp only [CueWorker.step]
    rcases finish_cases w hash session_id ended_at_ms updated_at_ms failure audio audio_error with
      hsame | ⟨ops, hsame, -⟩
    · rw [hsame]
      exact hflush hash updated_at_ms failure
    · rw [hsame]
      exact run_keeps _ _ (fun _ op h => h.step op) (hflush hash updated_at_ms failure) ops
  | discard_queued_cue hash session_id cue_id =>
    dsimp only [CueWorker.step, discard_queued_cue]
    split
    · exact h
    · exact h.step (.delete_cue session_id cue_id)
  | repository op =>
    dsimp only [CueWorker.step]
    split
    · exact h
    · exact h.step op

/-- The row of the cue stays in its place, and a row that comes into the session comes after it. -/
def KeepsPlace (key : String × String) (w w' : CueWorker) : Prop :=
  ∀ row, w.repository.find_cue key.1 key.2 = some row →
    (∃ row', w'.repository.find_cue key.1 key.2 = some row' ∧ row.SamePlace row') ∧
      ∀ c' ∈ w'.repository.cues, c'.session_id = key.1 →
        (∃ c ∈ w.repository.cues, c.SamePlace c') ∨ row.sequence < c'.sequence

theorem run_places {ops : List CueStep} (h : w.repository.Keyed) (hspares : Along CueWorker.step (Spares key) w ops) :
    KeepsPlace key w (run CueWorker.step w ops) := by
  induction ops generalizing w with
  | nil => exact fun row hrow => ⟨⟨row, hrow, rfl, rfl, rfl⟩, fun c hc _ => .inl ⟨c, hc, rfl, rfl, rfl⟩⟩
  | cons op ops ih =>
    intro row hrow
    obtain ⟨⟨next, hnext, hsame⟩, hcues⟩ := step_places h hspares.1 hrow
    obtain ⟨⟨last, hlast, hsame'⟩, hcues'⟩ := ih (step_keyed h op) hspares.2 next hnext
    refine ⟨⟨last, hlast, hsame.trans hsame'⟩, fun c' hc' hsession => ?_⟩
    rcases hcues' c' hc' hsession with ⟨c, hc, hplace⟩ | hafter
    · rcases hcues c hc (hplace.2.1.trans hsession) with ⟨old, hold, hplace'⟩ | hafter
      · exact .inl ⟨old, hold, hplace'.trans hplace⟩
      · exact .inr (hplace.2.2 ▸ hafter)
    · exact .inr (hsame.2.2 ▸ hafter)

theorem run_row {ops : List CueStep} (hspares : Along CueWorker.step (Spares key) w ops)
    (hnot : Along CueWorker.step (fun w op => ¬ w.Flushes op) w ops) :
    (run CueWorker.step w ops).repository.find_cue key.1 key.2 = w.repository.find_cue key.1 key.2 := by
  induction ops generalizing w with
  | nil => rfl
  | cons op ops ih => exact (ih hspares.2 hnot.2).trans (w.step_row hspares.1 hnot.1)

/-- After a flush that succeeds, the row is not older than any snapshot that was taken, and holds one of them. -/
theorem Newest.flushed (h : w.Newest key S T) (hfits : ∀ queued ∈ S, queued.key = key → queued.Fits) {op : CueStep}
    (hspares : w.Spares key op) (hflushes : w.Flushes op) {queued : QueuedCue} (hqueued : queued ∈ T)
    (hkey : queued.key = key) :
    ∃ row, (w.step op).repository.find_cue key.1 key.2 = some row ∧
      (∀ other ∈ T, other.key = key → pair_ge row.order other.order = true) ∧
        ∃ newest ∈ T, newest.key = key ∧ row.Holds newest.write := by
  have hnext := h.step op hspares hfits
  have hge : ∀ other ∈ T, other.key = key → ∃ row, (w.step op).repository.find_cue key.1 key.2 = some row ∧
      pair_ge row.order other.order = true := by
    cases op with
    | flush_pending_cues hash updated_at_ms failure =>
      exact (h.flush hfits hash updated_at_ms failure).2 hflushes.1 hflushes.2
    | finish_session hash _ _ updated_at_ms failure _ _ =>
      dsimp only [CueWorker.step]
      rw [hspares.2]
      exact (h.flush hfits hash updated_at_ms failure).2 hflushes.1 hflushes.2
    | _ => exact absurd hflushes id
  have htaken : w.taken op = [] := by
    cases op with
    | flush_pending_cues | finish_session => rfl
    | _ => exact absurd hflushes id
  obtain ⟨row, hrow, -⟩ := hge queued hqueued hkey
  refine ⟨row, hrow, fun other hother hsame => ?_, ?_⟩
  · obtain ⟨_, hrow', _⟩ := hge other hother hsame
    rw [hrow] at hrow'
    rwa [Option.some.inj hrow']
  · rw [htaken, List.append_nil] at hnext
    exact hnext.row_taken row hrow

/-- What is stored of a cue, of whose snapshots the worker took some in the steps `before` the flush. -/
structure StoresNewest (key : String × String) (before : List CueStep) (w : CueWorker) : Prop where
  /-- the row holds the newest snapshot that was taken -/
  stored : (∃ queued ∈ all_taken {} before, queued.key = key) →
    ∃ newest ∈ all_taken {} before, newest.key = key ∧
      (∀ queued ∈ all_taken {} before, queued.key = key → pair_ge newest.order queued.order = true) ∧
        ∃ row, w.repository.find_cue key.1 key.2 = some row ∧ row.Holds newest.write
  /-- a snapshot that was sent was taken, or still waits, or a newer one was or does -/
  taken : ∀ queued ∈ before.flatMap CueStep.sent, queued.key = key → ∃ other,
    ((run CueWorker.step {} before).Waits other ∨ other ∈ all_taken {} before) ∧ other.key = key ∧
      pair_ge other.order queued.order = true

end CueWorker

/-- After the last flush that succeeds, the row of a cue holds the newest snapshot that came to the worker; it
keeps its place among the cues of its session from then on when it was first written. -/
theorem newest_snapshot_is_stored {key : String × String} {before after : List CueStep} {flush : CueStep}
    (hspares : Along CueWorker.step (CueWorker.Spares key) {} (before ++ flush :: after))
    (hfits : ∀ queued ∈ before.flatMap CueStep.sent, queued.key = key → queued.Fits)
    (hflush : (run CueWorker.step {} before).Flushes flush)
    (hlast : Along CueWorker.step (fun w op => ¬ w.Flushes op) ((run CueWorker.step {} before).step flush) after) :
    CueWorker.StoresNewest key before (run CueWorker.step {} (before ++ flush :: after)) ∧
      ∀ ops more, before ++ flush :: after = ops ++ more →
        CueWorker.KeepsPlace key (run CueWorker.step {} ops) (run CueWorker.step {} (ops ++ more)) := by
  obtain ⟨hbefore, hspared, hafter⟩ := Along.append.mp hspares
  have hnewest := CueWorker.newest_run hbefore hfits
  refine ⟨⟨?_, hnewest.sent_kept⟩, fun ops more hsplit => ?_⟩
  · rintro ⟨queued, hqueued, hkey⟩
    obtain ⟨row, hrow, hge, newest, hnew, hsame, hheld⟩ := hnewest.flushed hfits hspared hflush hqueued hkey
    have horder : row.order = newest.order := by
      rw [hheld.order, QueuedCue.write_order (hfits newest (hnewest.taken_sent newest hnew) hsame)]
    refine ⟨newest, hnew, hsame, horder ▸ hge, row, ?_, hheld⟩
    rw [run_append]
    exact (CueWorker.run_row hafter hlast).trans hrow
  · rw [hsplit] at hspares
    rw [run_append]
    refine CueWorker.run_places ?_ (Along.append.mp hspares).2
    exact run_keeps _ (fun w : CueWorker => w.repository.Keyed) (fun w op h => CueWorker.step_keyed h op)
      Database.keyed_empty ops

/-- Two snapshots, the newer one first; the flush in between fails. -/
def two_snapshots : List CueStep :=
  [.repository (.create_session "session-a" 1000), .send_cue (sample_cue "session-a" "cue-a" 2), .receive_cue,
    .flush_pending_cues ⟨id, List.Perm.refl⟩ 3000 (some "database is locked"),
    .send_cue (sample_cue "session-a" "cue-a" 1), .receive_cue]

theorem newer_of_two_is_stored :
    CueWorker.StoresNewest ("session-a", "cue-a") two_snapshots
      (run CueWorker.step {} (two_snapshots ++ [.flush_pending_cues ⟨id, List.Perm.refl⟩ 3000 none])) := by
  have hspares : Along CueWorker.step (CueWorker.Spares ("session-a", "cue-a")) {}
      (two_snapshots ++ [.flush_pending_cues ⟨id, List.Perm.refl⟩ 3000 none]) :=
    ⟨⟨rfl, rfl⟩, trivial, trivial, trivial, trivial, trivial, trivial, trivial⟩
  refine (newest_snapshot_is_stored hspares ?_ ?_ trivial).1
  · intro queued hqueued _
    have hsent : queued ∈ [sample_cue "session-a" "cue-a" 2, sample_cue "session-a" "cue-a" 1] := hqueued
    simp only [List.mem_cons, List.not_mem_nil, or_false] at hsent
    rcases hsent with rfl | rfl <;> exact ⟨by decide, by decide⟩
  · have havailable : (run CueWorker.step {} two_snapshots).unavailable_reason = none := by decide +kernel
    have hrepository : (((run CueWorker.step {} two_snapshots).repository.upsert_cues_batch
        (((run CueWorker.step {} two_snapshots).batch ⟨id, List.Perm.refl⟩).map (·.write)) 3000).isSome) = true := by
      decide +kernel
    refine ⟨?_, havailable⟩
    rcases CueWorker.flush_cases ⟨id, List.Perm.refl⟩ 3000 havailable with
      ⟨-, hflush⟩ | ⟨-, ⟨repository, -, hflush⟩ | ⟨hbatch, -⟩⟩
    · rw [hflush]
    · rw [hflush]
    · rw [hbatch] at hrepository
      cases hrepository

end omni_translate.history
