-- Which sessions a retention removes: the oldest ended ones, and no more of them than
-- its limits ask for. No deletion removes a session that goes on.
import OmniTranslate.HistoryRepository

namespace omni_translate.history.Database

/-- The ended sessions that are left, and the footprint with them, ask for no more deletions. -/
def Settled (age_cutoff : Int) (ended : List SessionRow) (footprint_bytes : Int) : Prop :=
  (∀ s ∈ ended, age_cutoff ≤ s.ended_at_ms.getD 0) ∧ ended.length ≤ RETENTION_MAX_SESSIONS ∧
    (footprint_bytes ≤ RETENTION_MAX_BYTES ∨ ended = [])

variable {age_cutoff : Int} {ended : List SessionRow} {footprint_bytes : Int}

theorem victims_of_settled (h : Settled age_cutoff ended footprint_bytes) :
    victims age_cutoff ended footprint_bytes = [] := by
  induction ended with
  | nil => rfl
  | cons s ended ih =>
    obtain ⟨hage, hlength, hbytes⟩ := h
    have hbytes := hbytes.resolve_right (List.cons_ne_nil _ _)
    rw [List.length_cons] at hlength
    have hs := hage s List.mem_cons_self
    rw [victims, if_neg, ih ⟨fun t ht => hage t (List.mem_cons_of_mem _ ht), by omega, .inl hbytes⟩]
    rcases hat : s.ended_at_ms with _ | at_ms <;> simp_all

theorem victims_eq (hsorted : ended.Pairwise ended_before)
    (hended : ∀ s ∈ ended, s.ended_at_ms.isSome = true) (footprint_bytes : Int) :
    ∃ n ≤ ended.length, victims age_cutoff ended footprint_bytes = (ended.take n).map (·.id) ∧
      ∀ k ≤ n, Settled age_cutoff (ended.drop k)
        (footprint_bytes - ((ended.take k).map (·.audio_bytes)).sum) ↔ k = n := by
  induction ended generalizing footprint_bytes with
  | nil => exact ⟨0, Nat.le_refl _, rfl, by simp [Settled]⟩
  | cons s ended ih =>
    obtain ⟨hfirst, hsorted⟩ := List.pairwise_cons.mp hsorted
    obtain ⟨hs, hended⟩ := List.forall_mem_cons.mp hended
    by_cases hsettled : Settled age_cutoff (s :: ended) footprint_bytes
    · exact ⟨0, Nat.zero_le _, victims_of_settled hsettled, by simpa using hsettled⟩
    · obtain ⟨n, hn, hvictims, hleast⟩ := ih hsorted hended (footprint_bytes - s.audio_bytes)
      refine ⟨n + 1, Nat.succ_le_succ hn, ?_, fun k hk => ?_⟩
      · -- the first session is the oldest, so it asks for its deletion when any does
        rw [victims, if_pos, hvictims, List.take_succ_cons, List.map_cons]
        by_contra hnot
        obtain ⟨at_ms, hat⟩ := Option.isSome_iff_exists.mp hs
        simp only [hat, Option.any_some, decide_eq_true_eq, not_or, not_lt] at hnot
        refine hsettled ⟨List.forall_mem_cons.mpr ⟨by simp [hat, hnot], fun t ht => ?_⟩,
          hnot.2.1, .inl hnot.2.2⟩
        have := hfirst t ht
        simp only [ended_before, hat, Option.getD_some] at this
        omega
      · cases k with
        | zero => simpa using hsettled
        | succ k => simpa [Int.sub_sub] using hleast k (Nat.le_of_succ_le_succ hk)

instance : Std.Total ended_before := ⟨fun a b => by grind [ended_before, String.le_total a.id b.id]⟩

instance : IsTrans SessionRow ended_before := ⟨fun a b c => by grind [ended_before, String.le_trans]⟩

/-- A retention selects the shortest front of the ended sessions, the oldest first, without which the
rest is settled: none is too old, they are not too many and take up not too much. -/
theorem the_oldest_sessions_are_the_victims (now_ms database_footprint_bytes : Int) (db : Database) :
    ∃ ended, ended = (db.sessions.filter fun s =>
        s.ended_at_ms.isSome ∧ s.status ≠ .deleting).insertionSort ended_before ∧
      ∃ n ≤ ended.length,
        db.select_retention_victims now_ms database_footprint_bytes = (ended.take n).map (·.id) ∧
        ∀ k ≤ n, Settled (now_ms - RETENTION_MAX_AGE_MS) (ended.drop k) (db.audio_bytes +
          database_footprint_bytes - ((ended.take k).map (·.audio_bytes)).sum) ↔ k = n := by
  refine ⟨_, rfl, victims_eq (List.pairwise_insertionSort ..) (fun s hs => ?_) _⟩
  have := List.of_mem_filter ((List.perm_insertionSort ..).subset hs)
  simp_all

/-! ## Running sessions -/

/-- A session that has not ended and is not being deleted. -/
def running (s : SessionRow) : Bool := s.ended_at_ms.isNone ∧ s.status ≠ .deleting

theorem resume_running (removed : String → Bool) (db : Database) :
    (db.resume_deleting_sessions removed).sessions.filter running = db.sessions.filter running := by
  refine (List.filter_filter ..).trans (List.filter_congr fun s _ => ?_)
  cases hs : s.status <;> simp [running, hs]

theorem mark_running (which : SessionRow → Bool) (db : Database) :
    (db.mark_deleting which).sessions.filter running = db.sessions.filter running := by
  unfold mark_deleting update_sessions
  induction db.sessions with
  | nil => rfl
  | cons s sessions ih =>
    rw [List.map_cons, List.filter_cons, List.filter_cons, ih]
    rcases hs : s.ended_at_ms with _ | at_ms
    · simp [hs]
    · split <;> simp [running, hs]

/-- However far they come before an error, no retention, deletion or clear removes a session that
goes on. -/
theorem running_sessions_are_not_removed (now_ms database_footprint_bytes : Int) (progress : Progress)
    (session_id : String) (removed : String → Bool) (db : Database) :
    (db.run_retention now_ms database_footprint_bytes progress).sessions.filter running =
        db.sessions.filter running ∧
      (db.delete_session session_id removed).sessions.filter running = db.sessions.filter running ∧
      (db.clear removed).sessions.filter running = db.sessions.filter running := by
  refine ⟨?_, ?_, (resume_running ..).trans (mark_running ..)⟩
  · unfold run_retention
    dsimp only
    split
    · exact resume_running ..
    · exact (resume_running ..).trans ((mark_running ..).trans (resume_running ..))
  · unfold delete_session
    split
    · exact (resume_running ..).trans (mark_running ..)
    · rfl

end omni_translate.history.Database
