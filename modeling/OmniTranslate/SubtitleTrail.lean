-- The places that the delta stream passes, one for each delta it has sent, and
-- the indexes that stand at them. An index may show more than its place: a
-- baseline read from an overlay that waits for its dispatch has the cues of the
-- next place already, and the deltas up to there change nothing in it.
import OmniTranslate.SubtitleMirror

namespace omni_translate.subtitle_delta

open sentence (Instant)
open translation_lifecycle (SubtitleCue)

variable {U : Type}

/-! ## The order of cursors -/

/-- The cursor of an index. -/
def cursor (index : SubtitleCueIndex) : Nat × Nat := (index.generation, index.seq)

/-- The order in which a stream gives out its cursors. -/
def Before (a b : Nat × Nat) : Prop := a.1 < b.1 ∨ a.1 = b.1 ∧ a.2 < b.2

instance (a b : Nat × Nat) : Decidable (Before a b) := inferInstanceAs (Decidable (_ ∨ _))

theorem Before.trans {a b c : Nat × Nat} (h : Before a b) (h' : Before b c) : Before a c := by
  unfold Before at *
  omega

variable {delta : SubtitleDelta} {index index' : SubtitleCueIndex}

/-- What a delta that applies tells about the index: either it is the reset that the index
waits for, or it is the next delta of the index's generation. -/
theorem applied_cases (h : applySubtitleDeltaToIndex index delta = (.applied, index')) :
    index.streamId = delta.stream_id ∧ index'.streamId = delta.stream_id ∧
      cursor index' = (delta.generation, delta.seq) ∧
      (isExpectedReset index delta = true ∧
          index' = ⟨fun _ => none, [], delta.stream_id, delta.generation, delta.seq⟩ ∨
        delta.operation ≠ .reset ∧ delta.generation = index.generation ∧
          delta.seq = index.seq + 1 ∧ ∃ cue, delta.cue = some cue ∧
            contents index' = apply_cue delta.operation (contents index) cue) := by
  unfold applySubtitleDeltaToIndex at h
  split at h
  · cases h
  · split at h
    · cases h
    · rename_i hstream
      have hstream : delta.stream_id = index.streamId := by simpa using hstream
      split at h
      · cases h
      · rename_i hgen
        split at h
        · cases h
        · split at h
          · cases h
          · rename_i hseq
            split at h
            · rename_i hreset
              cases h
              exact ⟨hstream.symm, rfl, rfl, Or.inl ⟨hreset, rfl⟩⟩
            · rename_i hreset
              have hgen : delta.generation = index.generation := by
                by_contra hne
                exact hgen ⟨hne, by simp [hreset]⟩
              have hseq : delta.seq = index.seq + 1 := by
                by_contra hne
                exact hseq ⟨by simp [hreset], hne⟩
              split at h
              · cases h
              · rename_i cue hcue
                split at h
                · cases h
                · rename_i hop
                  split at h
                  · rename_i hnone
                    cases h
                    exact ⟨hstream.symm, hstream.symm, by simp [cursor, hgen],
                      Or.inr ⟨by simp [hop], hgen, hseq, cue, hcue,
                        by simp [hop, apply_cue, contents, hnone]⟩⟩
                  · rename_i hsome
                    cases h
                    exact ⟨hstream.symm, hstream.symm, by simp [cursor, hgen],
                      Or.inr ⟨by simp [hop], hgen, hseq, cue, hcue,
                        by rw [hop, apply_cue]; exact (if_neg hsome).symm⟩⟩
                · rename_i hop
                  cases h
                  exact ⟨hstream.symm, hstream.symm, by simp [cursor, hgen],
                    Or.inr ⟨by simp [hop], hgen, hseq, cue, hcue, by rw [hop]; rfl⟩⟩

theorem applied_before (h : applySubtitleDeltaToIndex index delta = (.applied, index')) : Before (cursor index) (cursor index') := by
  obtain ⟨_, _, hcur, hcase⟩ := applied_cases h
  rw [hcur]
  unfold Before cursor
  rcases hcase with ⟨hreset, _⟩ | ⟨_, _, _, _⟩
  · simp only [isExpectedReset, decide_eq_true_eq] at hreset
    omega
  · omega

theorem not_applied {result : SubtitleDeltaApplyResult}
    (h : applySubtitleDeltaToIndex index delta = (result, index')) (hr : result ≠ .applied) :
    index' = index ∧ (result = .ignored →
      delta.generation = index.generation ∧ delta.seq ≤ index.seq) := by
  unfold applySubtitleDeltaToIndex at h
  split at h
  · cases h
    exact ⟨rfl, by simp⟩
  · split at h
    · cases h
      exact ⟨rfl, by simp⟩
    · split at h
      · cases h
        exact ⟨rfl, by simp⟩
      · rename_i hgen
        split at h
        · rename_i hseq
          cases h
          refine ⟨rfl, fun _ => ⟨?_, hseq.2⟩⟩
          by_contra hne
          exact hgen ⟨hne, hseq.1⟩
        · split at h
          · cases h
            exact ⟨rfl, by simp⟩
          · split at h
            · cases h
              exact absurd rfl hr
            · split at h
              · cases h
                exact ⟨rfl, by simp⟩
              · split at h
                · cases h
                  exact ⟨rfl, by simp⟩
                · split at h
                  · cases h
                    exact absurd rfl hr
                  · cases h
                    exact absurd rfl hr
                · cases h
                  exact absurd rfl hr

theorem apply_other_stream {index : SubtitleCueIndex} (h : delta.stream_id ≠ index.streamId) :
    applySubtitleDeltaToIndex index delta = (.resync, index) := by
  unfold applySubtitleDeltaToIndex
  by_cases hempty : index.streamId = ""
  · simp [hempty]
  · simp [hempty, h]

/-! ## The trail of the stream -/

/-- The index that a renderer reaches with the first `p` of the deltas that a stream has sent
since its start. -/
def trail (start : SubtitleCueIndex) (sent : List SubtitleDelta) (p : Nat) : SubtitleCueIndex :=
  (applySubtitleDeltas start (sent.take p)).2

variable {start : SubtitleCueIndex} {sent : List SubtitleDelta}

theorem trail_append {p : Nat} (h : p ≤ sent.length) (more : List SubtitleDelta) :
    trail start (sent ++ more) p = trail start sent p := by
  unfold trail
  rw [List.take_append_of_le_length h]

variable {last : SubtitleCueIndex}

/-- Each delta of a list that leads on applies where the deltas before it lead. -/
theorem trail_step (h : Leads start sent last) {p : Nat} (hp : sent[p]? = some delta) :
    applySubtitleDeltaToIndex (trail start sent p) delta = (.applied, trail start sent (p + 1)) := by
  obtain ⟨hlt, hget⟩ := List.getElem?_eq_some_iff.mp hp
  have htake : sent.take (p + 1) = sent.take p ++ [delta] := by
    rw [List.take_add_one, hp]
    rfl
  have hsplit : sent = sent.take p ++ (delta :: sent.drop (p + 1)) := by
    rw [← hget, List.getElem_cons_drop hlt, List.take_append_drop]
  have hresult : (applySubtitleDeltaToIndex (trail start sent p) delta).1 = .applied := by
    apply h.1
    rw [hsplit, applySubtitleDeltas_append]
    simp only [applySubtitleDeltas, List.mem_append, List.mem_cons]
    right
    left
    rw [← hsplit]
    rfl
  refine Prod.ext hresult ?_
  simp only [trail, htake, applySubtitleDeltas_append, applySubtitleDeltas]

theorem trail_before (h : Leads start sent last) {p q : Nat} (hpq : p < q) (hq : q ≤ sent.length) :
    Before (cursor (trail start sent p)) (cursor (trail start sent q)) := by
  induction q with
  | zero => omega
  | succ q ih =>
    have hstep := applied_before (trail_step h (List.getElem?_eq_getElem (by omega : q < sent.length)))
    by_cases heq : p = q
    · rw [heq]
      exact hstep
    · exact (ih (by omega) (by omega)).trans hstep

/-- The order of cursors on the trail is the order of places. -/
theorem trail_le (h : Leads start sent last) {p q : Nat} (hp : p ≤ sent.length)
    (hle : ¬ Before (cursor (trail start sent q)) (cursor (trail start sent p))) : p ≤ q := by
  by_contra hlt
  exact hle (trail_before h (by omega) hp)

theorem trail_streamId (h : Leads start sent last) {p : Nat} (hp : p ≤ sent.length) : (trail start sent p).streamId = start.streamId := by
  induction p with
  | zero => rfl
  | succ p ih =>
    have hstep := trail_step h (List.getElem?_eq_getElem (by omega : p < sent.length))
    obtain ⟨h1, h2, _⟩ := applied_cases hstep
    rw [h2, ← h1]
    exact ih (by omega)

theorem trail_end (h : Leads start sent last) : trail start sent sent.length = last := by
  unfold trail
  rw [List.take_length]
  exact h.2

/-! ## Indexes on the trail -/

/-- An index with the cursor of another. -/
def at_cursor (index place : SubtitleCueIndex) : SubtitleCueIndex :=
  { index with generation := place.generation, seq := place.seq }

/-- The index of a window. -/
def window_index (cues : List SubtitleCue) (place : SubtitleCueIndex) : SubtitleCueIndex :=
  ⟨by_id cues, ids cues, place.streamId, place.generation, place.seq⟩

/-- The delta changes nothing in the contents, unless it resets them. -/
def leaves (delta : SubtitleDelta) (c : Contents) : Prop :=
  delta.operation = .reset ∨
    ∃ cue, delta.cue = some cue ∧ apply_cue delta.operation c cue = c

/-- The index stands at place `c` of the trail. What it shows is reached at that place or at a
later one, where the deltas up to there leave it as it is; or it stands at the end of the trail
and shows a window whose dispatch is `pending`. -/
def StandsAt (start : SubtitleCueIndex) (sent : List SubtitleDelta) (pending : Prop) (c : Nat)
    (index : SubtitleCueIndex) : Prop :=
  c ≤ sent.length ∧
    ((∃ e, c ≤ e ∧ e ≤ sent.length ∧
        index = at_cursor (trail start sent e) (trail start sent c) ∧
        ∀ k delta, c ≤ k → k < e → sent[k]? = some delta →
          leaves delta (contents (trail start sent e))) ∨
      pending ∧ c = sent.length ∧
        ∃ cues, (ids cues).Nodup ∧ index = window_index cues (trail start sent c))

variable {last index index' : SubtitleCueIndex} {delta : SubtitleDelta} {pending : Prop} {c m r : Nat}

theorem standsAt_trail (hc : c ≤ sent.length) :
    StandsAt start sent pending c (trail start sent c) := by
  refine ⟨hc, Or.inl ⟨c, Nat.le_refl _, hc, rfl, ?_⟩⟩
  omega

theorem StandsAt.cursor_eq (hs : StandsAt start sent pending c index) :
    cursor index = cursor (trail start sent c) := by
  obtain ⟨_, ⟨_, _, _, rfl, _⟩ | ⟨_, _, _, _, rfl⟩⟩ := hs
  · rfl
  · rfl

theorem StandsAt.streamId_eq (h : Leads start sent last)
    (hs : StandsAt start sent pending c index) : index.streamId = start.streamId := by
  obtain ⟨hc, ⟨_, _, he, rfl, _⟩ | ⟨_, _, _, _, rfl⟩⟩ := hs
  · exact trail_streamId h he
  · exact trail_streamId h hc

theorem StandsAt.le (h : Leads start sent last) (hs : StandsAt start sent pending c index)
    (hs' : StandsAt start sent pending r index')
    (hle : ¬ Before (cursor index') (cursor index)) : c ≤ r := by
  apply trail_le h hs.1
  rw [← hs.cursor_eq, ← hs'.cursor_eq]
  exact hle

/-- An index at the end of the trail shows what the trail shows, unless a dispatch is pending. -/
theorem StandsAt.at_end (hs : StandsAt start sent pending sent.length index) (hp : ¬ pending) :
    index = trail start sent sent.length := by
  obtain ⟨_, ⟨e, _, _, rfl, _⟩ | ⟨hpend, _⟩⟩ := hs
  · have heq : e = sent.length := by omega
    rw [heq]
    rfl
  · exact absurd hpend hp

theorem StandsAt.imp (hs : StandsAt start sent pending c index) {pending' : Prop}
    (himp : pending → pending') : StandsAt start sent pending' c index := by
  obtain ⟨hc, hs | ⟨hpend, hs⟩⟩ := hs
  · exact ⟨hc, Or.inl hs⟩
  · exact ⟨hc, Or.inr ⟨himp hpend, hs⟩⟩

section

variable (h : Leads start sent last)

include h

/-- A delta that is the next one by cursor is the next one by place. -/
theorem next_place (hc : c ≤ sent.length) (hm : sent[m]? = some delta)
    (hgen : delta.generation = (trail start sent c).generation)
    (hseq : delta.seq = (trail start sent c).seq + 1) : c = m := by
  obtain ⟨_, _⟩ := List.getElem?_eq_some_iff.mp hm
  obtain ⟨_, _, hcur, _⟩ := applied_cases (trail_step h hm)
  have hnext : cursor (trail start sent (m + 1)) =
      ((trail start sent c).generation, (trail start sent c).seq + 1) := by
    rw [hcur, hgen, hseq]
  -- no cursor lies between a cursor and the next of its generation
  rcases Nat.lt_trichotomy c m with hcm | hcm | hcm
  · have h1 := trail_before h hcm (by omega)
    have h2 := trail_before h (show m < m + 1 by omega) (by omega)
    rw [hnext] at h2
    unfold Before cursor at h1 h2
    omega
  · exact hcm
  · rcases Nat.lt_or_ge (m + 1) c with hlt' | _
    · have h1 := trail_before h hlt' hc
      rw [hnext] at h1
      unfold Before cursor at h1
      omega
    · have heq : m + 1 = c := by omega
      rw [heq] at hnext
      simp [cursor] at hnext

/-- The next delta brings an index that is ahead one place on. -/
theorem StandsAt.advance (hs : StandsAt start sent pending m index) (hm : sent[m]? = some delta)
    (hop : delta.operation ≠ .reset) {cue : SubtitleCue} (hcue : delta.cue = some cue)
    (hid : index'.streamId = start.streamId) (hcur : cursor index' = (delta.generation, delta.seq))
    (hcontents : contents index' = apply_cue delta.operation (contents index) cue) :
    StandsAt start sent pending (m + 1) index' := by
  obtain ⟨hlt, _⟩ := List.getElem?_eq_some_iff.mp hm
  have hlink := trail_step h hm
  obtain ⟨_, _, hlinkcur, hlinkcase⟩ := applied_cases hlink
  -- an index is its contents, its stream and its cursor
  have hext : ∀ x : SubtitleCueIndex, contents index' = contents x → x.streamId = start.streamId →
      index' = at_cursor x (trail start sent (m + 1)) := by
    intro x hx hxid
    have hcur' := hcur.trans hlinkcur.symm
    simp only [cursor, Prod.mk.injEq] at hcur'
    simp only [contents, Prod.mk.injEq] at hx
    rcases index' with ⟨_, _, _, _, _⟩
    simp only at hid hcur' hx
    simp only [at_cursor, hx.1, hx.2, hid, hxid, hcur'.1, hcur'.2]
  obtain ⟨_, ⟨e, _, he, rfl, hleaves⟩ | ⟨_, _, _⟩⟩ := hs
  · rcases Nat.lt_or_ge m e with hme | hme
    · refine ⟨hlt, Or.inl ⟨e, hme, he, ?_, fun k delta hk => hleaves k delta (by omega)⟩⟩
      apply hext _ _ (trail_streamId h he)
      rw [hcontents]
      rcases hleaves m delta (Nat.le_refl _) hme hm with hreset | ⟨cue', hcue', hsame⟩
      · exact absurd hreset hop
      · rw [hcue] at hcue'
        cases hcue'
        exact hsame
    · -- the index shows its own place
      have heq : e = m := by omega
      subst heq
      refine ⟨hlt, Or.inl ⟨e + 1, Nat.le_refl _, hlt, ?_, fun k delta hk _ => by omega⟩⟩
      apply hext _ _ (trail_streamId h hlt)
      rcases hlinkcase with ⟨hreset, _⟩ | ⟨_, _, _, cue', hcue', hsame⟩
      · simp only [isExpectedReset, decide_eq_true_eq] at hreset
        exact absurd hreset.1 hop
      · rw [hcue] at hcue'
        cases hcue'
        rw [hcontents, hsame]
        rfl
  · omega

/-- What a delta in turn does to an index on the trail: if it applies, the index is at its place;
if it is ignored, the index is past it. -/
theorem StandsAt.deliver (hs : StandsAt start sent pending c index) (hm : sent[m]? = some delta)
    {result : SubtitleDeltaApplyResult}
    (happly : applySubtitleDeltaToIndex index delta = (result, index')) :
    (result = .applied → StandsAt start sent pending (m + 1) index') ∧
      (result ≠ .applied → index' = index) ∧ (result = .ignored → m + 1 ≤ c) := by
  obtain ⟨hlt, _⟩ := List.getElem?_eq_some_iff.mp hm
  obtain ⟨_, _, hcur, hlinkcase⟩ := applied_cases (trail_step h hm)
  have hplace := hs.cursor_eq
  simp only [cursor, Prod.mk.injEq] at hplace
  refine ⟨?_, ?_, ?_⟩
  · rintro rfl
    obtain ⟨hsame, hid, hcur', hcase⟩ := applied_cases happly
    rcases hcase with ⟨hreset, rfl⟩ | ⟨hop, hgen, hseq, _, hcue, hcontents⟩
    · -- a reset empties the index wherever it applies
      rcases hlinkcase with ⟨_, heq⟩ | ⟨hop, _⟩
      · rw [← heq]
        exact standsAt_trail hlt
      · simp only [isExpectedReset, decide_eq_true_eq] at hreset
        exact absurd hreset.1 hop
    · have hcm : c = m := next_place h hs.1 hm (hgen.trans hplace.1) (by rw [hseq, hplace.2])
      subst hcm
      apply hs.advance h hm hop hcue _ hcur' hcontents
      rw [hid, ← hsame]
      exact hs.streamId_eq h
  · intro hr
    exact (not_applied happly hr).1
  · intro hr
    obtain ⟨hgen, hseq⟩ := (not_applied happly (by rw [hr]; decide)).2 hr
    apply trail_le h hlt
    rw [hcur]
    unfold Before cursor
    omega

/-! ## Places that the deltas in flight go on from -/

/-- An index at place `c` has what the first `m` deltas bring, or the delta after them resets it. -/
def reaches (start : SubtitleCueIndex) (sent : List SubtitleDelta) (m c : Nat) : Prop :=
  m ≤ c ∨ ∃ delta, sent[m]? = some delta ∧ isExpectedReset (trail start sent c) delta = true

theorem reaches.mono (hr : r ≤ sent.length) (hcr : c ≤ r) (hc : reaches start sent m c) :
    reaches start sent m r := by
  rcases Nat.lt_or_ge r m with hlt | hge
  · rcases hc with hc | ⟨delta, hdelta, hreset⟩
    · omega
    · obtain ⟨_, _⟩ := List.getElem?_eq_some_iff.mp hdelta
      simp only [isExpectedReset, decide_eq_true_eq] at hreset
      -- the places up to a reset have the generation before it
      have hgen : (trail start sent m).generation = (trail start sent c).generation := by
        obtain ⟨_, _, _, ⟨hreset', _⟩ | ⟨hop, _⟩⟩ := applied_cases (trail_step h hdelta)
        · simp only [isExpectedReset, decide_eq_true_eq] at hreset'
          omega
        · exact absurd hreset.1 hop
      have hrm := trail_before h hlt (by omega)
      have hsame : (trail start sent r).generation = (trail start sent c).generation := by
        rcases Nat.lt_or_ge c r with hlt' | _
        · have hcr' := trail_before h hlt' hr
          unfold Before cursor at hcr' hrm
          omega
        · rw [show r = c by omega]
      right
      refine ⟨delta, hdelta, ?_⟩
      simp only [isExpectedReset, decide_eq_true_eq, hsame]
      exact hreset
  · exact Or.inl hge

/-- An index that the next delta does not send to a resync goes on from the deltas in flight. -/
theorem StandsAt.reaches_of_not_resync (hs : StandsAt start sent pending c index)
    (hm : sent[m]? = some delta) (happly : (applySubtitleDeltaToIndex index delta).1 ≠ .resync) :
    reaches start sent m c := by
  rcases hresult : applySubtitleDeltaToIndex index delta with ⟨result, _⟩
  rw [hresult] at happly
  obtain ⟨_, _, hignored⟩ := hs.deliver h hm hresult
  have hplace := hs.cursor_eq
  simp only [cursor, Prod.mk.injEq] at hplace
  cases result with
  | applied =>
    obtain ⟨_, _, _, ⟨hreset, _⟩ | ⟨_, hgen, hseq, _⟩⟩ := applied_cases hresult
    · right
      refine ⟨delta, hm, ?_⟩
      simp only [isExpectedReset, decide_eq_true_eq, ← hplace.1] at hreset ⊢
      exact hreset
    · left
      have hcm : c = m := next_place h hs.1 hm (hgen.trans hplace.1) (by rw [hseq, hplace.2])
      omega
  | ignored =>
    left
    have := hignored rfl
    omega
  | resync => exact absurd rfl happly

end

/-! ## The index of a baseline -/

theorem indexBaselineCues_spec (cues : List SubtitleCue) {m : CueMap} {order : List String}
    (hnd : (ids cues).Nodup) (hm : ∀ id ∈ ids cues, m id = none) :
    indexBaselineCues cues (m, order) = (set_cues m cues, order ++ ids cues) := by
  induction cues generalizing m order with
  | nil => simp [indexBaselineCues, set_cues, ids]
  | cons cue cues ih =>
    simp only [ids_cons, List.nodup_cons] at hnd
    have hcue := hm cue.cue_id (by simp)
    simp only [indexBaselineCues, hcue, Option.isSome_none, Bool.false_eq_true, if_false]
    rw [ih hnd.2]
    · simp [set_cues]
    · intro id hid
      rw [Function.update_of_ne (by rintro rfl; exact hnd.1 hid)]
      exact hm id (by simp [hid])

/-- The window that a stream knows. -/
def known_window (s : SubtitleDeltaStream U) : List SubtitleCue :=
  s.ordered_cue_ids.filterMap s.known_cues

theorem Knows.window {s : SubtitleDeltaStream U} {old : List SubtitleCue} (h : Knows s old) :
    known_window s = old := by
  rw [known_window, h.ordered, h.known]
  exact filterMap_by_id h.nodup

theorem indexSubtitleBaseline_eq {cues : List SubtitleCue} (hnd : (ids cues).Nodup)
    (hshort : cues.length ≤ SUBTITLE_WINDOW_LIMIT) (streamId : String) (generation seq : Nat) :
    indexSubtitleBaseline cues streamId generation seq =
      ⟨by_id cues, ids cues, streamId, generation, seq⟩ := by
  unfold indexSubtitleBaseline
  rw [List.take_of_length_le hshort, indexBaselineCues_spec cues hnd (fun _ _ => rfl)]
  rfl

/-! ## A dispatch extends the trail -/

theorem mem_push_all {operation : DeltaOperation} (cues : List SubtitleCue)
    {acc : SubtitleDeltaStream U × List SubtitleDelta} {delta : SubtitleDelta}
    (h : delta ∈ ((cues.map some).foldl (SubtitleDeltaStream.push_delta operation) acc).2) :
    delta ∈ acc.2 ∨ delta.operation = operation ∧ ∃ cue ∈ cues, delta.cue = some cue := by
  induction cues generalizing acc with
  | nil => exact Or.inl h
  | cons cue cues ih =>
    rcases ih h with h | ⟨hop, cue', hmem, hcue⟩
    · rcases List.mem_append.mp h with h | h
      · exact Or.inl h
      · rw [List.mem_singleton.mp h]
        exact Or.inr ⟨rfl, cue, List.mem_cons_self, rfl⟩
    · exact Or.inr ⟨hop, cue', List.mem_cons_of_mem _ hmem, hcue⟩

/-- The deltas of a dispatch change nothing in an index that shows its window already. -/
theorem push_deltas_leave {s : SubtitleDeltaStream U} {old new : List SubtitleCue}
    (h : Knows s old) (hnd : (ids new).Nodup) (hshort : new.length ≤ SUBTITLE_BASELINE_LIMIT)
    {delta : SubtitleDelta} (hdelta : delta ∈ (s.push_deltas new).2) :
    leaves delta (by_id new, ids new) := by
  unfold SubtitleDeltaStream.push_deltas at hdelta
  split at hdelta
  · left
    rw [List.mem_singleton.mp hdelta]
  · rcases mem_push_all _ hdelta with hdelta | ⟨hop, cue, hmem, hcue⟩
    · rcases mem_push_all _ hdelta with hdelta | ⟨hop, cue, hmem, hcue⟩
      · cases hdelta
      · -- a removed cue is not in the window
        refine Or.inr ⟨cue, hcue, ?_⟩
        have hnot := ((mem_ids_removed h hnd).mp (mem_ids.mpr ⟨cue, hmem, rfl⟩)).2
        simp [hop, apply_cue, by_id_of_not_mem hnot]
    · -- an upserted cue is in the window as it is sent
      refine Or.inr ⟨cue, hcue, ?_⟩
      have hin := by_id_of_mem hnd ((mem_changed h).mp hmem).1
      have hcap : (ids new).length ≤ SUBTITLE_WINDOW_LIMIT := by
        rw [ids, List.length_map]
        exact hshort
      simp only [hop, apply_cue, hin, Option.isNone_some, Bool.false_eq_true, if_false]
      rw [capWindow_of_le hcap, ← hin, Function.update_eq_self]

/-- An index at the cursor of the stream shows the window that the stream knows or the one that is
dispatched. -/
def settled_by (s : SubtitleDeltaStream U) (window : List SubtitleCue) (index : SubtitleCueIndex) :
    Prop :=
  index.streamId = s.stream_id → cursor index = (s.generation, s.seq) →
    indexedCues index = known_window s ∨ indexedCues index = window

/-- When a dispatch extends the trail, an index keeps its place. -/
theorem StandsAt.extend {s s' : SubtitleDeltaStream U} {old new : List SubtitleCue}
    {more : List SubtitleDelta} (h : Leads start sent (index_of s)) (hold : Knows s old)
    (hsame : s'.stream_id = s.stream_id) (hs : StandsAt start sent pending c index)
    (hend : trail start (sent ++ more) (sent ++ more).length = index_of s') (hnew : Knows s' new)
    (hleave : ∀ delta ∈ more, leaves delta (by_id new, ids new)) (hsettled : settled_by s new index)
    (pending' : Prop) : StandsAt start (sent ++ more) pending' c index := by
  have hc := hs.1
  have hlen : sent.length ≤ (sent ++ more).length := by simp
  refine ⟨hc.trans hlen, Or.inl ?_⟩
  rw [trail_append hc]
  obtain ⟨_, ⟨e, hce, he, rfl, hleaves⟩ | ⟨_, rfl, cues, hnd, rfl⟩⟩ := hs
  · refine ⟨e, hce, he.trans hlen, by rw [trail_append he], ?_⟩
    intro k delta hk hke hget
    rw [trail_append he]
    apply hleaves k delta hk hke
    rwa [List.getElem?_append_left (by omega)] at hget
  · rw [trail_end h] at hsettled ⊢
    have hcues : indexedCues (window_index cues (index_of s)) = cues := filterMap_by_id hnd
    rcases hsettled rfl rfl with hknown | hwindow
    · -- it shows the known window, which its place shows too
      refine ⟨sent.length, Nat.le_refl _, hlen, ?_, fun k delta hk _ => by omega⟩
      rw [hcues, hold.window] at hknown
      rw [trail_append (Nat.le_refl _), trail_end h, hknown, window_index, index_of, hold.known,
        hold.ordered]
      rfl
    · refine ⟨(sent ++ more).length, hlen, Nat.le_refl _, ?_, ?_⟩
      · rw [hcues] at hwindow
        rw [hend, hwindow, window_index, index_of, index_of, hnew.known, hnew.ordered, hsame]
        rfl
      · intro k delta hk hke hget
        rw [hend, contents, index_of, hnew.known, hnew.ordered]
        apply hleave
        rw [List.getElem?_append_right hk] at hget
        exact List.mem_of_getElem? hget

end omni_translate.subtitle_delta
