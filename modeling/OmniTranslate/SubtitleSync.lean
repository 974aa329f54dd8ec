-- The subtitle window between the native side and the renderer: dispatches and
-- baseline reads of `audio/state.rs`, the store of `stores/app-store.ts` and the
-- resync loop of `bootstrap/connect.ts`. Every read of the overlay, every stamp
-- of a cursor and every delivery is a step of its own, so a run is any
-- interleaving. The law gives conditions under which a quiet system agrees.
import OmniTranslate.Places
import OmniTranslate.SubtitleTrail

namespace omni_translate.subtitle_delta

open places runs
open sentence (Instant)
open translation_lifecycle (SubtitleCue)

variable {U : Type}

/-! ## The two sides -/

/-- A baseline once the stream has stamped its cursor on it. -/
structure Baseline where
  recent_cues : List SubtitleCue
  stream_id : String
  generation : Nat
  seq : Nat

def Baseline.index (b : Baseline) : SubtitleCueIndex :=
  indexSubtitleBaseline b.recent_cues b.stream_id b.generation b.seq

/-- How far `AudioStateStore::snapshot` is for one fetch: it reads the overlay, stamps the
cursor, takes a snapshot number and replies. -/
inductive FetchPhase
  | asked
  | overlay_read (recent_cues : List SubtitleCue)
  | stamped (b : Baseline)
  | replied (b : Baseline) (snapshot_seq : Nat)

/-- A fetch of the renderer. The fetch of the resync loop carries the request generation that
the loop captured. -/
structure Fetch where
  captured : Option Nat
  phase : FetchPhase

/-- A dispatch between its read of the overlay and its turn at the stream. The record `current`
says that the overlay has not changed since the read. -/
structure PendingDispatch where
  recent_cues : List SubtitleCue
  snapshot_seq : Nat
  current : Bool

/-- Both sides and what is in flight between them. The record `dispatched` says that the overlay
has been dispatched since its last change. -/
structure System (U : Type) where
  recent_cues : List SubtitleCue
  dispatched : Bool
  stream : SubtitleDeltaStream U
  snapshot_seq : Nat
  dispatches : List PendingDispatch
  deltas : List SubtitleDelta
  pushes : List Nat
  fetches : List Fetch
  index : SubtitleCueIndex
  snapshotSeq : Nat
  resyncInFlight : Bool
  subtitleResyncRequestedGeneration : Nat

inductive Op (U : Type)
  | set_overlay (recent_cues : List SubtitleCue)
  | begin_dispatch
  | finish_dispatch (i : Nat) (urgent_fingerprint : U) (now : Instant)
  | ask_baseline
  | read_overlay (i : Nat)
  | stamp_cursor (i : Nat)
  | reply (i : Nat)
  | deliver_delta
  | deliver_push
  | deliver_baseline (i : Nat)

namespace System

/-- The cue that the store shows before it has a baseline. -/
def preview_cue : SubtitleCue where
  cue_id := "browser-preview-cue-1"
  revision := none
  sequence := none
  route_direction := "inbound"
  source_text := "浏览器预览模式".toList
  display_source_text := []
  display_segments := [⟨"浏览器预览模式".toList, "这里会显示真实歌词字幕".toList, false⟩]
  translated_text := "这里会显示真实歌词字幕".toList
  started_at := 0
  ended_at := 0
  committed := true
  translation_committed := true
  translation_state := none

def PREVIEW_STREAM_ID : String := "preview-subtitle-stream"

/-- The renderer starts with the preview in its index and asks for its first baseline. -/
def new (stream_id : String) : System U where
  recent_cues := []
  dispatched := true
  stream := SubtitleDeltaStream.new stream_id
  snapshot_seq := 0
  dispatches := []
  deltas := []
  pushes := []
  fetches := [⟨none, .asked⟩]
  index := indexSubtitleBaseline [preview_cue] PREVIEW_STREAM_ID 1 0
  snapshotSeq := 0
  resyncInFlight := false
  subtitleResyncRequestedGeneration := 0

/-- `setAudioRuntimeSnapshot` drops a snapshot that is not newer than the last one. -/
def is_stale (s : System U) (snapshot_seq : Nat) : Bool :=
  snapshot_seq > 0 ∧ snapshot_seq ≤ s.snapshotSeq

def set_phase (s : System U) (i : Nat) (f : Fetch) (phase : FetchPhase) : System U :=
  { s with fetches := s.fetches.set i { f with phase } }

/-- `resyncSubtitleBaseline`. -/
def resyncSubtitleBaseline (s : System U) : System U :=
  let requested := s.subtitleResyncRequestedGeneration + 1
  if s.resyncInFlight then { s with subtitleResyncRequestedGeneration := requested }
  else
    { s with
      subtitleResyncRequestedGeneration := requested
      resyncInFlight := true
      fetches := s.fetches ++ [⟨some requested, .asked⟩] }

/-- A fetch leaves; the resync loop goes on while a newer request waits. -/
def end_fetch (s : System U) (i : Nat) (f : Fetch) : System U :=
  match f.captured with
  | none => { s with fetches := s.fetches.eraseIdx i }
  | some captured =>
    if captured < s.subtitleResyncRequestedGeneration then
      { s with
        fetches := s.fetches.set i ⟨some s.subtitleResyncRequestedGeneration, .asked⟩ }
    else { s with fetches := s.fetches.eraseIdx i, resyncInFlight := false }

/-- A baseline replaces the index unless its snapshot is stale. -/
def set_baseline (s : System U) (b : Baseline) (snapshot_seq : Nat) : System U :=
  if s.is_stale snapshot_seq then s
  else { s with index := b.index, snapshotSeq := snapshot_seq }

def step [DecidableEq U] (s : System U) : Op U → System U
  | .set_overlay recent_cues =>
    if (ids recent_cues).Nodup then
      { s with
        recent_cues
        dispatched := false
        dispatches := s.dispatches.map fun d => { d with current := false } }
    else s
  | .begin_dispatch =>
    { s with
      dispatches := s.dispatches ++
        [⟨s.recent_cues.take SUBTITLE_BASELINE_LIMIT, s.snapshot_seq + 1, true⟩]
      snapshot_seq := s.snapshot_seq + 1 }
  | .finish_dispatch i urgent_fingerprint now =>
    match s.dispatches[i]? with
    | none => s
    | some d =>
      let (stream, batch) := s.stream.prepare_dispatch d.recent_cues urgent_fingerprint now
      { s with
        stream
        dispatched := s.dispatched || d.current
        dispatches := s.dispatches.eraseIdx i
        deltas := s.deltas ++ batch.deltas
        pushes := if batch.emit_audio_snapshot then s.pushes ++ [d.snapshot_seq] else s.pushes }
  | .ask_baseline => { s with fetches := s.fetches ++ [⟨none, .asked⟩] }
  | .read_overlay i =>
    match s.fetches[i]? with
    | some f => match f.phase with
      | .asked => s.set_phase i f (.overlay_read (s.recent_cues.take SUBTITLE_BASELINE_LIMIT))
      | _ => s
    | none => s
  | .stamp_cursor i =>
    match s.fetches[i]? with
    | some f => match f.phase with
      | .overlay_read recent_cues => s.set_phase i f (.stamped
          ⟨recent_cues.take SUBTITLE_BASELINE_LIMIT, s.stream.stream_id, s.stream.generation,
            s.stream.seq⟩)
      | _ => s
    | none => s
  | .reply i =>
    match s.fetches[i]? with
    | some f => match f.phase with
      | .stamped b =>
        { s.set_phase i f (.replied b (s.snapshot_seq + 1)) with
          snapshot_seq := s.snapshot_seq + 1 }
      | _ => s
    | none => s
  | .deliver_delta =>
    match s.deltas with
    | [] => s
    | delta :: deltas =>
      let (result, index) := applySubtitleDeltaToIndex s.index delta
      let s := { s with deltas, index }
      if result = .resync then s.resyncSubtitleBaseline else s
  | .deliver_push =>
    match s.pushes with
    | [] => s
    | snapshot_seq :: pushes =>
      if s.is_stale snapshot_seq then { s with pushes }
      else { s with pushes, snapshotSeq := snapshot_seq }
  | .deliver_baseline i =>
    match s.fetches[i]? with
    | some f => match f.phase with
      | .replied b snapshot_seq => (s.set_baseline b snapshot_seq).end_fetch i f
      | _ => s
    | none => s

end System

/-! ## The conditions -/

/-- The baseline of a fetch, once its cursor is stamped. -/
def FetchPhase.baseline : FetchPhase → Option Baseline
  | .asked => none
  | .overlay_read _ => none
  | .stamped b => some b
  | .replied b _ => some b

variable (s : System U)

/-- The indexes that hold a baseline or may come to hold one: the renderer's own and those of the
baselines in flight. -/
def indexes : List SubtitleCueIndex :=
  s.index :: s.fetches.filterMap fun f => f.phase.baseline.map Baseline.index

/-- An index that the deltas in flight bring up to the stream. -/
def caught_up (index : SubtitleCueIndex) : Prop :=
  index.streamId = s.stream.stream_id ∧
    match s.deltas with
    | [] => cursor index = (s.stream.generation, s.stream.seq)
    | delta :: _ => (applySubtitleDeltaToIndex index delta).1 ≠ .resync

/-- The conditions under which the two sides stay together. A dispatch keeps the order of the
window, has room in its counters, and finds no index at the cursor of the stream that shows
anything but the known window or the dispatched one. A baseline is stamped with the window that
the stream knows, or while a change of the overlay waits for its dispatch. And the snapshot numbers
never make the renderer keep the older of two cursors: a stale baseline is not ahead of the index,
a fresh one is not behind it, unless the deltas in flight make up for it. -/
def stays_together : Op U → Prop
  | .finish_dispatch i _ _ => match s.dispatches[i]? with
    | none => True
    | some d => keeps_order s.stream d.recent_cues ∧ safe_counters s.stream ∧
        ∀ index ∈ indexes s,
          settled_by s.stream (d.recent_cues.take SUBTITLE_BASELINE_LIMIT) index
  | .stamp_cursor i => match s.fetches[i]? with
    | some ⟨_, .overlay_read recent_cues⟩ =>
      recent_cues = known_window s.stream ∨ s.dispatched = false
    | _ => True
  | .deliver_baseline i => match s.fetches[i]? with
    | some ⟨_, .replied b snapshot_seq⟩ =>
      if s.is_stale snapshot_seq then
        s.index.streamId = b.stream_id ∧ ¬ Before (cursor s.index) (b.generation, b.seq) ∨
          caught_up s s.index
      else
        (s.index.streamId = b.stream_id → ¬ Before (b.generation, b.seq) (cursor s.index)) ∨
          caught_up s b.index
    | _ => True
  | _ => True

/-- No dispatch, message or fetch is under way. -/
def quiet : Prop :=
  s.dispatches = [] ∧ s.deltas = [] ∧ s.pushes = [] ∧ s.fetches = []

/-! ## The invariant -/

/-- The dispatch of a change of the overlay is still to come. -/
def pending : Prop := s.dispatched = false

/-- The fetch brings the index to a place that the deltas in flight go on from. -/
def covers (start : SubtitleCueIndex) (sent : List SubtitleDelta) (m : Nat) (p : Prop) (f : Fetch) :
    Prop :=
  ∀ b, f.phase.baseline = some b →
    ∃ r, StandsAt start sent p r b.index ∧ reaches start sent m r

/-- The fetch belongs to the resync loop and is older than the last request. -/
def outdated (f : Fetch) : Prop :=
  ∃ captured, f.captured = some captured ∧ captured < s.subtitleResyncRequestedGeneration

/-- The index stands where the deltas in flight go on, or a fetch will bring it there. -/
def healing (s : System U) (start : SubtitleCueIndex) (sent : List SubtitleDelta) (m : Nat) :
    Prop :=
  (∃ c, StandsAt start sent (pending s) c s.index ∧ reaches start sent m c) ∨
    (∃ f ∈ s.fetches, covers start sent m (pending s) f) ∨ ∃ f ∈ s.fetches, outdated s f

/-- A fetch holds distinct cues, and once it is stamped it stands on the trail. -/
structure Sound (start : SubtitleCueIndex) (sent : List SubtitleDelta) (p : Prop) (f : Fetch) :
    Prop where
  overlay : ∀ cues, f.phase = .overlay_read cues →
    (ids cues).Nodup ∧ cues.length ≤ SUBTITLE_BASELINE_LIMIT
  baseline : ∀ b, f.phase.baseline = some b → ∃ r, StandsAt start sent p r b.index

/-- The stream has sent `sent` since `start`, and the first `m` of these deltas are delivered. -/
structure OnTrail (s : System U) (start : SubtitleCueIndex) (sent : List SubtitleDelta) (m : Nat) :
    Prop where
  distinct : (ids s.recent_cues).Nodup
  dispatches : ∀ d ∈ s.dispatches, (ids d.recent_cues).Nodup
  knows : ∃ old, Knows s.stream old
  streamId : s.stream.stream_id = start.streamId
  started : start.streamId ≠ ""
  leads : Leads start sent (index_of s.stream)
  delivered : m ≤ sent.length
  deltas : s.deltas = sent.drop m
  fetches : ∀ f ∈ s.fetches, Sound start sent (pending s) f
  index : s.index.streamId ≠ start.streamId ∨
    ∃ c, StandsAt start sent (pending s) c s.index
  loop : s.resyncInFlight = true → ∃ f ∈ s.fetches, ∃ captured, f.captured = some captured ∧
    captured ≤ s.subtitleResyncRequestedGeneration
  healing : healing s start sent m

/-! ## The steps -/

variable {start : SubtitleCueIndex} {sent : List SubtitleDelta} {s : System U} {m : Nat}

theorem sound_asked (p : Prop) (captured : Option Nat) : Sound start sent p ⟨captured, .asked⟩ where
  overlay := by simp
  baseline := by simp [FetchPhase.baseline]

theorem covers_asked (p : Prop) (captured : Option Nat) :
    covers start sent m p ⟨captured, .asked⟩ := by
  simp [covers, FetchPhase.baseline]

theorem index_mem_indexes : s.index ∈ indexes s := List.mem_cons_self

theorem baseline_mem_indexes {f : Fetch} (hf : f ∈ s.fetches) {b : Baseline}
    (hb : f.phase.baseline = some b) : b.index ∈ indexes s := by
  refine List.mem_cons_of_mem _ (List.mem_filterMap.mpr ⟨f, hf, ?_⟩)
  rw [hb]
  rfl

theorem reaches_append {c : Nat} (hc : c ≤ sent.length) (h : reaches start sent m c)
    (more : List SubtitleDelta) : reaches start (sent ++ more) m c := by
  rcases h with h | ⟨delta, hdelta, hreset⟩
  · exact Or.inl h
  · obtain ⟨hm, _⟩ := List.getElem?_eq_some_iff.mp hdelta
    refine Or.inr ⟨delta, ?_, ?_⟩
    · rw [List.getElem?_append_left hm]
      exact hdelta
    · rw [trail_append hc]
      exact hreset

section

variable (h : OnTrail s start sent m)

include h

/-- A dispatch under its conditions extends the trail. -/
theorem OnTrail.finish_dispatch [DecidableEq U] {i : Nat} {d : PendingDispatch}
    (hd : s.dispatches[i]? = some d) (horder : keeps_order s.stream d.recent_cues)
    (hsafe : safe_counters s.stream) (hsettled : ∀ index ∈ indexes s,
      settled_by s.stream (d.recent_cues.take SUBTITLE_BASELINE_LIMIT) index)
    (urgent_fingerprint : U) (now : Instant) :
    ∃ sent', OnTrail (s.step (.finish_dispatch i urgent_fingerprint now)) start sent' m := by
  obtain ⟨old, hold⟩ := h.knows
  have hnd := h.dispatches d (List.mem_of_getElem? hd)
  have hwindow : (ids (d.recent_cues.take SUBTITLE_BASELINE_LIMIT)).Nodup :=
    hnd.sublist ((List.take_sublist _ _).map _)
  have hstream : s.stream.stream_id ≠ "" := by
    rw [h.streamId]
    exact h.started
  obtain ⟨hleads, hid⟩ := prepare_dispatch_leads hold hnd hsafe (agrees_index_of hstream)
    urgent_fingerprint now
  have hknows := knows_dispatched s.stream hnd urgent_fingerprint now
  have hleave : ∀ delta ∈ (s.stream.prepare_dispatch d.recent_cues urgent_fingerprint now).2.deltas,
      leaves delta (by_id (d.recent_cues.take SUBTITLE_BASELINE_LIMIT),
        ids (d.recent_cues.take SUBTITLE_BASELINE_LIMIT)) := fun delta hdelta =>
    push_deltas_leave hold hwindow (List.length_take_le _ _) hdelta
  -- the order is kept, so the deltas lead to the index of the stream
  have hindex : (⟨by_id (d.recent_cues.take SUBTITLE_BASELINE_LIMIT),
      shown_order (ids old) (ids (d.recent_cues.take SUBTITLE_BASELINE_LIMIT)),
      (s.stream.prepare_dispatch d.recent_cues urgent_fingerprint now).1.stream_id,
      (s.stream.prepare_dispatch d.recent_cues urgent_fingerprint now).1.generation,
      (s.stream.prepare_dispatch d.recent_cues urgent_fingerprint now).1.seq⟩ : SubtitleCueIndex) =
        index_of (s.stream.prepare_dispatch d.recent_cues urgent_fingerprint now).1 := by
    unfold keeps_order at horder
    rw [hold.ordered] at horder
    rw [index_of, hknows.known, hknows.ordered, ← horder]
  rw [hindex] at hleads
  have hall := h.leads.append hleads
  have hkeep : ∀ index ∈ indexes s, ∀ p c, StandsAt start sent (pending s) c index →
      StandsAt start (sent ++
        (s.stream.prepare_dispatch d.recent_cues urgent_fingerprint now).2.deltas) p c index :=
    fun index hmem p c hs =>
      hs.extend h.leads hold hid (trail_end hall) hknows hleave (hsettled index hmem) p
  refine ⟨sent ++ (s.stream.prepare_dispatch d.recent_cues urgent_fingerprint now).2.deltas, ?_⟩
  simp only [System.step, hd]
  refine ⟨h.distinct, ?_, ⟨_, hknows⟩, ?_, h.started, hall, ?_, ?_, ?_, ?_, h.loop, ?_⟩
  · intro d' hd'
    exact h.dispatches d' (List.mem_of_mem_eraseIdx hd')
  · rw [← h.streamId]
    exact hid
  · have := h.delivered
    simp only [List.length_append]
    omega
  · simp only [h.deltas]
    rw [List.drop_append_of_le_length h.delivered]
  · intro f hf
    refine ⟨(h.fetches f hf).overlay, fun b hb => ?_⟩
    obtain ⟨r, hr⟩ := (h.fetches f hf).baseline b hb
    exact ⟨r, hkeep _ (baseline_mem_indexes hf hb) _ _ hr⟩
  · rcases h.index with hne | ⟨c, hc⟩
    · exact Or.inl hne
    · exact Or.inr ⟨c, hkeep _ index_mem_indexes _ _ hc⟩
  · rcases h.healing with ⟨c, hc, hreach⟩ | ⟨f, hf, hcov⟩ | hout
    · exact Or.inl ⟨c, hkeep _ index_mem_indexes _ _ hc, reaches_append hc.1 hreach _⟩
    · refine Or.inr (Or.inl ⟨f, hf, fun b hb => ?_⟩)
      obtain ⟨r, hr, hreach⟩ := hcov b hb
      exact ⟨r, hkeep _ (baseline_mem_indexes hf hb) _ _ hr, reaches_append hr.1 hreach _⟩
    · exact Or.inr (Or.inr hout)

/-- A change of the overlay makes its dispatch pending. -/
theorem OnTrail.set_overlay {recent_cues : List SubtitleCue} (hnd : (ids recent_cues).Nodup)
    (dispatches : List PendingDispatch)
    (hdispatches : ∀ d ∈ dispatches, (ids d.recent_cues).Nodup) :
    OnTrail { s with recent_cues, dispatched := false, dispatches } start sent m := by
  have himp : ∀ {c index}, StandsAt start sent (pending s) c index →
      StandsAt start sent (false = false) c index := fun hs => hs.imp fun _ => rfl
  refine ⟨hnd, hdispatches, h.knows, h.streamId, h.started, h.leads, h.delivered, h.deltas, ?_, ?_,
    h.loop, ?_⟩
  · intro f hf
    refine ⟨(h.fetches f hf).overlay, fun b hb => ?_⟩
    obtain ⟨r, hr⟩ := (h.fetches f hf).baseline b hb
    exact ⟨r, himp hr⟩
  · rcases h.index with hne | ⟨c, hc⟩
    · exact Or.inl hne
    · exact Or.inr ⟨c, himp hc⟩
  · rcases h.healing with ⟨c, hc, hreach⟩ | ⟨f, hf, hcov⟩ | hout
    · exact Or.inl ⟨c, himp hc, hreach⟩
    · refine Or.inr (Or.inl ⟨f, hf, fun b hb => ?_⟩)
      obtain ⟨r, hr, hreach⟩ := hcov b hb
      exact ⟨r, himp hr, hreach⟩
    · exact Or.inr (Or.inr hout)

/-- A fetch that goes on to its next phase, and what its new phase must keep. -/
theorem OnTrail.set_phase {i : Nat} {f : Fetch} (hf : s.fetches[i]? = some f) (phase : FetchPhase)
    (hsound : Sound start sent (pending s) { f with phase })
    (hcov : covers start sent m (pending s) f → covers start sent m (pending s) { f with phase }) :
    OnTrail (s.set_phase i f phase) start sent m := by
  refine ⟨h.distinct, h.dispatches, h.knows, h.streamId, h.started, h.leads, h.delivered, h.deltas,
    forall_put_in h.fetches hsound i, h.index, ?_, ?_⟩
  · intro hr
    exact exists_put_in hf (h.loop hr) fun hc => hc
  · rcases h.healing with hc | hc | hc
    · exact Or.inl hc
    · exact Or.inr (Or.inl (exists_put_in hf hc hcov))
    · exact Or.inr (Or.inr (exists_put_in hf hc fun ho => ho))

/-- A stamped baseline stands at the end of the trail. -/
theorem OnTrail.stamped_stands {cues : List SubtitleCue} (hnd : (ids cues).Nodup)
    (hshort : cues.length ≤ SUBTITLE_BASELINE_LIMIT)
    (hok : cues = known_window s.stream ∨ pending s) :
    StandsAt start sent (pending s) sent.length
      (⟨cues.take SUBTITLE_BASELINE_LIMIT, s.stream.stream_id, s.stream.generation, s.stream.seq⟩ :
        Baseline).index := by
  have hend := trail_end h.leads
  have hindex : (⟨cues.take SUBTITLE_BASELINE_LIMIT, s.stream.stream_id, s.stream.generation,
      s.stream.seq⟩ : Baseline).index = window_index cues (trail start sent sent.length) := by
    rw [Baseline.index, List.take_of_length_le hshort, indexSubtitleBaseline_eq hnd hshort, hend]
    rfl
  rw [hindex]
  rcases hok with rfl | hpending
  · obtain ⟨_, hold⟩ := h.knows
    have htrail : window_index (known_window s.stream) (trail start sent sent.length) =
        trail start sent sent.length := by
      rw [hend, window_index, index_of, hold.window, hold.known, hold.ordered]
    rw [htrail]
    exact standsAt_trail (Nat.le_refl _)
  · exact ⟨Nat.le_refl _, Or.inr ⟨hpending, rfl, cues, hnd, rfl⟩⟩

theorem OnTrail.stamp {i : Nat} {f : Fetch} {cues : List SubtitleCue} (hf : s.fetches[i]? = some f)
    (hphase : f.phase = .overlay_read cues) (hok : cues = known_window s.stream ∨ pending s) :
    OnTrail (s.set_phase i f (.stamped ⟨cues.take SUBTITLE_BASELINE_LIMIT, s.stream.stream_id,
      s.stream.generation, s.stream.seq⟩)) start sent m := by
  obtain ⟨hnd, hshort⟩ := (h.fetches f (List.mem_of_getElem? hf)).overlay cues hphase
  have hstands := h.stamped_stands hnd hshort hok
  apply h.set_phase hf
  · refine ⟨by simp, ?_⟩
    rintro b ⟨⟩
    exact ⟨_, hstands⟩
  · rintro _ b ⟨⟩
    exact ⟨_, hstands, Or.inl h.delivered⟩

/-- A request for a resync leaves a fetch that heals, whatever the index. -/
theorem OnTrail.request (m' : Nat) (index : SubtitleCueIndex) (deltas : List SubtitleDelta)
    (hm : m' ≤ sent.length) (hdeltas : deltas = sent.drop m')
    (hindex : index.streamId ≠ start.streamId ∨ ∃ c, StandsAt start sent (pending s) c index) :
    OnTrail ({ s with deltas, index }.resyncSubtitleBaseline) start sent m' := by
  unfold System.resyncSubtitleBaseline
  split
  · rename_i hr
    obtain ⟨f, hf, captured, hcap, _⟩ := h.loop hr
    refine ⟨h.distinct, h.dispatches, h.knows, h.streamId, h.started, h.leads, hm, hdeltas,
      h.fetches, hindex, ?_, ?_⟩
    · intro _
      exact ⟨f, hf, captured, hcap, by simp only; omega⟩
    · exact Or.inr (Or.inr ⟨f, hf, captured, hcap, by simp only; omega⟩)
  · refine ⟨h.distinct, h.dispatches, h.knows, h.streamId, h.started, h.leads, hm, hdeltas,
      ?_, hindex, ?_, ?_⟩
    · intro f hf
      rcases List.mem_append.mp hf with hf | hf
      · exact h.fetches f hf
      · rw [List.mem_singleton.mp hf]
        exact sound_asked _ _
    · intro _
      exact ⟨⟨some (s.subtitleResyncRequestedGeneration + 1), .asked⟩, by simp, _, rfl,
        Nat.le_refl _⟩
    · exact Or.inr (Or.inl ⟨⟨some (s.subtitleResyncRequestedGeneration + 1), .asked⟩, by simp,
        covers_asked _ _⟩)

theorem OnTrail.next_delta {delta : SubtitleDelta} {deltas : List SubtitleDelta}
    (hd : s.deltas = delta :: deltas) : sent[m]? = some delta ∧ deltas = sent.drop (m + 1) := by
  have hdrop : sent.drop m = delta :: deltas := by rw [← h.deltas, hd]
  constructor
  · rw [← List.head?_drop, hdrop]
    rfl
  · rw [← List.tail_drop, hdrop]
    rfl

theorem OnTrail.deliver_delta [DecidableEq U] :
    ∃ m', OnTrail (s.step .deliver_delta) start sent m' := by
  simp only [System.step]
  split
  · exact ⟨m, h⟩
  · rename_i delta deltas hd
    obtain ⟨hget, hdeltas⟩ := h.next_delta hd
    obtain ⟨hlt, _⟩ := List.getElem?_eq_some_iff.mp hget
    have hm : m + 1 ≤ sent.length := hlt
    have hstream : delta.stream_id = start.streamId := by
      rw [← (applied_cases (trail_step h.leads hget)).1]
      exact trail_streamId h.leads (by omega)
    refine ⟨m + 1, ?_⟩
    rcases h.index with hne | ⟨c, hc⟩
    · rw [apply_other_stream (by rw [hstream]; exact hne.symm)]
      exact h.request (m + 1) s.index deltas hm hdeltas (Or.inl hne)
    · rcases happly : applySubtitleDeltaToIndex s.index delta with ⟨result, _⟩
      obtain ⟨happlied, hkept, hignored⟩ := hc.deliver h.leads hget happly
      cases result with
      | applied =>
        have hi := happlied rfl
        exact ⟨h.distinct, h.dispatches, h.knows, h.streamId, h.started, h.leads, hm, hdeltas,
          h.fetches, Or.inr ⟨m + 1, hi⟩, h.loop, Or.inl ⟨m + 1, hi, Or.inl (Nat.le_refl _)⟩⟩
      | ignored =>
        have hi := hkept (by decide)
        subst hi
        exact ⟨h.distinct, h.dispatches, h.knows, h.streamId, h.started, h.leads, hm, hdeltas,
          h.fetches, Or.inr ⟨c, hc⟩, h.loop, Or.inl ⟨c, hc, Or.inl (hignored rfl)⟩⟩
      | resync =>
        have hi := hkept (by decide)
        subst hi
        exact h.request (m + 1) s.index deltas hm hdeltas (Or.inr ⟨c, hc⟩)

/-- A fetch that leaves takes no healing with it when the index is healed by what it brought. -/
theorem OnTrail.end_fetch {i : Nat} {f : Fetch} (hf : s.fetches[i]? = some f)
    (hcov : covers start sent m (pending s) f →
      ∃ c, StandsAt start sent (pending s) c s.index ∧ reaches start sent m c) :
    OnTrail (s.end_fetch i f) start sent m := by
  -- the loop's own fetch is the one that is outdated, or another fetch heals
  have hrest : ¬ outdated s f →
      (∃ c, StandsAt start sent (pending s) c s.index ∧ reaches start sent m c) ∨
      (∃ f' ∈ s.fetches.eraseIdx i, covers start sent m (pending s) f') ∨
      ∃ f' ∈ s.fetches.eraseIdx i, outdated s f' := by
    intro hout
    rcases h.healing with hc | hc | hc
    · exact Or.inl hc
    · rcases exists_take_out hf hc with hc | hc
      · exact Or.inl (hcov hc)
      · exact Or.inr (Or.inl hc)
    · rcases exists_take_out hf hc with hc | hc
      · exact absurd hc hout
      · exact Or.inr (Or.inr hc)
  have hfetches : ∀ f' ∈ s.fetches.eraseIdx i, Sound start sent (pending s) f' := fun f' hf' =>
    h.fetches f' (List.mem_of_mem_eraseIdx hf')
  unfold System.end_fetch
  cases hcap : f.captured with
  | none =>
    refine ⟨h.distinct, h.dispatches, h.knows, h.streamId, h.started, h.leads, h.delivered,
      h.deltas, hfetches, h.index, ?_, ?_⟩
    · intro hr
      rcases exists_take_out hf (h.loop hr) with ⟨captured, hsome, _⟩ | hex
      · rw [hcap] at hsome
        cases hsome
      · exact hex
    · apply hrest
      rintro ⟨captured, hsome, _⟩
      rw [hcap] at hsome
      cases hsome
  | some captured =>
    simp only
    split
    · -- a newer request waits: the loop asks again
      have hmem := List.mem_set (List.getElem?_eq_some_iff.mp hf).1
        (⟨some s.subtitleResyncRequestedGeneration, .asked⟩ : Fetch)
      refine ⟨h.distinct, h.dispatches, h.knows, h.streamId, h.started, h.leads, h.delivered,
        h.deltas, forall_put_in h.fetches (sound_asked _ _) i, h.index, ?_, ?_⟩
      · intro _
        exact ⟨_, hmem, _, rfl, Nat.le_refl _⟩
      · exact Or.inr (Or.inl ⟨_, hmem, covers_asked _ _⟩)
    · rename_i hlast
      refine ⟨h.distinct, h.dispatches, h.knows, h.streamId, h.started, h.leads, h.delivered,
        h.deltas, hfetches, h.index, by simp, ?_⟩
      apply hrest
      rintro ⟨_, hsome, hlt⟩
      rw [hcap] at hsome
      cases hsome
      exact hlast hlt

/-- An index on the trail that the deltas in flight bring up to the stream. -/
theorem OnTrail.reaches_of_caught_up {index : SubtitleCueIndex} {c : Nat}
    (hc : StandsAt start sent (pending s) c index) (hup : caught_up s index) :
    reaches start sent m c := by
  obtain ⟨_, hup⟩ := hup
  cases hd : s.deltas with
  | nil =>
    rw [hd] at hup
    left
    have hend : sent.length ≤ c := by
      apply trail_le h.leads (Nat.le_refl _)
      rw [← hc.cursor_eq, hup, trail_end h.leads]
      unfold Before cursor index_of
      simp only
      omega
    have := h.delivered
    omega
  | cons _ deltas =>
    rw [hd] at hup
    exact hc.reaches_of_not_resync h.leads (h.next_delta hd).1 hup

theorem OnTrail.stands_of_caught_up (hup : caught_up s s.index) :
    ∃ c, StandsAt start sent (pending s) c s.index := by
  rcases h.index with hne | hc
  · exact absurd (hup.1.trans h.streamId) hne
  · exact hc

/-- A baseline arrives, and the renderer keeps the newer cursor or needs none. -/
theorem OnTrail.deliver_baseline {i : Nat} {f : Fetch} {b : Baseline} {snapshot_seq : Nat}
    (hf : s.fetches[i]? = some f) (hphase : f.phase = .replied b snapshot_seq)
    (hok : stays_together s (.deliver_baseline i)) :
    OnTrail ((s.set_baseline b snapshot_seq).end_fetch i f) start sent m := by
  obtain ⟨_, phase⟩ := f
  subst hphase
  simp only [stays_together, hf] at hok
  obtain ⟨r, hr⟩ := (h.fetches _ (List.mem_of_getElem? hf)).baseline b rfl
  have hid : b.stream_id = start.streamId := hr.streamId_eq h.leads
  unfold System.set_baseline
  split
  · -- the stale baseline is dropped
    rename_i hstale
    rw [if_pos hstale] at hok
    apply h.end_fetch hf
    intro hcov
    obtain ⟨_, hr', hreach⟩ := hcov b rfl
    rcases hok with ⟨hsame, hbefore⟩ | hup
    · rcases h.index with hne | ⟨c, hc⟩
      · exact absurd (hsame.trans hid) hne
      · exact ⟨c, hc, reaches.mono h.leads hc.1 (hr'.le h.leads hc hbefore) hreach⟩
    · obtain ⟨c, hc⟩ := h.stands_of_caught_up hup
      exact ⟨c, hc, h.reaches_of_caught_up hc hup⟩
  · rename_i hfresh
    rw [if_neg hfresh] at hok
    have hset : OnTrail { s with index := b.index, snapshotSeq := snapshot_seq } start sent m := by
      refine ⟨h.distinct, h.dispatches, h.knows, h.streamId, h.started, h.leads, h.delivered,
        h.deltas, h.fetches, Or.inr ⟨r, hr⟩, h.loop, ?_⟩
      rcases h.healing with ⟨c, hc, hreach⟩ | hc | hc
      · refine Or.inl ⟨r, hr, ?_⟩
        rcases hok with hforward | hup
        · -- the baseline is no step back on the trail
          have hsame : s.index.streamId = b.stream_id := by
            rw [hc.streamId_eq h.leads, hid]
          exact reaches.mono h.leads hr.1 (hc.le h.leads hr (hforward hsame)) hreach
        · exact h.reaches_of_caught_up hr hup
      · exact Or.inr (Or.inl hc)
      · exact Or.inr (Or.inr hc)
    apply hset.end_fetch hf
    intro hcov
    exact hcov b rfl

theorem OnTrail.ask_baseline [DecidableEq U] : OnTrail (s.step .ask_baseline) start sent m := by
  refine { h with fetches := ?_, loop := ?_, healing := ?_ }
  · intro f hf
    rcases List.mem_append.mp hf with hf | hf
    · exact h.fetches f hf
    · rw [List.mem_singleton.mp hf]
      exact sound_asked _ _
  · intro hr
    obtain ⟨f, hf, hc⟩ := h.loop hr
    exact ⟨f, List.mem_append_left _ hf, hc⟩
  · rcases h.healing with hc | ⟨f, hf, hc⟩ | ⟨f, hf, hc⟩
    · exact Or.inl hc
    · exact Or.inr (Or.inl ⟨f, List.mem_append_left _ hf, hc⟩)
    · exact Or.inr (Or.inr ⟨f, List.mem_append_left _ hf, hc⟩)

/-- A reply carries the baseline that the fetch has read. -/
theorem OnTrail.reply [DecidableEq U] (i : Nat) : OnTrail (s.step (.reply i)) start sent m := by
  simp only [System.step]
  split
  · rename_i f hf
    split
    · rename_i b hphase
      have hsame : (FetchPhase.replied b (s.snapshot_seq + 1)).baseline = f.phase.baseline := by
        rw [hphase]
        rfl
      have hset : OnTrail (s.set_phase i f (.replied b (s.snapshot_seq + 1))) start sent m := by
        apply h.set_phase hf
        · refine ⟨by simp, ?_⟩
          rw [hsame]
          exact (h.fetches f (List.mem_of_getElem? hf)).baseline
        · unfold covers
          rw [hsame]
          exact fun hc => hc
      exact { hset with }
    · exact h
  · exact h

/-- A step under the conditions keeps the renderer on the trail. -/
theorem OnTrail.step [DecidableEq U] {op : Op U} (hok : stays_together s op) :
    ∃ sent' m', OnTrail (s.step op) start sent' m' := by
  cases op with
  | set_overlay recent_cues =>
    simp only [System.step]
    split
    · rename_i hnd
      refine ⟨sent, m, h.set_overlay hnd _ ?_⟩
      intro d hd
      obtain ⟨d', hd', rfl⟩ := List.mem_map.mp hd
      exact h.dispatches d' hd'
    · exact ⟨sent, m, h⟩
  | begin_dispatch =>
    refine ⟨sent, m, { h with dispatches := ?_ }⟩
    intro d hd
    rcases List.mem_append.mp hd with hd | hd
    · exact h.dispatches d hd
    · rw [List.mem_singleton.mp hd]
      exact h.distinct.sublist ((List.take_sublist _ _).map _)
  | finish_dispatch i urgent_fingerprint now =>
    cases hd : s.dispatches[i]? with
    | none => exact ⟨sent, m, by simpa only [System.step, hd] using h⟩
    | some d =>
      simp only [stays_together, hd] at hok
      obtain ⟨horder, hsafe, hsettled⟩ := hok
      obtain ⟨sent', h'⟩ := h.finish_dispatch hd horder hsafe hsettled urgent_fingerprint now
      exact ⟨sent', m, h'⟩
  | ask_baseline => exact ⟨sent, m, h.ask_baseline⟩
  | read_overlay i =>
    refine ⟨sent, m, ?_⟩
    simp only [System.step]
    split
    · rename_i f hf
      split
      · apply h.set_phase hf
        · refine ⟨?_, by simp [FetchPhase.baseline]⟩
          rintro _ ⟨⟩
          exact ⟨h.distinct.sublist ((List.take_sublist _ _).map _), List.length_take_le _ _⟩
        · simp [covers, FetchPhase.baseline]
      · exact h
    · exact h
  | stamp_cursor i =>
    refine ⟨sent, m, ?_⟩
    simp only [System.step]
    split
    · rename_i f hf
      split
      · rename_i recent_cues hphase
        apply h.stamp hf hphase
        obtain ⟨_, _⟩ := f
        subst hphase
        simp only [stays_together, hf] at hok
        exact hok
      · exact h
    · exact h
  | reply i => exact ⟨sent, m, h.reply i⟩
  | deliver_delta =>
    obtain ⟨m', h'⟩ := h.deliver_delta
    exact ⟨sent, m', h'⟩
  | deliver_push =>
    refine ⟨sent, m, ?_⟩
    simp only [System.step]
    split
    · exact h
    · split
      · exact { h with }
      · exact { h with }
  | deliver_baseline i =>
    refine ⟨sent, m, ?_⟩
    simp only [System.step]
    split
    · rename_i f hf
      split
      · rename_i _ _ hphase
        exact h.deliver_baseline hf hphase hok
      · exact h
    · exact h

end

/-! ## Every run -/

theorem on_trail_new {stream_id : String} (hid : stream_id ≠ "")
    (hpreview : stream_id ≠ System.PREVIEW_STREAM_ID) :
    OnTrail (System.new stream_id : System U)
      (index_of (SubtitleDeltaStream.new stream_id : SubtitleDeltaStream U)) [] 0 where
  distinct := by simp [System.new, ids]
  dispatches := by simp [System.new]
  knows := ⟨[], rfl, rfl, List.nodup_nil, by simp⟩
  streamId := rfl
  started := hid
  leads := ⟨by simp [applySubtitleDeltas], rfl⟩
  delivered := Nat.le_refl _
  deltas := rfl
  fetches := by
    intro f hf
    rw [List.mem_singleton.mp hf]
    exact sound_asked _ _
  index := Or.inl hpreview.symm
  loop := by simp [System.new]
  healing := Or.inr (Or.inl ⟨_, List.mem_singleton_self _, covers_asked _ _⟩)

/-- On a quiet trail with its overlay dispatched the renderer is at the end. -/
theorem OnTrail.agrees_when_quiet (h : OnTrail s start sent m) (hquiet : quiet s)
    (hdispatched : s.dispatched = true) : Agrees s.index s.stream := by
  obtain ⟨_, hdeltas, _, hfetches⟩ := hquiet
  have hm : sent.length ≤ m := by
    rw [← List.drop_eq_nil_iff, ← h.deltas]
    exact hdeltas
  have hpending : ¬ pending s := by
    unfold pending
    rw [hdispatched]
    decide
  have hindex : s.index = index_of s.stream := by
    rcases h.healing with ⟨c, hc, hreach⟩ | ⟨f, hf, _⟩ | ⟨f, hf, _⟩
    · have hend : c = sent.length := by
        rcases hreach with _ | ⟨_, hdelta, _⟩
        · have := hc.1
          omega
        · obtain ⟨_, _⟩ := List.getElem?_eq_some_iff.mp hdelta
          omega
      subst hend
      rw [hc.at_end hpending]
      exact trail_end h.leads
    · rw [hfetches] at hf
      cases hf
    · rw [hfetches] at hf
      cases hf
  rw [hindex]
  apply agrees_index_of
  rw [h.streamId]
  exact h.started

/-- In every run that meets the conditions, a quiet renderer whose overlay is dispatched agrees
with the stream. -/
theorem a_quiet_renderer_agrees [DecidableEq U] (stream_id : String) (hid : stream_id ≠ "")
    (hpreview : stream_id ≠ System.PREVIEW_STREAM_ID) (ops : List (Op U))
    (hok : Along System.step stays_together (System.new stream_id) ops)
    (hquiet : quiet (run System.step (System.new stream_id) ops))
    (hdispatched : (run System.step (System.new stream_id) ops).dispatched = true) :
    Agrees (run System.step (System.new stream_id) ops).index
      (run System.step (System.new stream_id) ops).stream := by
  have hinv : ∃ start sent m, OnTrail (run System.step (System.new stream_id) ops) start sent m := by
    refine Along.keeps (fun s => ∃ start sent m, OnTrail s start sent m) ?_
      ⟨_, _, _, on_trail_new hid hpreview⟩ hok
    rintro s _ ⟨start, sent, m, h⟩ hop
    obtain ⟨sent', m', h'⟩ := h.step hop
    exact ⟨start, sent', m', h'⟩
  obtain ⟨start, sent, m, h⟩ := hinv
  exact h.agrees_when_quiet hquiet hdispatched

/-- A baseline that is read and answered before a dispatch and arrives after its delta. -/
def a_late_baseline : List (Op Unit) :=
  [.read_overlay 0, .stamp_cursor 0, .reply 0, .deliver_baseline 0,
    .ask_baseline, .read_overlay 0, .stamp_cursor 0, .reply 0,
    .set_overlay [numbered_cue 1], .begin_dispatch, .finish_dispatch 0 () 0, .deliver_delta,
    .deliver_baseline 0, .deliver_push]

theorem a_late_baseline_rolls_the_index_back :
    quiet (run System.step (System.new "stream") a_late_baseline) ∧
      (run System.step (System.new "stream") a_late_baseline).dispatched = true ∧
      ¬ Agrees (run System.step (System.new "stream") a_late_baseline).index
        (run System.step (System.new "stream") a_late_baseline).stream := by
  refine ⟨⟨rfl, rfl, rfl, rfl⟩, rfl, ?_⟩
  intro h
  have hseq := h.cursor.seq
  revert hseq
  decide +kernel

/-- A baseline with a change that its stream has not dispatched yet. -/
def a_baseline_ahead : List (Op Unit) :=
  [.set_overlay [numbered_cue 1], .read_overlay 0, .stamp_cursor 0, .reply 0, .deliver_baseline 0,
    .begin_dispatch, .finish_dispatch 0 () 0, .deliver_delta, .deliver_push]

theorem a_baseline_ahead_comes_to_agree :
    Agrees (run System.step (System.new "stream") a_baseline_ahead).index
      (run System.step (System.new "stream") a_baseline_ahead).stream := by
  refine a_quiet_renderer_agrees "stream" (by decide) (by decide) a_baseline_ahead ?_
    ⟨rfl, rfl, rfl, rfl⟩ rfl
  refine ⟨trivial, trivial, Or.inr rfl, trivial, Or.inl ?_, trivial, ⟨?_, ?_, ?_⟩, trivial, trivial,
    trivial⟩
  · decide +kernel
  · unfold keeps_order
    decide +kernel
  · unfold safe_counters
    decide +kernel
  · unfold settled_by
    decide +kernel

end omni_translate.subtitle_delta
