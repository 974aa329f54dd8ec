-- The pacer of the audio that is appended to a provider's session
-- (`ProviderAudioPacer` of `audio/omni/audio_pump.rs`), and how much is appended in any
-- window of a run. Times and durations are nanoseconds.
import Mathlib.Algebra.Group.Nat.Defs
import Mathlib.Data.List.Basic

namespace omni_translate.provider_audio_pacer

def OMNI_PROVIDER_AUDIO_SAMPLE_RATE_HZ : Nat := 16000
def OMNI_PROVIDER_AUDIO_CANONICAL_CHUNK_SAMPLES : Nat := 320
def OMNI_AUDIO_PUMP_MAX_CHUNKS_PER_TICK : Nat := 8

def OMNI_PROVIDER_AUDIO_MAX_CATCH_UP_SAMPLES : Nat :=
  OMNI_PROVIDER_AUDIO_CANONICAL_CHUNK_SAMPLES * (OMNI_AUDIO_PUMP_MAX_CHUNKS_PER_TICK - 1)

def U64_MAX : Nat := 2 ^ 64 - 1

def NANOS_PER_SECOND : Nat := 1000000000

/-! ## The pacer -/

structure ProviderAudioPacer where
  anchor : Option Nat
  successful_samples : Nat
deriving DecidableEq

def media_duration (samples : Nat) : Nat :=
  let seconds := samples / OMNI_PROVIDER_AUDIO_SAMPLE_RATE_HZ
  let remainder := samples % OMNI_PROVIDER_AUDIO_SAMPLE_RATE_HZ
  let nanos := min (remainder * NANOS_PER_SECOND) U64_MAX / OMNI_PROVIDER_AUDIO_SAMPLE_RATE_HZ
  seconds * NANOS_PER_SECOND + nanos

def max_catch_up_duration : Nat := media_duration OMNI_PROVIDER_AUDIO_MAX_CATCH_UP_SAMPLES

/-- The difference of an instant and a duration, which panics below the first instant. -/
def checked_sub (instant duration : Nat) : Option Nat :=
  if duration ≤ instant then some (instant - duration) else none

namespace ProviderAudioPacer

def default : ProviderAudioPacer := ⟨none, 0⟩

/-- The delay until the next chunk may be appended. -/
def delay_before_append (pacer : ProviderAudioPacer) (now : Nat) :
    Option (ProviderAudioPacer × Nat) :=
  match pacer.anchor with
  | none => some ({ pacer with anchor := some now }, 0)
  | some anchor =>
    let media_elapsed := media_duration pacer.successful_samples
    if now > anchor + media_elapsed + max_catch_up_duration then do
      -- After a stall the anchor moves, so that no more than the budget is caught up.
      let caught_up ← checked_sub now max_catch_up_duration
      let anchor ← checked_sub caught_up media_elapsed
      some ({ pacer with anchor := some anchor }, anchor + media_elapsed - now)
    else some (pacer, anchor + media_elapsed - now)

def record_successful_append (pacer : ProviderAudioPacer) (samples : Nat) : ProviderAudioPacer :=
  { pacer with successful_samples := min (pacer.successful_samples + samples) U64_MAX }

end ProviderAudioPacer

theorem media_duration_eq (samples : Nat) : media_duration samples = samples * 62500 := by
  simp only [media_duration, OMNI_PROVIDER_AUDIO_SAMPLE_RATE_HZ, NANOS_PER_SECOND, U64_MAX]
  have hsplit := Nat.div_add_mod samples 16000
  have hlt := Nat.mod_lt samples (show 16000 > 0 by decide)
  have hfits : samples % 16000 * 1000000000 ≤ 2 ^ 64 - 1 := by omega
  rw [Nat.min_eq_left hfits]
  omega

theorem max_catch_up_duration_eq : max_catch_up_duration = 140000000 := by
  unfold max_catch_up_duration
  rw [media_duration_eq]
  rfl

/-- What a call leaves: the anchor does not move back, the append is not before its media time, and
not later than the budget allows. -/
theorem delay_before_append_some {pacer : ProviderAudioPacer} {anchor : Nat}
    (h : pacer.anchor = some anchor) (now : Nat) :
    ∃ moved delay, pacer.delay_before_append now =
        some ({ pacer with anchor := some moved }, delay) ∧ anchor ≤ moved ∧
      moved + media_duration pacer.successful_samples ≤ now + delay ∧
      now + delay ≤ moved + media_duration pacer.successful_samples + max_catch_up_duration := by
  unfold ProviderAudioPacer.delay_before_append
  rw [h]
  simp only
  split
  · rename_i hstall
    have hcaught : checked_sub now max_catch_up_duration = some (now - max_catch_up_duration) :=
      if_pos (by omega)
    have hmoved : checked_sub (now - max_catch_up_duration)
        (media_duration pacer.successful_samples) =
          some (now - max_catch_up_duration - media_duration pacer.successful_samples) :=
      if_pos (by omega)
    rw [hcaught, Option.bind_eq_bind, Option.bind_some, hmoved, Option.bind_some]
    exact ⟨now - max_catch_up_duration - media_duration pacer.successful_samples, _, rfl,
      by omega, by omega, by omega⟩
  · refine ⟨anchor, anchor + media_duration pacer.successful_samples - now, ?_, Nat.le_refl _,
      by omega, by omega⟩
    rw [← h]

/-! ## Runs -/

/-- A chunk, and the time that passes before the clock is read for it. -/
structure Chunk where
  gap : Nat
  samples : Nat

/-- An append, and how many samples were appended before it. -/
structure Append where
  time : Nat
  before : Nat
deriving DecidableEq

structure Paced where
  pacer : ProviderAudioPacer
  clock : Nat
  sent : Nat
  appends : List Append
deriving DecidableEq

/-- A session that starts at a time. -/
def start (clock : Nat) : Paced := ⟨.default, clock, 0, []⟩

/-- A chunk is appended after the delay that the pacer returns; `none` is a panic. -/
def append (s : Paced) (chunk : Chunk) : Option Paced := do
  let now := s.clock + chunk.gap
  let (pacer, delay) ← s.pacer.delay_before_append now
  some {
    pacer := pacer.record_successful_append chunk.samples
    clock := now + delay
    sent := s.sent + chunk.samples
    appends := s.appends ++ [⟨now + delay, s.sent⟩] }

/-- The samples from one append up to another are no more than the rate allows in between, and the
budget. -/
def Within (first last : Append) : Prop :=
  (last.before - first.before) * NANOS_PER_SECOND ≤
    OMNI_PROVIDER_AUDIO_SAMPLE_RATE_HZ * (last.time - first.time) +
      OMNI_PROVIDER_AUDIO_MAX_CATCH_UP_SAMPLES * NANOS_PER_SECOND

instance (first last : Append) : Decidable (Within first last) :=
  inferInstanceAs (Decidable (_ ≤ _))

/-- The appends are not later than the anchor and the budget allow, and their windows are in bounds
as far as the count of the samples fits its word. -/
structure Sound (s : Paced) : Prop where
  counted : s.pacer.successful_samples = min s.sent U64_MAX
  first : s.pacer.anchor = none → s.appends = [] ∧ s.sent = 0
  before : ∀ a ∈ s.appends, a.before ≤ s.sent
  on_time : ∀ anchor ∈ s.pacer.anchor, ∀ a ∈ s.appends, a.before ≤ U64_MAX →
    a.time ≤ anchor + media_duration a.before + max_catch_up_duration
  within : s.appends.Pairwise fun a b => a.time ≤ b.time ∧ (b.before ≤ U64_MAX → Within a b)
  clock : ∀ a ∈ s.appends, a.time ≤ s.clock

theorem start_sound (clock : Nat) : Sound (start clock) where
  counted := rfl
  first := fun _ => ⟨rfl, rfl⟩
  before := nofun
  on_time := nofun
  within := List.Pairwise.nil
  clock := nofun

/-- An append that is on time for an anchor, and one not before its media time from there. -/
theorem Within.of_anchor {first last : Append} {anchor : Nat}
    (hfirst : first.time ≤ anchor + media_duration first.before + max_catch_up_duration)
    (hlast : anchor + media_duration last.before ≤ last.time) : Within first last := by
  rw [media_duration_eq, max_catch_up_duration_eq] at hfirst
  rw [media_duration_eq] at hlast
  simp only [Within, NANOS_PER_SECOND, OMNI_PROVIDER_AUDIO_SAMPLE_RATE_HZ,
    OMNI_PROVIDER_AUDIO_MAX_CATCH_UP_SAMPLES, OMNI_PROVIDER_AUDIO_CANONICAL_CHUNK_SAMPLES,
    OMNI_AUDIO_PUMP_MAX_CHUNKS_PER_TICK]
  omega

theorem append_eq {s : Paced} {chunk : Chunk} {pacer : ProviderAudioPacer} {delay : Nat}
    (h : s.pacer.delay_before_append (s.clock + chunk.gap) = some (pacer, delay)) :
    append s chunk = some {
      pacer := pacer.record_successful_append chunk.samples
      clock := s.clock + chunk.gap + delay
      sent := s.sent + chunk.samples
      appends := s.appends ++ [⟨s.clock + chunk.gap + delay, s.sent⟩] } := by
  simp only [append, h, Option.bind_eq_bind, Option.bind_some]

theorem append_sound {s : Paced} (h : Sound s) (chunk : Chunk) :
    ∃ s', append s chunk = some s' ∧ Sound s' := by
  have hcounted : min (s.pacer.successful_samples + chunk.samples) U64_MAX =
      min (s.sent + chunk.samples) U64_MAX := by
    rw [h.counted]
    omega
  cases hanchor : s.pacer.anchor with
  | none =>
    obtain ⟨hnone, hsent⟩ := h.first hanchor
    have hdelay : s.pacer.delay_before_append (s.clock + chunk.gap) =
        some ({ s.pacer with anchor := some (s.clock + chunk.gap) }, 0) := by
      unfold ProviderAudioPacer.delay_before_append
      rw [hanchor]
    refine ⟨_, append_eq hdelay, ⟨hcounted, nofun, ?_, ?_, ?_, ?_⟩⟩
    · simp [hnone, hsent]
    · simp [hnone, hsent, ProviderAudioPacer.record_successful_append]
      omega
    · simp [hnone]
    · simp [hnone]
  | some anchor =>
    obtain ⟨moved, delay, hdelay, hmoved, hmedia, hlate⟩ :=
      delay_before_append_some hanchor (s.clock + chunk.gap)
    refine ⟨_, append_eq hdelay, ⟨hcounted, nofun, ?_, ?_, ?_, ?_⟩⟩
    · intro a ha
      rcases List.mem_append.mp ha with ha | ha
      · exact Nat.le_trans (h.before a ha) (Nat.le_add_right _ _)
      · rw [List.mem_singleton.mp ha]
        exact Nat.le_add_right _ _
    · intro anchor' hanchor' a ha hfits
      obtain rfl : moved = anchor' := Option.some.inj hanchor'
      rcases List.mem_append.mp ha with ha | ha
      · have hold := h.on_time anchor (by rw [hanchor]; rfl) a ha hfits
        omega
      · obtain rfl := List.mem_singleton.mp ha
        rw [h.counted, Nat.min_eq_left hfits] at hlate
        exact hlate
    · refine List.pairwise_append.mpr ⟨h.within, List.pairwise_singleton _ _, ?_⟩
      intro a ha b hb
      obtain rfl := List.mem_singleton.mp hb
      have hclock := h.clock a ha
      refine ⟨by dsimp only; omega, fun hfits => ?_⟩
      have hold := h.on_time anchor (by rw [hanchor]; rfl) a ha (Nat.le_trans (h.before a ha) hfits)
      rw [h.counted, Nat.min_eq_left hfits] at hmedia
      have htime : a.time ≤ moved + media_duration a.before + max_catch_up_duration := by omega
      exact Within.of_anchor htime hmedia
    · intro a ha
      rcases List.mem_append.mp ha with ha | ha
      · have hclock := h.clock a ha
        dsimp only
        omega
      · obtain rfl := List.mem_singleton.mp ha
        exact Nat.le_refl _

/-- The chunks of a session, one after the other. -/
def appended (s : Paced) (chunks : List Chunk) : Option Paced := chunks.foldlM append s

theorem appended_sound {s : Paced} (h : Sound s) (chunks : List Chunk) :
    ∃ s', appended s chunks = some s' ∧ Sound s' := by
  induction chunks generalizing s with
  | nil => exact ⟨s, rfl, h⟩
  | cons chunk chunks ih =>
    obtain ⟨t, ht, hsound⟩ := append_sound h chunk
    obtain ⟨s', hs', hsound'⟩ := ih hsound
    refine ⟨s', ?_, hsound'⟩
    simp only [appended, List.foldlM_cons, ht, Option.bind_eq_bind, Option.bind_some]
    exact hs'

/-- No call panics, and two appends of a session are apart as the rate asks. -/
theorem the_window_is_within_the_rate_while_the_count_fits (clock : Nat) (chunks : List Chunk) :
    ∃ s, appended (start clock) chunks = some s ∧
      s.appends.Pairwise fun first last =>
        first.time ≤ last.time ∧ (last.before ≤ U64_MAX → Within first last) := by
  obtain ⟨s, hs, hsound⟩ := appended_sound (start_sound clock) chunks
  exact ⟨s, hs, hsound.within⟩

/-- A session that stalls for a second after its first chunk. -/
def stalled : List Chunk :=
  ⟨0, 320⟩ :: ⟨1000000000, 320⟩ :: List.replicate 9 ⟨0, 320⟩

/-- After the stall eight chunks go at once, and the next one waits. -/
theorem a_stall_is_caught_up_with :
    ∃ s, appended (start 0) stalled = some s ∧
      ∃ first ∈ s.appends[1]?, ∃ last ∈ s.appends[9]?,
        last.time - first.time = 20000000 ∧ Within first last := by
  obtain ⟨s, hs, hwithin⟩ := the_window_is_within_the_rate_while_the_count_fits 0 stalled
  have hrun : appended (start 0) stalled =
      some ((appended (start 0) stalled).getD (start 0)) := by
    decide +kernel
  obtain rfl := Option.some.inj (hs.symm.trans hrun)
  refine ⟨_, hs, ⟨1000000000, 320⟩, ?_, ⟨1020000000, 2880⟩, ?_, rfl, ?_⟩
  · decide +kernel
  · decide +kernel
  · exact (List.pairwise_iff_getElem.mp hwithin 1 9 (by decide +kernel) (by decide +kernel)
      (by decide)).2 (by decide +kernel)

/-- Once the count is at the end of its word, a chunk no longer counts: two appends at one time. -/
theorem a_full_count_lets_a_chunk_through :
    ¬ ∀ clock chunks, ∃ s, appended (start clock) chunks = some s ∧
      s.appends.Pairwise fun first last => first.time ≤ last.time ∧ Within first last := by
  intro h
  obtain ⟨s, hs, hwithin⟩ := h 0 [⟨0, U64_MAX⟩, ⟨0, U64_MAX⟩, ⟨0, 320⟩]
  have hrun : appended (start 0) [⟨0, U64_MAX⟩, ⟨0, U64_MAX⟩, ⟨0, 320⟩] =
      some ⟨⟨some 0, U64_MAX⟩, U64_MAX * 62500, 2 * U64_MAX + 320,
        [⟨0, 0⟩, ⟨U64_MAX * 62500, U64_MAX⟩, ⟨U64_MAX * 62500, 2 * U64_MAX⟩]⟩ := by
    decide +kernel
  obtain rfl := Option.some.inj (hs.symm.trans hrun)
  have hlast := (List.pairwise_cons.mp (List.pairwise_cons.mp hwithin).2).1 _
    (List.mem_singleton.mpr rfl)
  exact absurd hlast.2 (by decide +kernel)

end omni_translate.provider_audio_pacer
