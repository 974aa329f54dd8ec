-- The law of the virtual microphone: in a run whose writes come back in time, the chunks of
-- each incarnation of a cue are written in order and one at a time, and it has one terminal
-- status. What the ledger knows of a cue and what is recorded of its incarnation agree until
-- the ledger has ended the cue or is reset.
import OmniTranslate.VirtualMicCues

namespace omni_translate.virtual_mic

open runs playback
open bridge_playback_ack (TranslationPlaybackStatusKind TranslationPlaybackAuthority)
open recent (others Window)

variable {S : Type}

/-! ## Views -/

/-- Nothing is recorded. -/
def View.empty : View := ⟨[], [], []⟩

/-- The number of terminal statuses. -/
def View.terminals (v : View) : Nat := v.told.countP (·.is_terminal)

/-- An incarnation in order. As long as no frame has ended the cue, the write in flight is followed
by the first terminal status. -/
structure View.Sound (v : View) : Prop where
  orderly : v.Orderly
  unended : ∀ t ∈ v.in_flight, t.ended = false → v.terminals = 0

/-- The incarnation is where the ledger says. -/
structure View.At (v : View) (incarnation : Incarnation) (progress : VirtualMicCueProgress) :
    Prop where
  admitted : v.admitted = (List.range
      (progress.next_chunk_index + if progress.write_in_flight then 1 else 0)).map
    fun chunk_index => (chunk_index, progress.chunk_count)
  in_flight : v.in_flight = if progress.write_in_flight then
      [⟨⟨incarnation.key, progress.next_chunk_index⟩, incarnation.resets, false⟩]
    else []
  next : progress.next_chunk_index < progress.chunk_count
  fits : progress.chunk_count < 2 ^ 32
  going : v.terminals = 0
  started : v.told.count .Started ≤ if progress.next_chunk_index = 0 then 0 else 1

theorem count_completed_le (told : List TranslationPlaybackStatusKind) :
    told.count .Completed ≤ told.countP (·.is_terminal) := by
  apply List.countP_mono_left
  intro kind _ hkind
  rw [beq_iff_eq] at hkind
  rw [hkind]
  rfl

theorem View.Orderly.of_told {v : View}
    (horder : ∃ n chunk_count, n ≤ chunk_count ∧
      v.admitted = (List.range n).map fun chunk_index => (chunk_index, chunk_count))
    (hflight : v.in_flight.length ≤ 1) (hstarted : v.told.count .Started ≤ 1)
    (hterminals : v.terminals ≤ 1) : v.Orderly where
  in_order := horder
  one_in_flight := hflight
  started_once := hstarted
  completed_once := (count_completed_le v.told).trans hterminals
  one_terminal := hterminals

theorem View.Sound.empty : View.empty.Sound where
  orderly := .of_told ⟨0, 0, Nat.le_refl 0, rfl⟩ (Nat.zero_le 1) (Nat.zero_le 1) (Nat.zero_le 1)
  unended := fun _ h => by cases h

theorem View.At.sound {v : View} {incarnation : Incarnation} {progress : VirtualMicCueProgress}
    (h : v.At incarnation progress) : v.Sound where
  orderly := by
    have hnext := h.next
    refine .of_told ⟨_, _, ?_, h.admitted⟩ ?_ ?_ ?_
    · split <;> omega
    · rw [h.in_flight]
      split <;> simp
    · have hstarted := h.started
      split at hstarted <;> omega
    · rw [h.going]
      exact Nat.zero_le 1
  unended := fun _ _ _ => h.going

theorem told_append_le (told : List TranslationPlaybackStatusKind)
    {news kinds : List TranslationPlaybackStatusKind} (h : news.Sublist kinds)
    (p : TranslationPlaybackStatusKind → Bool) :
    (told ++ news).countP p ≤ told.countP p + kinds.countP p := by
  rw [List.countP_append]
  exact Nat.add_le_add_left h.countP_le _

theorem View.Sound.end {v : View} (h : v.Sound) (hgoing : v.terminals = 0)
    {kind : TranslationPlaybackStatusKind} (hkind : kind.is_terminal = true)
    {news : List TranslationPlaybackStatusKind} (hnews : news.Sublist [kind])
    {tickets : List Ticket} (hlength : tickets.length ≤ 1)
    (hended : ∀ t ∈ tickets, t.ended = true) :
    View.Sound ⟨v.admitted, tickets, v.told ++ news⟩ where
  orderly := by
    have hne : ([kind] : List TranslationPlaybackStatusKind).countP (· == .Started) = 0 := by
      cases kind with
      | Started => cases hkind
      | _ => rfl
    have hstarted := told_append_le v.told hnews (· == .Started)
    have hterminals := told_append_le v.told hnews (·.is_terminal)
    have hone : ([kind] : List TranslationPlaybackStatusKind).countP (·.is_terminal) ≤ 1 :=
      List.countP_le_length
    have honce := h.orderly.started_once
    unfold View.terminals at hgoing
    unfold List.count at honce
    refine .of_told h.orderly.in_order hlength ?_ ?_
    · unfold List.count
      dsimp only
      omega
    · unfold View.terminals
      dsimp only
      omega
  unended := by
    intro t ht hopen
    rw [hended t ht] at hopen
    cases hopen

/-! ## The record of a step -/

namespace Ticket

theorem mark_incarnation (incarnation : Incarnation) (ended : Bool) (t : Ticket) :
    (t.mark incarnation ended).incarnation = t.incarnation := by
  unfold mark
  split <;> rfl

theorem mark_write (incarnation : Incarnation) (ended : Bool) (t : Ticket) :
    (t.mark incarnation ended).write = t.write := by
  unfold mark
  split <;> rfl

theorem mark_other {i : Incarnation} {t : Ticket} (h : t.incarnation ≠ i) (ended : Bool) :
    t.mark i ended = t := by
  unfold mark
  rw [if_neg fun hi => h hi.1]

theorem mark_false (i : Incarnation) (t : Ticket) : t.mark i false = t := by
  unfold mark
  rw [if_neg (by simp)]

theorem mark_self {i : Incarnation} {t : Ticket} (h : t.incarnation = i) :
    (t.mark i true).ended = true := by
  unfold mark
  rw [if_pos ⟨h, rfl⟩]

theorem filter_mark (tickets : List Ticket) (i incarnation : Incarnation) (ended : Bool) :
    (tickets.map (mark i ended)).filter (·.incarnation = incarnation) =
      (tickets.filter (·.incarnation = incarnation)).map (mark i ended) := by
  rw [List.filter_map]
  congr 2
  funext t
  rw [Function.comp_apply, mark_incarnation]

theorem map_mark_other (tickets : List Ticket) {i incarnation : Incarnation}
    (h : incarnation ≠ i) (ended : Bool) :
    (tickets.filter (·.incarnation = incarnation)).map (mark i ended) =
      tickets.filter (·.incarnation = incarnation) := by
  conv_rhs => rw [← List.map_id (tickets.filter _)]
  apply List.map_congr_left
  intro t ht
  have heq : t.incarnation = incarnation := by simpa using (List.mem_filter.mp ht).2
  exact mark_other (fun hi => h (heq.symm.trans hi)) ended

end Ticket

namespace MicLog

variable {l : MicLog S} {service : BridgeService S}

theorem news_sublist {kinds : List TranslationPlaybackStatusKind} (h : Tells l.service service kinds) : (l.news service).Sublist kinds := by
  obtain ⟨_, heq, hkinds⟩ := h
  unfold news
  rw [heq, List.drop_left]
  exact hkinds

theorem filter_told (told : List (Incarnation × TranslationPlaybackStatusKind))
    (i incarnation : Incarnation) (news : List TranslationPlaybackStatusKind) :
    ((told ++ news.map fun kind => (i, kind)).filter (·.1 = incarnation)).map (·.2) =
      (told.filter (·.1 = incarnation)).map (·.2) ++ if i = incarnation then news else [] := by
  rw [List.filter_append, List.map_append, List.filter_map]
  by_cases h : i = incarnation
  · simp [h, Function.comp_def]
  · simp [h, Function.comp_def]

/-- A frame changes only what is recorded of its own incarnation. -/
theorem view_frame_other {key : VirtualMicKey} (frame : VirtualMicFrame S)
    (hkeys : ∀ w ∈ service.writes.drop l.service.writes.length, w.key = key) {incarnation : Incarnation}
    (h : incarnation ≠ ⟨l.resets, key⟩) : (l.frame key frame service).view incarnation = l.view incarnation := by
  have hwrites : ((service.writes.drop l.service.writes.length).map fun write =>
      (⟨write, l.resets, false⟩ : Ticket)).filter (·.incarnation = incarnation) = [] := by
    rw [List.filter_eq_nil_iff]
    intro t ht
    obtain ⟨w, hw, rfl⟩ := List.mem_map.mp ht
    unfold Ticket.incarnation
    rw [hkeys w hw]
    simpa using h.symm
  unfold view admitted in_flight told_of
  dsimp only [MicLog.frame]
  rw [filter_told, if_neg h.symm, List.append_nil, List.filter_append, List.filter_append,
    Ticket.filter_mark, Ticket.map_mark_other _ h, hwrites, List.append_nil, List.filter_map]
  simp [Function.comp_def, h.symm]

theorem view_frame_self (key : VirtualMicKey) (frame : VirtualMicFrame S)
    (hkeys : ∀ w ∈ service.writes.drop l.service.writes.length, w.key = key) :
    (l.frame key frame service).view ⟨l.resets, key⟩ =
      ⟨l.admitted ⟨l.resets, key⟩ ++ (service.writes.drop l.service.writes.length).map fun w =>
          (w.chunk_index, frame.chunk_count),
        (l.in_flight ⟨l.resets, key⟩).map
            (Ticket.mark ⟨l.resets, key⟩ (l.ends service key)) ++
          (service.writes.drop l.service.writes.length).map fun w => ⟨w, l.resets, false⟩,
        l.told_of ⟨l.resets, key⟩ ++ l.news service⟩ := by
  have hwrites : ((service.writes.drop l.service.writes.length).map fun write =>
      (⟨write, l.resets, false⟩ : Ticket)).filter (·.incarnation = ⟨l.resets, key⟩) =
        (service.writes.drop l.service.writes.length).map fun w => ⟨w, l.resets, false⟩ := by
    rw [List.filter_eq_self]
    intro t ht
    obtain ⟨w, hw, rfl⟩ := List.mem_map.mp ht
    unfold Ticket.incarnation
    rw [hkeys w hw]
    exact decide_eq_true rfl
  unfold view admitted in_flight told_of
  dsimp only [MicLog.frame]
  rw [filter_told, if_pos rfl, List.filter_append, List.filter_append, Ticket.filter_mark, hwrites,
    List.filter_map]
  simp [Function.comp_def]

theorem split_at {α : Type} {xs : List α} {i : Nat} {a : α} (h : xs[i]? = some a) :
    ∃ before after, xs = before ++ a :: after ∧ xs.eraseIdx i = before ++ after := by
  induction xs generalizing i with
  | nil => cases h
  | cons b xs ih =>
    cases i with
    | zero =>
      cases h
      exact ⟨[], xs, rfl, rfl⟩
    | succ i =>
      obtain ⟨before, after, heq, herase⟩ := ih h
      refine ⟨b :: before, after, by rw [heq, List.cons_append], ?_⟩
      rw [List.eraseIdx_cons_succ, herase, List.cons_append]

/-- A write result changes only what is recorded of its own incarnation. -/
theorem view_written_other {i : Nat} {t : Ticket} (hi : l.tickets[i]? = some t)
    (service : BridgeService S) {incarnation : Incarnation} (h : incarnation ≠ t.incarnation) :
    (l.written i t service).view incarnation = l.view incarnation := by
  obtain ⟨_, _, heq, herase⟩ := split_at hi
  unfold view admitted in_flight told_of
  dsimp only [MicLog.written]
  rw [filter_told, if_neg h.symm, List.append_nil, herase, heq]
  simp [h.symm]

theorem view_written_self {i : Nat} {t : Ticket} (hi : l.tickets[i]? = some t)
    (hone : (l.in_flight t.incarnation).length ≤ 1) (service : BridgeService S) :
    (l.written i t service).view t.incarnation =
      ⟨l.admitted t.incarnation, [], l.told_of t.incarnation ++ l.news service⟩ := by
  obtain ⟨before, after, heq, herase⟩ := split_at hi
  have hnone : (before ++ after).filter (·.incarnation = t.incarnation) = [] := by
    unfold in_flight at hone
    rw [heq, List.filter_append, List.filter_cons_of_pos (by simp), List.length_append,
      List.length_cons] at hone
    rw [List.filter_append, ← List.length_eq_zero_iff, List.length_append]
    omega
  unfold view admitted in_flight told_of
  dsimp only [MicLog.written]
  rw [filter_told, if_pos rfl, herase, hnone]

end MicLog

/-! ## The invariant -/

/-- What is recorded agrees with the ledger. Of a cue that is not active the ledger remembers the
end, unless as many others have been handled since as it can remember, or there is nothing to
remember. -/
structure Kept (l : MicLog S) : Prop where
  writes : l.tickets.map (·.write) = l.service.writes
  window : Window VIRTUAL_MIC_TERMINAL_LEDGER_CAPACITY l.service.virtual_mic_cue_ledger.terminal
    l.handled
  sound : ∀ incarnation, (l.view incarnation).Sound
  later : ∀ incarnation : Incarnation, l.resets < incarnation.resets →
    l.view incarnation = .empty
  active : ∀ key progress, l.service.virtual_mic_cue_ledger.active.lookup key = some progress →
    key ∉ l.service.virtual_mic_cue_ledger.terminal ∧
      (l.view ⟨l.resets, key⟩).At ⟨l.resets, key⟩ progress
  idle : ∀ key, l.service.virtual_mic_cue_ledger.active.lookup key = none →
    key ∈ l.service.virtual_mic_cue_ledger.terminal ∨
      VIRTUAL_MIC_TERMINAL_LEDGER_CAPACITY ≤ others key l.handled ∨
      l.view ⟨l.resets, key⟩ = .empty

theorem kept_new (device_id : String) (authority : TranslationPlaybackAuthority) :
    Kept (MicLog.new device_id authority : MicLog S) where
  writes := rfl
  window := .nil _ _
  sound := fun _ => .empty
  later := fun _ _ => rfl
  active := fun _ _ h => by cases h
  idle := fun _ _ => Or.inr (Or.inr rfl)

section

variable {l l' : MicLog S} {incarnation : Incarnation}

/-- A step on behalf of one incarnation. -/
structure Touches (l l' : MicLog S) (incarnation : Incarnation) : Prop where
  resets : l'.resets = l.resets
  handled : l'.handled = l.handled ++ [incarnation.key]
  writes : l'.tickets.map (·.write) = l'.service.writes
  others : ∀ i, i ≠ incarnation → l'.view i = l.view i
  before : incarnation.resets ≤ l.resets

theorem Touches.view_ne (h : Touches l l' incarnation) {key : VirtualMicKey}
    (hkey : key ≠ incarnation.key) : l'.view ⟨l.resets, key⟩ = l.view ⟨l.resets, key⟩ :=
  h.others _ fun heq => hkey (congrArg Incarnation.key heq)

theorem Touches.sound (h : Touches l l' incarnation) (hkept : Kept l)
    (hsound : (l'.view incarnation).Sound) (i : Incarnation) : (l'.view i).Sound := by
  by_cases hi : i = incarnation
  · rw [hi]
    exact hsound
  · rw [h.others i hi]
    exact hkept.sound i

theorem Touches.later (h : Touches l l' incarnation) (hkept : Kept l) (i : Incarnation)
    (hi : l'.resets < i.resets) : l'.view i = .empty := by
  rw [h.resets] at hi
  have hbefore := h.before
  have hne : i ≠ incarnation := fun heq => by
    rw [heq] at hi
    omega
  rw [h.others i hne]
  exact hkept.later i hi

section

variable (h : Kept l)

include h

theorem Kept.ends (ht : Touches l l' incarnation)
    (hends : Ends l.service.virtual_mic_cue_ledger l'.service.virtual_mic_cue_ledger
      incarnation.key) (hsound : (l'.view incarnation).Sound) : Kept l' where
  writes := ht.writes
  window := by
    rw [ht.handled, hends.terminal]
    exact h.window.push (by decide) hends.fresh
  sound := ht.sound h hsound
  later := ht.later h
  active := by
    intro key progress hactive
    rw [hends.active key] at hactive
    split at hactive
    · cases hactive
    rename_i hkey
    obtain ⟨hterminal, hat⟩ := h.active key progress hactive
    rw [ht.resets, ht.view_ne hkey]
    refine ⟨fun hmem => ?_, hat⟩
    rw [hends.terminal] at hmem
    rcases recent.mem_push hmem with hold | hnew
    · exact hterminal hold
    · exact hkey hnew
  idle := by
    intro key hactive
    rw [ht.resets, ht.handled, hends.terminal]
    by_cases hkey : key = incarnation.key
    · rw [hkey]
      exact Or.inl (recent.mem_push_self _ _ _)
    rw [hends.active key, if_neg hkey] at hactive
    rw [ht.view_ne hkey]
    rcases h.idle key hactive with hterminal | hmany | hempty
    · exact (h.window.push_keeps hends.fresh hterminal).imp id Or.inl
    · exact Or.inr (Or.inl (hmany.trans (recent.others_mono _ _ _)))
    · exact Or.inr (Or.inr hempty)

/-- A step that leaves the ledger alone, for a cue of an earlier ledger or one that is over. -/
theorem Kept.stays (ht : Touches l l' incarnation)
    (hledger : l'.service.virtual_mic_cue_ledger = l.service.virtual_mic_cue_ledger)
    (hsound : (l'.view incarnation).Sound)
    (hover : incarnation.resets = l.resets → l'.view incarnation = l.view incarnation ∨
      (l.service.virtual_mic_cue_ledger.active.lookup incarnation.key = none ∧
        (incarnation.key ∈ l.service.virtual_mic_cue_ledger.terminal ∨
          VIRTUAL_MIC_TERMINAL_LEDGER_CAPACITY ≤ others incarnation.key l.handled))) : Kept l' where
  writes := ht.writes
  window := by
    rw [ht.handled, hledger]
    exact h.window.see _
  sound := ht.sound h hsound
  later := ht.later h
  active := by
    intro key progress hactive
    rw [hledger] at hactive ⊢
    obtain ⟨hterminal, hat⟩ := h.active key progress hactive
    refine ⟨hterminal, ?_⟩
    rw [ht.resets]
    by_cases hi : (⟨l.resets, key⟩ : Incarnation) = incarnation
    · subst hi
      rcases hover rfl with hsame | ⟨hnone, -⟩
      · rw [hsame]
        exact hat
      · rw [hactive] at hnone
        cases hnone
    · rw [ht.others _ hi]
      exact hat
  idle := by
    intro key hactive
    rw [hledger] at hactive ⊢
    rw [ht.resets, ht.handled]
    have hgrows := recent.others_mono key l.handled [incarnation.key]
    by_cases hi : (⟨l.resets, key⟩ : Incarnation) = incarnation
    · subst hi
      rcases hover rfl with hsame | ⟨-, hterminal | hmany⟩
      · rw [hsame]
        exact (h.idle key hactive).imp id (Or.imp hgrows.trans' id)
      · exact Or.inl hterminal
      · exact Or.inr (Or.inl (hmany.trans hgrows))
    · rw [ht.others _ hi]
      exact (h.idle key hactive).imp id (Or.imp hgrows.trans' id)

theorem Kept.goes_on (ht : Touches l l' incarnation) (hresets : incarnation.resets = l.resets)
    (hfresh : incarnation.key ∉ l.service.virtual_mic_cue_ledger.terminal)
    (hterminal : l'.service.virtual_mic_cue_ledger.terminal =
      l.service.virtual_mic_cue_ledger.terminal) {progress : VirtualMicCueProgress}
    (hactive : ∀ k, l'.service.virtual_mic_cue_ledger.active.lookup k =
      if k = incarnation.key then some progress
      else l.service.virtual_mic_cue_ledger.active.lookup k)
    (hat : (l'.view incarnation).At incarnation progress) : Kept l' where
  writes := ht.writes
  window := by
    rw [ht.handled, hterminal]
    exact h.window.see _
  sound := ht.sound h hat.sound
  later := ht.later h
  active := by
    intro key progress' hlookup
    rw [hterminal, ht.resets]
    rw [hactive key] at hlookup
    split at hlookup
    · rename_i hkey
      cases hlookup
      subst hkey
      rw [← hresets]
      exact ⟨hfresh, hat⟩
    · rename_i hkey
      rw [ht.view_ne hkey]
      exact h.active key progress' hlookup
  idle := by
    intro key hlookup
    rw [hactive key] at hlookup
    split at hlookup
    · cases hlookup
    rename_i hkey
    rw [hterminal, ht.resets, ht.handled, ht.view_ne hkey]
    have hgrows := recent.others_mono key l.handled [incarnation.key]
    exact (h.idle key hlookup).imp id (Or.imp hgrows.trans' id)

variable {service : BridgeService S}

/-- A step that touches neither the ledger nor the writes. -/
theorem Kept.elsewhere (hledger : service.virtual_mic_cue_ledger = l.service.virtual_mic_cue_ledger)
    (hwrites : service.writes = l.service.writes) : Kept { l with service } where
  writes := h.writes.trans hwrites.symm
  window := by
    rw [hledger]
    exact h.window
  sound := h.sound
  later := h.later
  active := by
    rw [hledger]
    exact h.active
  idle := by
    rw [hledger]
    exact h.idle

theorem Kept.reset (hledger : service.virtual_mic_cue_ledger = .new) (hwrites : service.writes = l.service.writes) : Kept (l.reset service) where
  writes := h.writes.trans hwrites.symm
  window := by
    dsimp only [MicLog.reset]
    rw [hledger]
    exact .nil _ _
  sound := h.sound
  later := fun i hi => h.later i ((Nat.lt_succ_self _).trans hi)
  active := by
    intro key progress hactive
    dsimp only [MicLog.reset] at hactive
    rw [hledger] at hactive
    cases hactive
  idle := fun key _ => Or.inr (Or.inr (h.later ⟨l.resets + 1, key⟩ (Nat.lt_succ_self _)))

/-! ## Frames -/

/-- Of a cue that the ledger does not remember as ended, no terminal status has been emitted. -/
theorem Kept.going {key : VirtualMicKey} (hfresh : key ∉ l.service.virtual_mic_cue_ledger.terminal)
    (hcrowd : others key l.handled < VIRTUAL_MIC_TERMINAL_LEDGER_CAPACITY) :
    (l.view ⟨l.resets, key⟩).terminals = 0 := by
  cases hactive : l.service.virtual_mic_cue_ledger.active.lookup key with
  | some progress => exact (h.active key progress hactive).2.going
  | none =>
    rcases h.idle key hactive with hterminal | _ | hempty
    · exact absurd hterminal hfresh
    · omega
    · rw [hempty]
      rfl

theorem Kept.touches_frame (key : VirtualMicKey) (frame : VirtualMicFrame S) {writes : List VirtualMicWrite}
    (hwrites : service.writes = l.service.writes ++ writes) (hkeys : ∀ w ∈ writes, w.key = key) :
    Touches l (l.frame key frame service) ⟨l.resets, key⟩ where
  resets := rfl
  handled := rfl
  writes := by
    have hmark : (Ticket.write ∘ Ticket.mark ⟨l.resets, key⟩ (l.ends service key)) =
        Ticket.write := funext fun t => Ticket.mark_write _ _ t
    dsimp only [MicLog.frame]
    rw [List.map_append, List.map_map, hmark, h.writes, List.map_map, hwrites, List.drop_left]
    simp [Function.comp_def]
  others := by
    intro i hi
    refine MicLog.view_frame_other frame ?_ hi
    rw [hwrites, List.drop_left]
    exact hkeys
  before := Nat.le_refl _

theorem Kept.admits {key : VirtualMicKey} {frame : VirtualMicFrame S}
    (hcrowd : others key l.handled < VIRTUAL_MIC_TERMINAL_LEDGER_CAPACITY)
    (hchunk : frame.chunk_index < frame.chunk_count) (hfits : frame.chunk_count < 2 ^ 32)
    (hadmits : Admits l.service.virtual_mic_cue_ledger service.virtual_mic_cue_ledger key
      frame.chunk_index frame.chunk_count) {news : List TranslationPlaybackStatusKind}
    (hnews : news.Sublist [.Queued]) :
    View.At ⟨l.admitted ⟨l.resets, key⟩ ++ [(frame.chunk_index, frame.chunk_count)],
      l.in_flight ⟨l.resets, key⟩ ++ [⟨⟨key, frame.chunk_index⟩, l.resets, false⟩],
      l.told_of ⟨l.resets, key⟩ ++ news⟩ ⟨l.resets, key⟩
        ⟨frame.chunk_count, frame.chunk_index, true⟩ := by
  have hterminals := told_append_le (l.told_of ⟨l.resets, key⟩) hnews (·.is_terminal)
  have hstarted := told_append_le (l.told_of ⟨l.resets, key⟩) hnews (· == .Started)
  have hgoing : (l.told_of ⟨l.resets, key⟩).countP (·.is_terminal) = 0 :=
    h.going hadmits.fresh hcrowd
  have hqueued : ([.Queued] : List TranslationPlaybackStatusKind).countP (·.is_terminal) = 0 := rfl
  have hqueued' : ([.Queued] : List TranslationPlaybackStatusKind).countP (· == .Started) = 0 := rfl
  have hgoing' : View.terminals ⟨l.admitted ⟨l.resets, key⟩ ++
      [(frame.chunk_index, frame.chunk_count)],
      l.in_flight ⟨l.resets, key⟩ ++ [⟨⟨key, frame.chunk_index⟩, l.resets, false⟩],
      l.told_of ⟨l.resets, key⟩ ++ news⟩ = 0 := by
    unfold View.terminals
    dsimp only
    omega
  rcases hadmits.next with ⟨hnone, hzero⟩ | hnext
  · have hempty : l.view ⟨l.resets, key⟩ = .empty := by
      rcases h.idle key hnone with hterminal | _ | hempty
      · exact absurd hterminal hadmits.fresh
      · omega
      · exact hempty
    have hadmitted : l.admitted ⟨l.resets, key⟩ = [] := congrArg View.admitted hempty
    have hflight : l.in_flight ⟨l.resets, key⟩ = [] := congrArg View.in_flight hempty
    have htold : l.told_of ⟨l.resets, key⟩ = [] := congrArg View.told hempty
    refine ⟨?_, ?_, hchunk, hfits, hgoing', ?_⟩
    · rw [hadmitted, hzero]
      rfl
    · rw [hflight, hzero]
      rfl
    · rw [if_pos hzero]
      rw [htold] at hstarted ⊢
      exact hstarted
  · obtain ⟨-, hat⟩ := h.active key _ hnext
    have hadmitted : l.admitted ⟨l.resets, key⟩ = (List.range frame.chunk_index).map
        fun chunk_index => (chunk_index, frame.chunk_count) := hat.admitted
    have hflight : l.in_flight ⟨l.resets, key⟩ = [] := hat.in_flight
    refine ⟨?_, ?_, hchunk, hfits, hgoing', ?_⟩
    · rw [hadmitted, if_pos rfl, List.range_succ, List.map_append]
      rfl
    · rw [hflight]
      rfl
    · have hbefore : (l.told_of ⟨l.resets, key⟩).count .Started ≤
          if frame.chunk_index = 0 then 0 else 1 := hat.started
      unfold List.count at hbefore ⊢
      exact (hstarted.trans_eq (by rw [hqueued', Nat.add_zero])).trans hbefore

theorem Kept.frame {authority : TranslationPlaybackAuthority} {frame : VirtualMicFrame S}
    (htaken : l.takes authority frame) (hfits : frame.chunk_count < 2 ^ 32)
    (hcrowd : others ⟨frame.cue_id, authority⟩ l.handled < VIRTUAL_MIC_TERMINAL_LEDGER_CAPACITY) :
    Kept (l.frame ⟨frame.cue_id, authority⟩ frame
      (l.service.handle_virtual_mic_client authority frame)) := by
  obtain ⟨hcurrent, hcue, hchunk⟩ := htaken
  generalize hkey : (⟨frame.cue_id, authority⟩ : VirtualMicKey) = key at hcrowd ⊢
  have htakes := client_takes l.service hcurrent hcue hchunk
  rw [hkey] at htakes
  generalize l.service.handle_virtual_mic_client authority frame = service at htakes ⊢
  cases htakes with
  | ignored hledger hwrites htells =>
    have hnews : l.news service = [] := List.sublist_nil.mp (MicLog.news_sublist htells)
    have hends : l.ends service key = false := by
      unfold MicLog.ends
      rw [hledger]
      simp
    have hview : (l.frame key frame service).view ⟨l.resets, key⟩ = l.view ⟨l.resets, key⟩ := by
      rw [MicLog.view_frame_self key frame (by rw [hwrites]; simp), hnews, hends, hwrites]
      have hmark : Ticket.mark ⟨l.resets, key⟩ false = id :=
        funext fun t => Ticket.mark_false _ t
      simp [MicLog.view, hmark]
    refine h.stays (h.touches_frame key frame (by rw [hwrites, List.append_nil]) (by simp)) hledger
      ?_ fun _ => Or.inl hview
    rw [hview]
    exact h.sound _
  | ended hends hwrites _ hkind htells =>
    have hended : l.ends service key = true := by
      unfold MicLog.ends
      rw [hends.terminal]
      exact decide_eq_true ⟨hends.fresh, recent.mem_push_self _ _ _⟩
    refine h.ends (h.touches_frame key frame (by rw [hwrites, List.append_nil]) (by simp)) hends ?_
    rw [MicLog.view_frame_self key frame (by rw [hwrites]; simp), hended, hwrites, List.drop_length,
      List.map_nil, List.append_nil, List.map_nil, List.append_nil]
    refine (h.sound _).end (h.going hends.fresh hcrowd) hkind (MicLog.news_sublist htells) ?_ ?_
    · rw [List.length_map]
      exact (h.sound ⟨l.resets, key⟩).orderly.one_in_flight
    · intro t ht
      obtain ⟨t, hin, rfl⟩ := List.mem_map.mp ht
      exact Ticket.mark_self (by simpa [MicLog.in_flight] using (List.mem_filter.mp hin).2)
  | admitted hadmits hwrites htells =>
    have hends : l.ends service key = false := by
      unfold MicLog.ends
      rw [hadmits.terminal]
      simp
    have hmark : Ticket.mark ⟨l.resets, key⟩ false = id := funext fun t => Ticket.mark_false _ t
    have ht := h.touches_frame key frame hwrites (by simp)
    refine h.goes_on ht rfl hadmits.fresh hadmits.terminal hadmits.active ?_
    rw [MicLog.view_frame_self key frame (by rw [hwrites]; simp), hends, hmark, List.map_id, hwrites,
      List.drop_left, List.map_singleton, List.map_singleton]
    exact h.admits hcrowd hchunk hfits hadmits (MicLog.news_sublist htells)

end

/-! ## Write results -/

variable {t : Ticket} {i : Nat}

theorem Kept.ticket_flies (_h : Kept l) (hi : l.tickets[i]? = some t) : t ∈ l.in_flight t.incarnation :=
  List.mem_filter.mpr ⟨List.mem_of_getElem? hi, decide_eq_true rfl⟩

theorem Kept.ticket_before (h : Kept l) (hi : l.tickets[i]? = some t) : t.resets ≤ l.resets := by
  by_contra hlater
  have hempty := congrArg View.in_flight (h.later t.incarnation (Nat.lt_of_not_le hlater))
  have hflies := h.ticket_flies hi
  rw [show l.in_flight t.incarnation = [] from hempty] at hflies
  cases hflies

variable {progress : VirtualMicCueProgress}

/-- The ledger expects the write of a ticket of its own that is not over. -/
theorem Kept.expects (h : Kept l) (hi : l.tickets[i]? = some t) (hresets : t.resets = l.resets)
    (hactive : l.service.virtual_mic_cue_ledger.active.lookup t.write.key = some progress) :
    Expects l.service.virtual_mic_cue_ledger t.write progress ∧ t.ended = false := by
  have hflies := h.ticket_flies hi
  obtain ⟨-, hat⟩ := h.active _ progress hactive
  have hflight := hat.in_flight
  rw [← hresets] at hflight
  change l.in_flight t.incarnation = _ at hflight
  rw [hflight] at hflies
  split at hflies
  · rename_i hwriting
    rw [List.mem_singleton] at hflies
    rw [hflies]
    refine ⟨⟨?_, hwriting, rfl⟩, rfl⟩
    exact hactive
  · cases hflies

/-- A cue whose write is in flight and that is not active is over. -/
theorem Kept.over (h : Kept l) (hi : l.tickets[i]? = some t) (hresets : t.resets = l.resets)
    (hnone : l.service.virtual_mic_cue_ledger.active.lookup t.write.key = none) :
    t.write.key ∈ l.service.virtual_mic_cue_ledger.terminal ∨
      VIRTUAL_MIC_TERMINAL_LEDGER_CAPACITY ≤ others t.write.key l.handled := by
  rcases h.idle t.write.key hnone with hterminal | hmany | hempty
  · exact Or.inl hterminal
  · exact Or.inr hmany
  · have hflies := h.ticket_flies hi
    rw [← hresets] at hempty
    rw [show l.in_flight t.incarnation = [] from congrArg View.in_flight hempty] at hflies
    cases hflies

variable {service : BridgeService S}

theorem Kept.touches_written (h : Kept l) (hi : l.tickets[i]? = some t)
    (hwrites : service.writes = l.service.writes.eraseIdx i) : Touches l (l.written i t service) t.incarnation where
  resets := rfl
  handled := rfl
  writes := by
    dsimp only [MicLog.written]
    rw [hwrites, ← h.writes, List.eraseIdx_map]
  others := fun _ hne => MicLog.view_written_other hi service hne
  before := h.ticket_before hi

/-- A write whose cue no frame has ended comes back to an incarnation without a terminal status. -/
theorem Kept.written_ends (h : Kept l) (hi : l.tickets[i]? = some t) (hopen : t.ended = false)
    {kind : TranslationPlaybackStatusKind} (hkind : kind.is_terminal = true)
    (hnews : (l.news service).Sublist [kind]) : ((l.written i t service).view t.incarnation).Sound := by
  have hsound := h.sound t.incarnation
  rw [MicLog.view_written_self hi hsound.orderly.one_in_flight]
  have hgoing := hsound.unended t (h.ticket_flies hi) hopen
  exact hsound.end hgoing hkind hnews (Nat.zero_le 1) fun _ ht => by cases ht

theorem started_terminals (w : VirtualMicWrite) : (started w).countP (·.is_terminal) = 0 := by
  unfold started
  split <;> rfl

theorem started_started (w : VirtualMicWrite) :
    (started w).countP (· == .Started) = if w.chunk_index = 0 then 1 else 0 := by
  unfold started
  split <;> rfl

theorem completed_counts (w : VirtualMicWrite) :
    (started w ++ [TranslationPlaybackStatusKind.Completed]).countP (·.is_terminal) = 1 ∧
      (started w ++ [TranslationPlaybackStatusKind.Completed]).countP (· == .Started) =
        if w.chunk_index = 0 then 1 else 0 := by
  unfold started
  split <;> exact ⟨rfl, rfl⟩

variable {w : VirtualMicWrite}

/-- Of the expected writes only that of the first chunk tells of a start. -/
theorem View.At.started_once {v : View} (h : v.At incarnation progress)
    (hindex : progress.next_chunk_index = w.chunk_index) {news kinds : List TranslationPlaybackStatusKind}
    (hnews : news.Sublist kinds) (hkinds : kinds.countP (· == .Started) = if w.chunk_index = 0 then 1 else 0) :
    (v.told ++ news).count .Started ≤ 1 := by
  have hcount := told_append_le v.told hnews (· == .Started)
  have hbefore := h.started
  rw [hindex] at hbefore
  rw [hkinds] at hcount
  unfold List.count at hbefore ⊢
  by_cases hzero : w.chunk_index = 0
  · rw [if_pos hzero] at hbefore hcount
    omega
  · rw [if_neg hzero] at hbefore hcount
    omega

/-- The expected write of a chunk that is not the last. -/
theorem View.At.advance {v : View} (h : v.At incarnation progress) (hflight : progress.write_in_flight = true)
    (hindex : progress.next_chunk_index = w.chunk_index)
    (hnext : (virtual_mic.advance progress).next_chunk_index ≠ progress.chunk_count)
    {news : List TranslationPlaybackStatusKind} (hnews : news.Sublist (virtual_mic.started w)) :
    View.At ⟨v.admitted, [], v.told ++ news⟩ incarnation (virtual_mic.advance progress) := by
  have hlt := h.next
  have hfits := h.fits
  have hsucc : (virtual_mic.advance progress).next_chunk_index = progress.next_chunk_index + 1 := by
    unfold virtual_mic.advance
    dsimp only
    omega
  have hadmitted := h.admitted
  rw [if_pos hflight] at hadmitted
  have hterminals := told_append_le v.told hnews (·.is_terminal)
  have hgoing : v.told.countP (·.is_terminal) = 0 := h.going
  rw [started_terminals, hgoing] at hterminals
  refine ⟨?_, rfl, ?_, hfits, Nat.le_zero.mp hterminals, ?_⟩
  · rw [hsucc]
    exact hadmitted
  · rw [hsucc] at hnext ⊢
    exact lt_of_le_of_ne hlt hnext
  · rw [hsucc, if_neg (Nat.succ_ne_zero _)]
    exact h.started_once hindex hnews (started_started w)

theorem View.At.complete {v : View} (h : v.At incarnation progress)
    (hindex : progress.next_chunk_index = w.chunk_index) {news : List TranslationPlaybackStatusKind}
    (hnews : news.Sublist (virtual_mic.started w ++ [.Completed])) : View.Sound ⟨v.admitted, [], v.told ++ news⟩ where
  orderly := by
    have hterminals := told_append_le v.told hnews (·.is_terminal)
    have hgoing : v.told.countP (·.is_terminal) = 0 := h.going
    rw [(completed_counts w).1, hgoing] at hterminals
    exact .of_told h.sound.orderly.in_order (Nat.zero_le 1)
      (h.started_once hindex hnews (completed_counts w).2) hterminals
  unended := fun _ ht => by cases ht

/-- A write that comes back in time to an active cue is one of its own. -/
theorem returns_fresh (htime : returns_in_time l t)
    (hcurrent : l.service.translation_frame_has_current_authority t.write.key.authority = true)
    (hexpects : Expects l.service.virtual_mic_cue_ledger t.write progress) : t.resets = l.resets := by
  by_contra hresets
  unfold returns_in_time at htime
  rw [if_neg fun hfresh => hresets hfresh.1] at htime
  apply htime.2 hcurrent
  rw [← AList.lookup_isSome, hexpects.active]
  rfl

/-- No frame has ended the cue of a write that comes back in time to a ledger that can still end
it. -/
theorem Kept.returns_open (h : Kept l) (hi : l.tickets[i]? = some t) (htime : returns_in_time l t)
    (hcurrent : l.service.translation_frame_has_current_authority t.write.key.authority = true)
    (hfresh : t.write.key ∉ l.service.virtual_mic_cue_ledger.terminal) : t.ended = false := by
  by_contra hended
  rw [Bool.not_eq_false] at hended
  unfold returns_in_time at htime
  by_cases hresets : t.resets = l.resets
  · rw [if_pos ⟨hresets, hcurrent⟩] at htime
    cases hactive : l.service.virtual_mic_cue_ledger.active.lookup t.write.key with
    | some _ =>
      rw [(h.expects hi hresets hactive).2] at hended
      cases hended
    | none =>
      have hcrowd := htime hended
      rcases h.over hi hresets hactive with hterminal | _
      · exact hfresh hterminal
      · omega
  · rw [if_neg fun hfresh => hresets hfresh.1, hended] at htime
    cases htime.1

theorem Kept.written (h : Kept l) (hi : l.tickets[i]? = some t) (htime : returns_in_time l t)
    (hfinishes : Finishes { l.service with writes := l.service.writes.eraseIdx i } service
      t.write) : Kept (l.written i t service) := by
  have hone := (h.sound t.incarnation).orderly.one_in_flight
  cases hfinishes with
  | superseded hcurrent hledger hwrites htells =>
    have hcurrent : l.service.translation_frame_has_current_authority t.write.key.authority =
      false := hcurrent
    unfold returns_in_time at htime
    rw [if_neg (by rw [hcurrent]; simp)] at htime
    have ht := h.touches_written hi hwrites
    have hsound := h.written_ends hi htime.1 rfl (MicLog.news_sublist htells)
    rcases hledger with ⟨hmem, hsame⟩ | hends
    · refine h.stays ht hsame hsound fun _ => Or.inr ⟨?_, Or.inl hmem⟩
      cases hactive : l.service.virtual_mic_cue_ledger.active.lookup t.write.key with
      | none => exact hactive
      | some progress => exact absurd hmem (h.active _ progress hactive).1
    · exact h.ends ht hends hsound
  | unexpected hcurrent heq hprogress =>
    have hwrites : service.writes = l.service.writes.eraseIdx i := by rw [heq]
    have hledger : service.virtual_mic_cue_ledger = l.service.virtual_mic_cue_ledger := by rw [heq]
    have hnews : l.news service = [] := by
      unfold MicLog.news
      rw [heq, List.drop_length]
      rfl
    have hview := MicLog.view_written_self hi hone service
    rw [hnews, List.append_nil] at hview
    refine h.stays (h.touches_written hi hwrites) hledger ?_ fun hresets => Or.inr ?_
    · rw [hview]
      have horderly := (h.sound t.incarnation).orderly
      exact ⟨.of_told horderly.in_order (Nat.zero_le 1) horderly.started_once
        horderly.one_terminal, fun _ ht => by cases ht⟩
    · have hnone : l.service.virtual_mic_cue_ledger.active.lookup t.write.key = none := by
        cases hactive : l.service.virtual_mic_cue_ledger.active.lookup t.write.key with
        | none => rfl
        | some progress =>
          have hmem := hprogress progress (h.expects hi hresets hactive).1
          exact absurd hmem (h.active _ progress hactive).1
      exact ⟨hnone, h.over hi hresets hnone⟩
  | failed hcurrent hends hwrites htells =>
    have hopen := h.returns_open hi htime hcurrent hends.fresh
    exact h.ends (h.touches_written hi hwrites) hends
      (h.written_ends hi hopen rfl (MicLog.news_sublist htells))
  | advanced hcurrent progress hexpects hnext hterminal hactive hwrites htells =>
    have hresets := returns_fresh htime hcurrent hexpects
    obtain ⟨hfresh, hat⟩ := h.active _ progress hexpects.active
    rw [← hresets] at hat
    refine h.goes_on (h.touches_written hi hwrites) hresets hfresh hterminal hactive ?_
    rw [MicLog.view_written_self hi hone]
    exact View.At.advance hat hexpects.in_flight hexpects.next hnext (MicLog.news_sublist htells)
  | completed hcurrent progress hexpects hterminal hactive hwrites htells =>
    have hresets := returns_fresh htime hcurrent hexpects
    obtain ⟨hfresh, hat⟩ := h.active _ progress hexpects.active
    rw [← hresets] at hat
    refine h.ends (h.touches_written hi hwrites) ⟨hfresh, hterminal, hactive⟩ ?_
    rw [MicLog.view_written_self hi hone]
    exact View.At.complete hat hexpects.next (MicLog.news_sublist htells)

/-! ## Runs -/

theorem client_drops {authority : TranslationPlaybackAuthority} {frame : VirtualMicFrame S}
    (h : ¬ l.takes authority frame) :
    l.service.handle_virtual_mic_client authority frame = l.service := by
  unfold BridgeService.handle_virtual_mic_client
  by_cases hcurrent : l.service.translation_frame_has_current_authority authority = true
  · rw [if_neg (not_not.mpr hcurrent), if_pos]
    by_contra hvalid
    rw [not_or, not_not] at hvalid
    exact h ⟨hcurrent, hvalid⟩
  · rw [if_pos hcurrent]

theorem Kept.step (h : Kept l) (op : ServiceOp S) (hfits : fits_u32 op) (htime : in_time l op) :
    Kept (l.step op) := by
  cases op with
  | virtual_mic_frame authority frame =>
    unfold MicLog.step ServiceOp.step
    dsimp only
    split
    · rename_i htaken
      have hcrowd : crowd l (.virtual_mic_frame authority frame) <
        VIRTUAL_MIC_TERMINAL_LEDGER_CAPACITY := htime
      dsimp only [crowd] at hcrowd
      rw [if_pos htaken] at hcrowd
      exact h.frame htaken hfits hcrowd
    · rename_i htaken
      rw [client_drops htaken]
      exact h
  | written i succeeds =>
    have hwrite : l.service.writes[i]? = (l.tickets[i]?).map (·.write) := by
      rw [← h.writes, List.getElem?_map]
    unfold MicLog.step ServiceOp.step
    dsimp only
    cases hi : l.tickets[i]? with
    | none =>
      rw [hi] at hwrite
      rw [hwrite]
      exact h
    | some t =>
      rw [hi] at hwrite
      rw [hwrite]
      exact h.written hi (htime t hi) (write_finishes _ t.write succeeds)
  | bridge_init device_id reason reset requested =>
    have hwrites : (l.service.handle_bridge_init device_id reason reset requested).writes =
      l.service.writes := report_writes _ _
    have hledger : (l.service.handle_bridge_init device_id reason reset
        requested).virtual_mic_cue_ledger =
      if reset = true ∨ l.service.virtual_mic_output_requested ≠ requested then .new
      else l.service.virtual_mic_cue_ledger := report_ledger _ _
    unfold MicLog.step ServiceOp.step
    dsimp only
    split
    · rename_i hreset
      rw [if_pos hreset] at hledger
      exact h.reset hledger hwrites
    · rename_i hreset
      rw [if_neg hreset] at hledger
      exact h.elsewhere hledger hwrites
  | bridge_shutdown => exact h.reset (report_ledger _ _) (report_writes _ _)
  | physical_frame authority frame now_ms =>
    obtain ⟨hledger, hwrites⟩ := physical_frame_ledger l.service authority frame now_ms
    exact h.elsewhere hledger hwrites
  | request_playback_stop reason _ => exact h.elsewhere (report_ledger _ _) (report_writes _ _)
  | rebind device_id => exact h.elsewhere (report_ledger _ _) (report_writes _ _)
  | source_frame => exact h.elsewhere (report_ledger _ _) (report_writes _ _)
  | flush_source => exact h.elsewhere (report_ledger _ _) (report_writes _ _)
  | set_authority authority => exact h.elsewhere rfl rfl
  | work _ => exact h.elsewhere (report_ledger _ _) (report_writes _ _)

theorem step_service (l : MicLog S) (op : ServiceOp S) :
    (l.step op).service = ServiceOp.step l.service op := by
  cases op with
  | virtual_mic_frame _ _ =>
    unfold MicLog.step
    dsimp only
    split <;> rfl
  | written _ _ =>
    unfold MicLog.step
    dsimp only
    split <;> rfl
  | bridge_init _ _ _ _ =>
    unfold MicLog.step
    dsimp only
    split <;> rfl
  | _ => rfl

/-- The record goes along with the run of the service. -/
theorem run_service (l : MicLog S) (ops : List (ServiceOp S)) :
    (run MicLog.step l ops).service = run ServiceOp.step l.service ops := by
  induction ops generalizing l with
  | nil => rfl
  | cons _ ops ih =>
    rw [run_cons, run_cons, ih, step_service]

end

/-! ## Main results -/

/-- In a run whose frames and writes come in time, the writes of every incarnation of a cue are
admitted in order and one at a time, and its statuses are emitted once. The writes in flight are
those of the service. -/
theorem virtual_mic_cues_are_orderly (device_id : String) (authority : TranslationPlaybackAuthority)
    (ops : List (ServiceOp S)) (hfits : ∀ op ∈ ops, fits_u32 op)
    (htime : Along MicLog.step in_time (MicLog.new device_id authority) ops) :
    (∀ incarnation,
        ((run MicLog.step (MicLog.new device_id authority) ops).view incarnation).Orderly) ∧
      (run MicLog.step (MicLog.new device_id authority) ops).tickets.map (·.write) =
        (run ServiceOp.step (BridgeService.new device_id authority) ops).writes := by
  have hkept := (htime.and_forall hfits).keeps Kept (fun _ op h hok => h.step op hok.1 hok.2)
    (kept_new device_id authority)
  refine ⟨fun incarnation => (hkept.sound incarnation).orderly, ?_⟩
  rw [hkept.writes, run_service]
  rfl

instance (l : MicLog S) (t : Ticket) : Decidable (returns_in_time l t) :=
  inferInstanceAs (Decidable (if t.resets = l.resets ∧
      l.service.translation_frame_has_current_authority t.write.key.authority = true then
    t.ended = true → others t.write.key l.handled < VIRTUAL_MIC_TERMINAL_LEDGER_CAPACITY
  else
    t.ended = false ∧
      (l.service.translation_frame_has_current_authority t.write.key.authority = true →
        t.write.key ∉ l.service.virtual_mic_cue_ledger.active)))

instance (l : MicLog S) : (op : ServiceOp S) → Decidable (in_time l op)
  | .written i _ => inferInstanceAs (Decidable (∀ t ∈ l.tickets[i]?, returns_in_time l t))
  | .virtual_mic_frame _ _ => inferInstanceAs (Decidable (_ < _))
  | .bridge_init _ _ _ _ => inferInstanceAs (Decidable (_ < _))
  | .bridge_shutdown => inferInstanceAs (Decidable (_ < _))
  | .work _ => inferInstanceAs (Decidable (_ < _))
  | .physical_frame _ _ _ => inferInstanceAs (Decidable (_ < _))
  | .request_playback_stop _ _ => inferInstanceAs (Decidable (_ < _))
  | .rebind _ => inferInstanceAs (Decidable (_ < _))
  | .source_frame => inferInstanceAs (Decidable (_ < _))
  | .flush_source => inferInstanceAs (Decidable (_ < _))
  | .set_authority _ => inferInstanceAs (Decidable (_ < _))

def a_mic_authority (source_generation : Nat) : TranslationPlaybackAuthority :=
  ⟨"session", "bridge", source_generation, "token", 1, "speakers"⟩

def a_chunk (cue_id : String) (chunk_index chunk_count : Nat) : ServiceOp Nat :=
  .virtual_mic_frame (a_mic_authority 1) ⟨cue_id, chunk_index, chunk_count, [1], true⟩

/-- The second chunk comes while the first one is written, and then the source is flushed. -/
def a_flush_during_the_write : List (ServiceOp Nat) :=
  [.bridge_init "speakers" none false true, a_chunk "voice" 0 2, a_chunk "voice" 1 2,
    .flush_source, .set_authority (a_mic_authority 2), .written 0 true]

/-- The frame that comes too early ends the cue, and the write that finds its authority superseded
ends it again. -/
theorem a_superseded_write_ends_its_cue_again :
    (∀ op ∈ a_flush_during_the_write, fits_u32 op) ∧
      Along MicLog.step (fun l op => crowd l op ≤ 128)
        (MicLog.new "speakers" (a_mic_authority 1)) a_flush_during_the_write ∧
      ¬ ((run MicLog.step (MicLog.new "speakers" (a_mic_authority 1))
        a_flush_during_the_write).view ⟨1, "voice", a_mic_authority 1⟩).Orderly := by
  refine ⟨?_, by decide +kernel, fun horderly => ?_⟩
  · intro op hop
    simp only [a_flush_during_the_write, List.mem_cons, List.not_mem_nil, or_false] at hop
    rcases hop with rfl | rfl | rfl | rfl | rfl | rfl <;> simp [fits_u32, a_chunk]
  · have hone := horderly.one_terminal
    revert hone
    decide +kernel

/-- Two chunks of a cue, and another cue that fails between them. -/
def two_cues : List (ServiceOp Nat) :=
  [.bridge_init "speakers" none false true, a_chunk "voice" 0 2, a_chunk "other" 0 1,
    .written 1 false, .written 0 true, a_chunk "voice" 1 2, .written 0 true]

/-- What is told of the first one. -/
theorem a_cue_is_written_in_order :
    ((run MicLog.step (MicLog.new "speakers" (a_mic_authority 1)) two_cues).view
        ⟨1, "voice", a_mic_authority 1⟩).Orderly ∧
      (run MicLog.step (MicLog.new "speakers" (a_mic_authority 1)) two_cues).admitted
        ⟨1, "voice", a_mic_authority 1⟩ = [(0, 2), (1, 2)] ∧
      (run MicLog.step (MicLog.new "speakers" (a_mic_authority 1)) two_cues).told_of
        ⟨1, "voice", a_mic_authority 1⟩ = [.Queued, .Started, .Completed] := by
  have hlaw := virtual_mic_cues_are_orderly "speakers" (a_mic_authority 1) two_cues
    (by
      intro op hop
      simp only [two_cues, List.mem_cons, List.not_mem_nil, or_false] at hop
      rcases hop with rfl | rfl | rfl | rfl | rfl | rfl | rfl <;> simp [fits_u32, a_chunk])
    (by decide +kernel)
  exact ⟨hlaw.1 _, by decide +kernel, by decide +kernel⟩

end omni_translate.virtual_mic
