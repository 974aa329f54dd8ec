-- What interleaved calls on the session store keep, and when: generations
-- rise, `clear` removes what belongs to its generation, and a stopped
-- generation stays stopped.
import OmniTranslate.OmniSessions

namespace omni_translate.omni_sessions

open runs
open translation_lifecycle (U64_MAX saturating_succ)

variable {Handle Sender : Type} {m : Machine Handle Sender}

variable (store : OmniSessionStore Handle Sender) (thread : Nat)

attribute [simp] Machine.set Machine.wait

/-- A thread that is not disturbed runs the whole call: the sections of the machine are those of
the store. -/
theorem sections_make_the_call (call : Call Handle Sender) (hidle : m.threads thread = none) :
    (run Machine.step m [.start thread call, .resume thread, .resume thread]).store
        = m.store.call call ∧
      (run Machine.step m [.start thread call, .resume thread, .resume thread]).threads thread
        = none := by
  cases call with
  | mark_stopping direction generation reason =>
    simp only [run_cons, run_nil, Machine.step, hidle, Machine.start]
    rcases h : m.store.mark_stopping direction generation reason with ⟨store, _ | _⟩ <;>
      simp [OmniSessionStore.call, h, hidle]
  | clear direction generation =>
    simp only [run_cons, run_nil, Machine.step, hidle, Machine.start]
    rcases h : m.store.clear_session direction generation with ⟨store, _ | _⟩ <;>
      simp [OmniSessionStore.call, OmniSessionStore.clear, h, hidle, Machine.resume]
  | take_matching_sender route =>
    simp only [run_cons, run_nil, Machine.step, hidle, Machine.start]
    rcases h : m.store.matching_ready route with _ | generation <;>
      simp [OmniSessionStore.call, OmniSessionStore.take_matching_sender, h, hidle, Machine.resume]
  | _ =>
    simp [Machine.step, hidle, Machine.start, Machine.resume, OmniSessionStore.call,
      OmniSessionStore.take_handle, OmniSessionStore.begin]

/-- The number of the last `begin` of a direction. -/
def Machine.counter (m : Machine Handle Sender) (direction : String) : Nat :=
  (m.store.generations direction).getD 0

/-- A step raises the generation that is stored, or leaves it; a `clear` removes the sender and the
handle of its own generation; and a generation that was stopped is not current after it. -/
structure Keeps (m : Machine Handle Sender) (event : Event Handle Sender) : Prop where
  generation : ∀ direction old session, m.store.sessions direction = some old →
    (m.step event).store.sessions direction = some session →
    old.session_generation ≤ session.session_generation
  sender : ∀ thread direction generation, event = .resume thread →
    m.threads thread = some (.clear_sender direction generation) →
    m.store.senders direction ≠ none → m.sender_generation direction = some generation
  handle : ∀ thread direction generation, event = .resume thread →
    m.threads thread = some (.clear_handle direction generation) →
    m.store.handles direction ≠ none → m.handle_generation direction = some generation
  stopped : ∀ p ∈ (m.step event).stopped, (m.step event).store.is_current p.1 p.2 = false

/-- A `clear` that has found its session and has the sender or the handle still before it. -/
def Clearing (m : Machine Handle Sender) (direction : String) (generation : Nat) : Prop :=
  ∃ thread, m.threads thread = some (.clear_sender direction generation) ∨
    m.threads thread = some (.clear_handle direction generation)

/-- The calls that keep out of each other's way: a counter that is not used up; no mark on a
session that is stopping; nothing stored after a later `begin` while an older session is being
cleared; a `clear` that finds what belongs to its session; and a `begin` that no later one has
overtaken. -/
def Undisturbed (m : Machine Handle Sender) : Event Handle Sender → Prop
  | .start thread call => m.threads thread = none →
    match call with
    | .begin route => m.counter route.direction < U64_MAX
    | .mark_ready direction generation | .mark_failed direction generation _ =>
      ∀ session, m.store.sessions direction = some session →
        session.session_generation = generation → session.state ≠ .stopping
    | .store_sender direction _ | .store_handle direction _ =>
      ∀ generation, Clearing m direction generation → m.store.generations direction = some generation
    | .clear direction generation =>
      (m.store.sessions direction).any (·.session_generation = generation) = true →
        (m.store.senders direction ≠ none → m.sender_generation direction = some generation) ∧
        (m.store.handles direction ≠ none → m.handle_generation direction = some generation)
    | _ => True
  | .resume thread => ∀ session, m.threads thread = some (.insert_session session) →
    ∀ old, m.store.sessions session.route.direction = some old →
      old.session_generation ≤ session.session_generation

/-! ## The sessions -/

variable {m' : Machine Handle Sender}

/-- The sessions under way are numbered by the counter, each number is used once, and the stopped
ones are not current. -/
structure Numbered (m : Machine Handle Sender) : Prop where
  stored : ∀ d s, m.store.sessions d = some s → s.session_generation ≤ m.counter d
  pending : ∀ t s, m.threads t = some (.insert_session s) →
    s.session_generation ≤ m.counter s.route.direction
  fresh : ∀ t s, m.threads t = some (.insert_session s) →
    (∀ old, m.store.sessions s.route.direction = some old →
      old.session_generation ≠ s.session_generation) ∧
    (s.route.direction, s.session_generation) ∉ m.stopped
  once : ∀ t s t' s', m.threads t = some (.insert_session s) →
    m.threads t' = some (.insert_session s') → s.route.direction = s'.route.direction →
    s.session_generation = s'.session_generation → t = t'
  known : ∀ p ∈ m.stopped, p.2 ≤ m.counter p.1
  stopped : ∀ p ∈ m.stopped, ∀ s, m.store.sessions p.1 = some s → s.session_generation = p.2 →
    s.state = .stopping

/-- No session, no number and no `begin` comes in addition, and none is revived. -/
structure Fewer (m m' : Machine Handle Sender) : Prop where
  session : ∀ d s', m'.store.sessions d = some s' → ∃ s, m.store.sessions d = some s ∧
    s'.session_generation = s.session_generation ∧ (s.state = .stopping → s'.state = .stopping)
  generations : m'.store.generations = m.store.generations
  pending : ∀ t s, m'.threads t = some (.insert_session s) → m.threads t = some (.insert_session s)
  stopped : m'.stopped = m.stopped

theorem Fewer.counter (h : Fewer m m') (d : String) : m'.counter d = m.counter d := by
  simp [Machine.counter, h.generations]

theorem Numbered.fewer (hm : Numbered m) (h : Fewer m m') : Numbered m' where
  stored := by
    intro d s' hs'
    obtain ⟨s, hs, hgen, -⟩ := h.session d s' hs'
    rw [hgen, h.counter]
    exact hm.stored d s hs
  pending := by
    intro t s ht
    rw [h.counter]
    exact hm.pending t s (h.pending t s ht)
  fresh := by
    intro t s ht
    obtain ⟨hold, hnew⟩ := hm.fresh t s (h.pending t s ht)
    refine ⟨fun old' hold' => ?_, h.stopped ▸ hnew⟩
    obtain ⟨old, ho, hgen, -⟩ := h.session _ old' hold'
    rw [hgen]
    exact hold old ho
  once := by
    intro t s t' s' ht ht'
    exact hm.once t s t' s' (h.pending t s ht) (h.pending t' s' ht')
  known := by
    intro p hp
    rw [h.counter]
    exact hm.known p (h.stopped ▸ hp)
  stopped := by
    intro p hp s' hs' hgen'
    obtain ⟨s, hs, hgen, hstate⟩ := h.session p.1 s' hs'
    exact hstate (hm.stopped p (h.stopped ▸ hp) s hs (hgen ▸ hgen'))

theorem wait_cases {t t' : Nat} {rest : Option Rest} {r : Rest}
    (h : (m.wait t rest).threads t' = some r) : t' = t ∧ rest = some r ∨ m.threads t' = some r := by
  by_cases ht : t' = t
  · subst ht
    exact .inl ⟨rfl, by simpa using h⟩
  · exact .inr (by simpa [ht] using h)

/-- A section that touches no session, with a rest that inserts none. -/
theorem Fewer.of_same (hsessions : m'.store.sessions = m.store.sessions)
    (hgenerations : m'.store.generations = m.store.generations)
    (hpending : ∀ t s, m'.threads t = some (.insert_session s) → m.threads t = some (.insert_session s))
    (hstopped : m'.stopped = m.stopped) : Fewer m m' :=
  ⟨fun _ s' hs' => ⟨s', hsessions ▸ hs', rfl, id⟩, hgenerations, hpending, hstopped⟩

theorem Fewer.of_removed (d : String) (hsessions : m'.store.sessions = Function.update m.store.sessions d none)
    (hgenerations : m'.store.generations = m.store.generations)
    (hpending : ∀ t s, m'.threads t = some (.insert_session s) → m.threads t = some (.insert_session s))
    (hstopped : m'.stopped = m.stopped) : Fewer m m' := by
  refine ⟨fun d' s' hs' => ?_, hgenerations, hpending, hstopped⟩
  rw [hsessions] at hs'
  by_cases hd : d' = d
  · simp [hd] at hs'
  · exact ⟨s', by simpa [hd] using hs', rfl, id⟩

theorem mutate_matching_cases (d : String) (g : Nat)
    (mutate : OmniSessionMetadata → OmniSessionMetadata) :
    store.mutate_matching d g mutate = (store, false) ∨
      ∃ s, store.sessions d = some s ∧ s.session_generation = g ∧
        store.mutate_matching d g mutate =
          ({ store with sessions := Function.update store.sessions d (some (mutate s)) }, true) := by
  unfold OmniSessionStore.mutate_matching
  rcases hs : store.sessions d with _ | s
  · exact .inl rfl
  · by_cases hg : s.session_generation = g
    · exact .inr ⟨s, rfl, hg, by simp [hg]⟩
    · exact .inl (by simp [hg])

theorem Fewer.of_mark (d : String) (g : Nat) (mutate : OmniSessionMetadata → OmniSessionMetadata)
    (hgen : ∀ s, (mutate s).session_generation = s.session_generation)
    (hstate : ∀ s, m.store.sessions d = some s → s.session_generation = g → s.state = .stopping →
      (mutate s).state = .stopping) :
    Fewer m (m.set (m.store.mutate_matching d g mutate).1) := by
  rcases mutate_matching_cases m.store d g mutate with h | ⟨s, hs, hg, h⟩
  · rw [h]
    exact .of_same rfl rfl (fun _ _ => id) rfl
  · rw [h]
    refine ⟨fun d' s' hs' => ?_, rfl, fun _ _ => id, rfl⟩
    by_cases hd : d' = d
    · subst hd
      obtain rfl : mutate s = s' := by simpa using hs'
      exact ⟨s, hs, hgen s, hstate s hs hg⟩
    · exact ⟨s', by simpa [hd] using hs', rfl, id⟩

/-- A new number is larger than all that were given. -/
theorem Numbered.begin (hm : Numbered m) (t : Nat) (route : Route)
    (hmax : m.counter route.direction < U64_MAX) : Numbered (m.start t (.begin route)) := by
  have hnext : (m.store.next_generation route.direction).2 = m.counter route.direction + 1 := by
    unfold Machine.counter at hmax ⊢
    rcases hg : m.store.generations route.direction with _ | v
    · simp [OmniSessionStore.next_generation, hg]
    · rw [hg] at hmax
      simp [OmniSessionStore.next_generation, hg, saturating_succ, show v < U64_MAX from hmax]
  have hcounter : ∀ d, (m.start t (.begin route)).counter d =
      if d = route.direction then m.counter d + 1 else m.counter d := by
    intro d
    by_cases hd : d = route.direction
    · subst hd
      rw [if_pos rfl, ← hnext]
      simp [Machine.counter, Machine.start, OmniSessionStore.next_generation]
    · simp [Machine.counter, Machine.start, OmniSessionStore.next_generation, hd]
  have hle : ∀ d, m.counter d ≤ (m.start t (.begin route)).counter d := by
    intro d
    rw [hcounter]
    split <;> omega
  have hpending : ∀ t' s, (m.start t (.begin route)).threads t' = some (.insert_session s) →
      (t' = t ∧ s.route = route ∧ s.session_generation = m.counter route.direction + 1) ∨
        m.threads t' = some (.insert_session s) := by
    intro t' s ht'
    rcases wait_cases ht' with ⟨rfl, hrest⟩ | hold
    · obtain rfl := Rest.insert_session.inj (Option.some.inj hrest)
      exact .inl ⟨rfl, rfl, hnext⟩
    · exact .inr hold
  refine ⟨fun d s hs => ?_, fun t' s ht' => ?_, fun t' s ht' => ?_, fun t₁ s₁ t₂ s₂ h₁ h₂ hd hg => ?_,
    fun p hp => ?_, hm.stopped⟩
  · exact (hm.stored d s hs).trans (hle d)
  · rcases hpending t' s ht' with ⟨-, hroute, hgen⟩ | hold
    · rw [hroute, hcounter, if_pos rfl, hgen]
    · exact (hm.pending t' s hold).trans (hle _)
  · rcases hpending t' s ht' with ⟨-, hroute, hgen⟩ | hold
    · refine ⟨fun old hold => ?_, fun hp => ?_⟩
      · have := hm.stored _ old hold
        rw [hroute] at this
        omega
      · have := hm.known _ hp
        simp only [hroute, hgen] at this
        omega
    · exact hm.fresh t' s hold
  · rcases hpending t₁ s₁ h₁ with ⟨rfl, hr₁, hg₁⟩ | hold₁ <;>
      rcases hpending t₂ s₂ h₂ with ⟨rfl, hr₂, hg₂⟩ | hold₂
    · rfl
    · have := hm.pending t₂ s₂ hold₂
      rw [← hd, hr₁] at this
      omega
    · have := hm.pending t₁ s₁ hold₁
      rw [hd, hr₂] at this
      omega
    · exact hm.once t₁ s₁ t₂ s₂ hold₁ hold₂ hd hg
  · exact (hm.known p hp).trans (hle _)

theorem Numbered.insert (hm : Numbered m) {t : Nat} {s : OmniSessionMetadata}
    (ht : m.threads t = some (.insert_session s)) : Numbered (m.resume t (.insert_session s)) := by
  have hpending : ∀ t' s', (m.resume t (.insert_session s)).threads t' = some (.insert_session s') →
      t' ≠ t ∧ m.threads t' = some (.insert_session s') := by
    intro t' s' ht'
    by_cases htt : t' = t
    · simp [Machine.resume, htt] at ht'
    · exact ⟨htt, by simpa [Machine.resume, htt] using ht'⟩
  have hstored : ∀ d s', (m.resume t (.insert_session s)).store.sessions d = some s' →
      (d = s.route.direction ∧ s' = s) ∨ m.store.sessions d = some s' := by
    intro d s' hs'
    by_cases hd : d = s.route.direction
    · subst hd
      exact .inl ⟨rfl, by simpa [Machine.resume, OmniSessionStore.insert_session, eq_comm] using hs'⟩
    · exact .inr (by simpa [Machine.resume, OmniSessionStore.insert_session, hd] using hs')
  refine ⟨fun d s' hs' => ?_, fun t' s' ht' => hm.pending t' s' (hpending t' s' ht').2,
    fun t' s' ht' => ?_, fun t₁ s₁ t₂ s₂ h₁ h₂ => ?_, hm.known, fun p hp s' hs' hg => ?_⟩
  · rcases hstored d s' hs' with ⟨rfl, rfl⟩ | hold
    · exact hm.pending t s' ht
    · exact hm.stored d s' hold
  · obtain ⟨hne, hold⟩ := hpending t' s' ht'
    refine ⟨fun old hold' => ?_, (hm.fresh t' s' hold).2⟩
    rcases hstored _ old hold' with ⟨hd, rfl⟩ | hsame
    · intro hgen
      exact hne (hm.once t' s' t old hold ht hd hgen.symm)
    · exact (hm.fresh t' s' hold).1 old hsame
  · exact hm.once t₁ s₁ t₂ s₂ (hpending t₁ s₁ h₁).2 (hpending t₂ s₂ h₂).2
  · rcases hstored p.1 s' hs' with ⟨hd, rfl⟩ | hold
    · refine absurd hp ?_
      have hnew := (hm.fresh t s' ht).2
      rwa [← hd, hg] at hnew
    · exact hm.stopped p hp s' hold hg

theorem start_mark_stopping (t : Nat) (d : String) (g : Nat) (reason : String) :
    m.start t (.mark_stopping d g reason) =
      { m.set (m.store.mark_stopping d g reason).1 with
        stopped := if (m.store.mark_stopping d g reason).2 = true then (d, g) :: m.stopped
          else m.stopped } := by
  simp only [Machine.start]
  rcases m.store.mark_stopping d g reason with ⟨store, _ | _⟩
  · simp [Machine.set]
  · simp

theorem Numbered.mark_stopping (hm : Numbered m) (t : Nat) (d : String) (g : Nat) (reason : String) :
    Numbered (m.start t (.mark_stopping d g reason)) := by
  have hfewer : Fewer m (m.set (m.store.mark_stopping d g reason).1) :=
    .of_mark d g _ (fun _ => rfl) fun _ _ _ _ => rfl
  have hset := hm.fewer hfewer
  rcases mutate_matching_cases m.store d g
    (fun s => { s with state := .stopping, last_error := some reason }) with h | ⟨s, hs, hg, h⟩
  · have hfalse : (m.store.mark_stopping d g reason).2 = false := congrArg Prod.snd h
    rw [start_mark_stopping, hfalse]
    exact hset
  · have htrue : (m.store.mark_stopping d g reason).2 = true := congrArg Prod.snd h
    rw [start_mark_stopping, htrue, if_pos rfl]
    refine ⟨hset.stored, hset.pending, fun t' s' ht' => ⟨(hset.fresh t' s' ht').1, fun hp => ?_⟩,
      hset.once, fun p hp => ?_, fun p hp s' hs' hgen => ?_⟩
    · rcases List.mem_cons.mp hp with hnew | hold
      · obtain ⟨hd, hg'⟩ := Prod.mk.inj hnew
        exact (hm.fresh t' s' ht').1 s (hd ▸ hs) (hg.trans hg'.symm)
      · exact (hm.fresh t' s' ht').2 hold
    · rcases List.mem_cons.mp hp with rfl | hold
      · have := hm.stored d s hs
        rw [hg] at this
        exact this.trans_eq (hfewer.counter d).symm
      · exact hset.known p hold
    · rcases List.mem_cons.mp hp with rfl | hold
      · obtain rfl : _ = s' := by simpa [OmniSessionStore.mark_stopping, h] using hs'
        rfl
      · exact hset.stopped p hold s' hs' hgen

/-! ## The owners -/

/-- What a `clear` has before it belongs to its generation. -/
structure Owned (m : Machine Handle Sender) : Prop where
  sender : ∀ t d g, m.threads t = some (.clear_sender d g) → m.store.senders d ≠ none →
    m.sender_generation d = some g
  handle : ∀ d g, Clearing m d g → m.store.handles d ≠ none → m.handle_generation d = some g

/-- Nothing is stored in addition, and no `clear` begins. -/
structure Emptier (m m' : Machine Handle Sender) : Prop where
  senders : ∀ d, m'.store.senders d ≠ none → m.store.senders d ≠ none
  handles : ∀ d, m'.store.handles d ≠ none → m.store.handles d ≠ none
  sender_generation : m'.sender_generation = m.sender_generation
  handle_generation : m'.handle_generation = m.handle_generation
  clear_sender : ∀ t d g, m'.threads t = some (.clear_sender d g) →
    m.threads t = some (.clear_sender d g)
  clearing : ∀ d g, Clearing m' d g → Clearing m d g

theorem Owned.emptier (hm : Owned m) (h : Emptier m m') : Owned m' where
  sender := by
    intro t d g ht hs
    rw [h.sender_generation]
    exact hm.sender t d g (h.clear_sender t d g ht) (h.senders d hs)
  handle := by
    intro d g hc hs
    rw [h.handle_generation]
    exact hm.handle d g (h.clearing d g hc) (h.handles d hs)

theorem Emptier.of_set (hs : ∀ d, store.senders d ≠ none → m.store.senders d ≠ none)
    (hh : ∀ d, store.handles d ≠ none → m.store.handles d ≠ none) : Emptier m (m.set store) :=
  ⟨hs, hh, rfl, rfl, fun _ _ _ => id, fun _ _ => id⟩

theorem Emptier.of_wait (t : Nat) (rest : Option Rest)
    (hs : ∀ d, store.senders d ≠ none → m.store.senders d ≠ none)
    (hh : ∀ d, store.handles d ≠ none → m.store.handles d ≠ none)
    (hsender : ∀ d g, rest ≠ some (.clear_sender d g))
    (hhandle : ∀ d g, rest = some (.clear_handle d g) → Clearing m d g) :
    Emptier m ((m.set store).wait t rest) := by
  have hclear : ∀ t' d g, ((m.set store).wait t rest).threads t' = some (.clear_sender d g) →
      m.threads t' = some (.clear_sender d g) := by
    intro t' d g h
    rcases wait_cases h with ⟨-, hrest⟩ | hold
    · exact absurd hrest (hsender d g)
    · exact hold
  refine ⟨hs, hh, rfl, rfl, hclear, fun d g hc => ?_⟩
  obtain ⟨t', h | h⟩ := hc
  · exact ⟨t', .inl (hclear t' d g h)⟩
  · rcases wait_cases h with ⟨-, hrest⟩ | hold
    · exact hhandle d g hrest
    · exact ⟨t', .inr hold⟩

theorem taken {α : Type} (f : String → Option α) (d : String) :
    ∀ d', Function.update f d none d' ≠ none → f d' ≠ none := by
  intro d' h
  by_cases hd : d' = d
  · simp [hd] at h
  · simpa [hd] using h

theorem Owned.store_sender (hm : Owned m) (t : Nat) (d : String) (sender : Sender)
    (hc : ∀ g, Clearing m d g → m.store.generations d = some g) :
    Owned (m.start t (.store_sender d sender)) where
  sender := by
    intro t' d' g ht hs
    by_cases hd : d' = d
    · subst hd
      simpa [Machine.start] using hc g ⟨t', .inl ht⟩
    · have hs' : m.store.senders d' ≠ none := by
        simpa [Machine.start, OmniSessionStore.store_sender, hd] using hs
      simpa [Machine.start, hd] using hm.sender t' d' g ht hs'
  handle := hm.handle

theorem Owned.store_handle (hm : Owned m) (t : Nat) (d : String) (handle : Handle)
    (hc : ∀ g, Clearing m d g → m.store.generations d = some g) :
    Owned (m.start t (.store_handle d handle)) where
  sender := hm.sender
  handle := by
    intro d' g hclear hs
    by_cases hd : d' = d
    · subst hd
      simpa [Machine.start] using hc g hclear
    · have hs' : m.store.handles d' ≠ none := by
        simpa [Machine.start, OmniSessionStore.store_handle, hd] using hs
      simpa [Machine.start, hd] using hm.handle d' g hclear hs'

theorem clear_session_cases (d : String) (g : Nat) :
    (store.sessions d).any (·.session_generation = g) = false ∧
        store.clear_session d g = (store, false) ∨
      (store.sessions d).any (·.session_generation = g) = true ∧
        store.clear_session d g = (store.remove_session d, true) := by
  unfold OmniSessionStore.clear_session
  cases h : (store.sessions d).any (·.session_generation = g)
  · exact .inl ⟨rfl, by simp⟩
  · exact .inr ⟨rfl, by simp⟩

/-- A `clear` takes over what belongs to its generation. -/
theorem Owned.clear (hm : Owned m) (t : Nat) (d : String) (g : Nat)
    (hs : m.store.senders d ≠ none → m.sender_generation d = some g)
    (hh : m.store.handles d ≠ none → m.handle_generation d = some g) :
    Owned ((m.set (m.store.remove_session d)).wait t (some (.clear_sender d g))) where
  sender := by
    intro t' d' g' h
    rcases wait_cases h with ⟨-, hrest⟩ | hold
    · obtain ⟨rfl, rfl⟩ := Rest.clear_sender.inj (Option.some.inj hrest)
      exact hs
    · exact hm.sender t' d' g' hold
  handle := by
    rintro d' g' ⟨t', h | h⟩
    · rcases wait_cases h with ⟨-, hrest⟩ | hold
      · obtain ⟨rfl, rfl⟩ := Rest.clear_sender.inj (Option.some.inj hrest)
        exact hh
      · exact hm.handle d' g' ⟨t', .inl hold⟩
    · rcases wait_cases h with ⟨-, hrest⟩ | hold
      · simp at hrest
      · exact hm.handle d' g' ⟨t', .inr hold⟩

/-! ## One step -/

/-- What every step keeps. -/
structure Sound (m : Machine Handle Sender) : Prop where
  numbered : Numbered m
  owned : Owned m

/-- No stored generation falls. -/
def Rises (m m' : Machine Handle Sender) : Prop :=
  ∀ d old s, m.store.sessions d = some old → m'.store.sessions d = some s →
    old.session_generation ≤ s.session_generation

theorem Fewer.rises (h : Fewer m m') : Rises m m' := by
  intro d old s hold hs
  obtain ⟨s', hs', hgen, -⟩ := h.session d s hs
  rw [hold] at hs'
  obtain rfl := Option.some.inj hs'
  rw [hgen]

theorem Sound.fewer (hm : Sound m) (h : Fewer m m') (ho : Emptier m m') : Sound m' ∧ Rises m m' :=
  ⟨⟨hm.numbered.fewer h, hm.owned.emptier ho⟩, h.rises⟩

/-- A rest that inserts nothing leaves the sessions to be inserted as they are. -/
theorem wait_pending {t : Nat} {rest : Option Rest} (hrest : ∀ s, rest ≠ some (.insert_session s)) :
    ∀ t' s, (m.wait t rest).threads t' = some (.insert_session s) →
      m.threads t' = some (.insert_session s) := by
  intro t' s h
  rcases wait_cases h with ⟨-, hnew⟩ | hold
  · exact absurd hnew (hrest s)
  · exact hold

theorem Sound.mark (hm : Sound m) (d : String) (g : Nat)
    (mutate : OmniSessionMetadata → OmniSessionMetadata)
    (hgen : ∀ s, (mutate s).session_generation = s.session_generation)
    (hstate : ∀ s, m.store.sessions d = some s → s.session_generation = g → s.state = .stopping →
      (mutate s).state = .stopping) :
    Sound (m.set (m.store.mutate_matching d g mutate).1) ∧
      Rises m (m.set (m.store.mutate_matching d g mutate).1) := by
  refine hm.fewer (.of_mark d g mutate hgen hstate) ?_
  rcases mutate_matching_cases m.store d g mutate with h | ⟨s, -, -, h⟩ <;> rw [h] <;>
    exact .of_set _ (fun _ => id) fun _ => id

theorem Sound.start (hm : Sound m) {t : Nat} (hidle : m.threads t = none) {c : Call Handle Sender}
    (hc : Undisturbed m (.start t c)) : Sound (m.start t c) ∧ Rises m (m.start t c) := by
  have hc := hc hidle
  have hread : Sound m ∧ Rises m m :=
    hm.fewer (.of_same rfl rfl (fun _ _ => id) rfl) (.of_set _ (fun _ => id) fun _ => id)
  cases c with
  | store_handle d handle =>
    have hfewer : Fewer m (m.start t (.store_handle d handle)) := .of_same rfl rfl (fun _ _ => id) rfl
    exact ⟨⟨hm.numbered.fewer hfewer, hm.owned.store_handle t d handle hc⟩, hfewer.rises⟩
  | store_sender d sender =>
    have hfewer : Fewer m (m.start t (.store_sender d sender)) := .of_same rfl rfl (fun _ _ => id) rfl
    exact ⟨⟨hm.numbered.fewer hfewer, hm.owned.store_sender t d sender hc⟩, hfewer.rises⟩
  | take_sender d =>
    exact hm.fewer (.of_same rfl rfl (fun _ _ => id) rfl)
      (.of_set _ (taken m.store.senders d) fun _ => id)
  | take_handle d =>
    exact hm.fewer (.of_same rfl rfl (wait_pending (by simp)) rfl)
      (.of_wait _ t _ (taken m.store.senders d) (fun _ => id) (by simp) (by simp))
  | begin route =>
    refine ⟨⟨hm.numbered.begin t route hc, hm.owned.emptier ?_⟩, fun d old s hold hs => ?_⟩
    · exact .of_wait _ t _ (fun _ => id) (fun _ => id) (by simp) (by simp)
    · rw [show (m.start t (.begin route)).store.sessions d = m.store.sessions d from rfl, hold] at hs
      rw [Option.some.inj hs]
  | mark_ready d g =>
    refine hm.mark d g _ (fun _ => rfl) fun s hs hg hstop => ?_
    exact absurd hstop (hc s hs hg)
  | mark_failed d g error =>
    refine hm.mark d g _ (fun _ => rfl) fun s hs hg hstop => ?_
    exact absurd hstop (hc s hs hg)
  | mark_stopping d g reason =>
    obtain ⟨hset, hrises⟩ := hm.mark d g
      (fun s => { s with state := .stopping, last_error := some reason }) (fun _ => rfl) fun _ _ _ _ => rfl
    refine ⟨⟨hm.numbered.mark_stopping t d g reason, ?_⟩, ?_⟩ <;> rw [start_mark_stopping]
    · exact ⟨hset.owned.sender, hset.owned.handle⟩
    · exact hrises
  | clear d g =>
    rcases clear_session_cases m.store d g with ⟨-, h⟩ | ⟨hfound, h⟩
    · simp only [Machine.start, h]
      exact hread
    · simp only [Machine.start, h]
      have hfewer : Fewer m ((m.set (m.store.remove_session d)).wait t (some (.clear_sender d g))) :=
        .of_removed d rfl rfl (wait_pending (by simp)) rfl
      obtain ⟨hs, hh⟩ := hc hfound
      exact ⟨⟨hm.numbered.fewer hfewer, hm.owned.clear t d g hs hh⟩, hfewer.rises⟩
  | take_matching_sender route =>
    simp only [Machine.start]
    rcases m.store.matching_ready route with _ | g
    · exact hread
    · exact hm.fewer (.of_same rfl rfl (wait_pending (by simp)) rfl)
        (.of_wait m.store t _ (fun _ => id) (fun _ => id) (by simp) (by simp))
  | _ => exact hread

theorem Sound.resume (hm : Sound m) {t : Nat} {rest : Rest} (ht : m.threads t = some rest)
    (hc : Undisturbed m (.resume t)) : Sound (m.resume t rest) ∧ Rises m (m.resume t rest) := by
  cases rest with
  | insert_session session =>
    refine ⟨⟨hm.numbered.insert ht, hm.owned.emptier ?_⟩, fun d old s hold hs => ?_⟩
    · exact .of_wait _ t _ (fun _ => id) (fun _ => id) (by simp) (by simp)
    · by_cases hd : d = session.route.direction
      · subst hd
        obtain rfl : session = s := by
          simpa [Machine.resume, OmniSessionStore.insert_session] using hs
        exact hc session ht old hold
      · obtain rfl : old = s := by
          simpa [Machine.resume, OmniSessionStore.insert_session, hd, hold] using hs
        exact le_rfl
  | clear_sender d g =>
    exact hm.fewer (.of_same rfl rfl (wait_pending (by simp)) rfl)
      (.of_wait _ t _ (taken m.store.senders d) (fun _ => id) (by simp)
        (by rintro d' g' h; simp at h; exact ⟨t, .inl (by rw [ht, h.1, h.2])⟩))
  | clear_handle d g =>
    exact hm.fewer (.of_same rfl rfl (wait_pending (by simp)) rfl)
      (.of_wait _ t _ (fun _ => id) (taken m.store.handles d) (by simp) (by simp))
  | take_session d =>
    exact hm.fewer (.of_removed d rfl rfl (wait_pending (by simp)) rfl)
      (.of_wait _ t _ (fun _ => id) (fun _ => id) (by simp) (by simp))
  | take_last_handle d =>
    exact hm.fewer (.of_same rfl rfl (wait_pending (by simp)) rfl)
      (.of_wait _ t _ (fun _ => id) (taken m.store.handles d) (by simp) (by simp))
  | take_matched d =>
    exact hm.fewer (.of_same rfl rfl (wait_pending (by simp)) rfl)
      (.of_wait _ t _ (taken m.store.senders d) (fun _ => id) (by simp) (by simp))

theorem Sound.step (hm : Sound m) {event : Event Handle Sender} (hc : Undisturbed m event) :
    Sound (m.step event) ∧ Rises m (m.step event) := by
  have hsame : Sound m ∧ Rises m m :=
    hm.fewer (.of_same rfl rfl (fun _ _ => id) rfl) (.of_set _ (fun _ => id) fun _ => id)
  cases event with
  | start t c =>
    rcases ht : m.threads t with _ | rest
    · simp only [Machine.step, ht]
      exact hm.start ht hc
    · simp only [Machine.step, ht]
      exact hsame
  | resume t =>
    rcases ht : m.threads t with _ | rest
    · simp only [Machine.step, ht]
      exact hsame
    · simp only [Machine.step, ht]
      exact hm.resume ht hc

theorem Numbered.not_current (hm : Numbered m) {p : String × Nat} (hp : p ∈ m.stopped) :
    m.store.is_current p.1 p.2 = false := by
  unfold OmniSessionStore.is_current
  rcases hs : m.store.sessions p.1 with _ | s
  · rfl
  · have := hm.stopped p hp s hs
    simpa using this

theorem Sound.keeps (hm : Sound m) {event : Event Handle Sender} (hc : Undisturbed m event) :
    Keeps m event where
  generation := (hm.step hc).2
  sender := fun t d g _ ht hs => hm.owned.sender t d g ht hs
  handle := fun t d g _ ht hs => hm.owned.handle d g ⟨t, .inr ht⟩ hs
  stopped := fun _ hp => (hm.step hc).1.numbered.not_current hp

theorem Sound.new : Sound (Machine.new : Machine Handle Sender) where
  numbered := by
    refine ⟨?_, ?_, ?_, ?_, ?_, ?_⟩ <;> simp [Machine.new, OmniSessionStore.new]
  owned := by
    refine ⟨?_, ?_⟩ <;> simp [Machine.new, OmniSessionStore.new]

/-- In every interleaving of calls that keep out of each other's way, each step keeps the
generations, the owners and the stopped sessions. -/
theorem undisturbed_calls_keep_sessions_apart {events : List (Event Handle Sender)}
    (h : Along Machine.step Undisturbed Machine.new events) :
    ∀ before event after, events = before ++ event :: after →
      Keeps (run Machine.step Machine.new before) event := by
  rintro before event after rfl
  have hbefore : Along Machine.step Undisturbed Machine.new before := (Along.append.mp h).1
  have hsound : Sound (run Machine.step Machine.new before) :=
    hbefore.keeps Sound (fun m event hm hc => (hm.step hc).1) Sound.new
  exact hsound.keeps h.at

def sample_route : Route where
  direction := "inbound"
  model_id := "omni"
  source_language := "en"
  target_language := "zh"
  realtime_audio_mode := "manual"
  subtitle_translate_active := false
  output_mode := .text_and_audio
  contract_signature := 0

/-- One thread begins a session, stores its sender and stops it; another one clears it. -/
def sample_events : List (Event Nat Nat) :=
  [.start 0 (.begin sample_route), .resume 0, .start 0 (.store_sender "inbound" 7),
    .start 0 (.mark_stopping "inbound" 1 "cancelled"), .start 1 (.clear "inbound" 1), .resume 1]

theorem sample_calls_keep_sessions_apart :
    Along Machine.step Undisturbed Machine.new sample_events ∧
      Keeps (run Machine.step Machine.new (sample_events.take 5)) (.resume 1) := by
  have h : Along Machine.step Undisturbed Machine.new sample_events := by
    refine ⟨fun _ => by decide, fun session h => ?_, fun _ g h => ?_, fun _ => trivial,
      fun _ _ => ⟨fun _ => rfl, fun hh => absurd rfl hh⟩, fun session h => ?_, trivial⟩
    · intro old hold
      cases (show none = some old from hold)
    · obtain ⟨t, ht⟩ := h
      by_cases h0 : t = 0 <;>
        simp [h0, Machine.step, Machine.new, Machine.start, Machine.resume] at ht
    · cases (show some (Rest.clear_sender "inbound" 1) = some (.insert_session session) from h)
  exact ⟨h, undisturbed_calls_keep_sessions_apart h _ _ [] rfl⟩

/-! What goes wrong otherwise. -/

/-- The second `begin` stores its session before the first one does. -/
def overtaken_begin : List (Event Nat Nat) :=
  [.start 0 (.begin sample_route), .start 1 (.begin sample_route), .resume 1]

/-- A new session begins and stores its sender between two sections of the `clear` of the old one. -/
def crossed_clear : List (Event Nat Nat) :=
  [.start 0 (.begin sample_route), .resume 0, .start 1 (.clear "inbound" 1),
    .start 0 (.begin sample_route), .resume 0, .start 0 (.store_sender "inbound" 7)]

/-- A session is stopped, and its worker reports it ready. -/
def late_ready : List (Event Nat Nat) :=
  [.start 0 (.begin sample_route), .resume 0, .start 0 (.mark_stopping "inbound" 1 "cancelled")]

theorem disturbed_calls_mix_sessions :
    ¬ Keeps (run Machine.step Machine.new overtaken_begin) (.resume 0) ∧
      ¬ Keeps (run Machine.step Machine.new crossed_clear) (.resume 1) ∧
      ¬ Keeps (run Machine.step Machine.new late_ready) (.start 1 (.mark_ready "inbound" 1)) := by
  refine ⟨fun h => ?_, fun h => ?_, fun h => ?_⟩
  · have hfall := h.generation "inbound" (OmniSessionStore.starting_session 2 sample_route)
      (OmniSessionStore.starting_session 1 sample_route) rfl rfl
    exact absurd hfall (by decide)
  · have hother := h.sender 1 "inbound" 1 rfl rfl (by decide)
    exact absurd hother (by decide)
  · have hcurrent := h.stopped ("inbound", 1) (by decide)
    exact absurd hcurrent (by decide)

end omni_translate.omni_sessions
