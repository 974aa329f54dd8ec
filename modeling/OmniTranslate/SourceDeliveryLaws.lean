-- The laws of the source pipe. Every write of the subscription either leaves it
-- alone or moves on to the next generation, so a generation owns it for one
-- stretch of the run; the Desktop never goes back to an earlier generation.
import OmniTranslate.Places
import OmniTranslate.SourceDelivery

namespace omni_translate.source_delivery

open runs places
open translation_lifecycle (U64_MAX)
open source_delivery.System (step)
open Process (next)

/-! ## The owner of the subscription -/

/-- The generation that owns the subscription. -/
def BridgeState.owner (state : BridgeState) : Option Nat :=
  if state.source_subscriber_active then some state.source_generation else none

theorem is_owner_iff {state : BridgeState} {g : Nat} :
    source_subscription_is_owner state g = true ↔ state.owner = some g := by
  unfold source_subscription_is_owner BridgeState.owner
  by_cases hactive : state.source_subscriber_active = true <;> simp [hactive]

theorem generation_of_owner {state : BridgeState} {g : Nat} (h : state.owner = some g) :
    state.source_generation = g := by
  unfold BridgeState.owner at h
  split at h <;> simp_all

/-- What one step does to the subscription: nothing, or the next generation. -/
def Advances (old new : BridgeState) : Prop :=
  (new.source_generation = old.source_generation ∧ new.source_subscriber_active = old.source_subscriber_active) ∨
    new.source_generation = wrapping_succ old.source_generation

variable (state : BridgeState)

theorem Advances.refl : Advances state state := .inl ⟨rfl, rfl⟩

theorem end_advances (g : Nat) : Advances state (end_source_subscription state g) := by
  unfold end_source_subscription
  split
  · exact .inr rfl
  · exact .refl state

theorem fail_advances (detail : String) :
    Advances state (fail_process_loopback_route detail state) := by
  unfold fail_process_loopback_route
  split
  · exact .refl state
  · exact .inr rfl

theorem init_advances (request : InitRequest) :
    Advances state (handle_bridge_init request state) := by
  unfold handle_bridge_init
  dsimp only
  split
  · exact .inr rfl
  · exact .inl ⟨rfl, rfl⟩

theorem dispatch_advances (g : Nat) (mode : SourceCaptureMode) (payload : Payload) (state : BridgeState)
    (source : List Payload) : Advances state (dispatch_source_frame g mode payload state source).1 := by
  unfold dispatch_source_frame
  split_ifs
  · exact .refl state
  · exact .inl ⟨rfl, rfl⟩
  · exact .refl state

/-! ## What one step of a subscriber does -/

section

variable {receiver_free : Bool} {bridge : BridgeState} {source : List Payload} {outcome : Outcome} {p : Process}

theorem label_generation {g g' frame_index now : Nat} {event_type : String} {payload : Payload}
    (h : (label bridge g frame_index now event_type payload).generation = some g') : g' = g := by
  unfold label at h
  split at h
  · split at h <;> simp_all [Process.generation]
  · simp_all [Process.generation]

theorem while_owner_generation {g g' : Nat} {go : Process} (hgo : go.generation = some g)
    (h : (while_owner bridge g go).generation = some g') : g' = g := by
  unfold while_owner at h
  split at h <;> simp_all [Process.generation]

/-- A subscriber keeps its generation; a new one gets the next. -/
theorem next_generation {g : Nat} (h : (p.next receiver_free bridge source outcome).process.generation = some g) :
    p.generation = some g ∨ (g = wrapping_succ bridge.source_generation ∧
      (p.next receiver_free bridge source outcome).bridge = begin_source_subscription bridge) := by
  cases p with
  | connecting =>
    dsimp only [next] at h ⊢
    split at h
    · split at h
      · simp [Process.generation] at h
      · simp_all [Process.generation, begin_source_subscription]
    · simp [Process.generation] at h
  | draining g' =>
    dsimp only [next] at h
    split at h <;> exact .inl h
  | checking g' frame_index =>
    dsimp only [next] at h
    split at h
    · split at h
      · exact .inl h
      · split at h <;> exact .inl h
    · exact .inl h
  | claiming g' frame_index =>
    dsimp only [next] at h
    split at h
    · rw [while_owner_generation rfl h]
      exact .inl rfl
    · exact .inl h
  | receiving g' frame_index =>
    dsimp only [next] at h
    split at h <;> exact .inl h
  | received g' frame_index result =>
    rw [while_owner_generation rfl h]
    exact .inl rfl
  | labelling g' frame_index result =>
    dsimp only [next] at h
    split at h
    · exact .inl h
    · rw [label_generation h]
      exact .inl rfl
  | writing g' frame_index _ =>
    dsimp only [next] at h
    split at h <;> exact .inl h
  | ending g' => simp [next, Process.generation] at h
  | returned => simp [next, Process.generation] at h

theorem next_advances : Advances bridge (p.next receiver_free bridge source outcome).bridge := by
  cases p <;> dsimp only [next]
  case connecting =>
    split
    · split
      · exact .refl bridge
      · exact .inr rfl
    · exact .refl bridge
  case draining => split <;> exact .refl bridge
  case checking =>
    split
    · split <;> exact .refl bridge
    · exact .refl bridge
  case receiving => split <;> exact .refl bridge
  case labelling => split <;> exact .refl bridge
  case ending g => exact end_advances bridge g
  all_goals exact .refl bridge

end

/-! ## One step of the system -/

section

variable {s : System} {op : Step}

theorem step_advances : Advances s.bridge (s.step op).bridge := by
  cases op with
  | go_on i _ =>
    dsimp only [step]
    split
    · exact .refl _
    · exact next_advances
  | dispatch g mode payload => exact dispatch_advances g mode payload s.bridge s.source
  | init request => exact init_advances s.bridge request
  | flush => exact .inr rfl
  | shutdown => exact .inr rfl
  | fail_route detail => exact fail_advances s.bridge detail
  | read i now =>
    dsimp only [step]
    split <;> exact .refl _
  | connect => exact .refl _
  | report_route _ detail _ _ => exact .inl ⟨rfl, rfl⟩
  | read_foreign _ now => exact .refl _
  | revoke _ _ _ g => exact .refl _
  | replace_snapshot _ => exact .refl _

/-- The generation does not wrap round in the step. -/
def NoWrap (s : System) (op : Step) : Prop := s.bridge.source_generation ≤ (s.step op).bridge.source_generation

instance (s : System) (op : Step) : Decidable (NoWrap s op) := by
  unfold NoWrap
  infer_instance

theorem wrapping_succ_of_le {n : Nat} (h : n ≤ wrapping_succ n) : wrapping_succ n = n + 1 := by
  unfold wrapping_succ at h ⊢
  split at h
  · subst n
    simp [U64_MAX] at h
  · rename_i hne
    rw [if_neg hne]

/-- The generation has grown, or the subscription is as it was. -/
def Later (old new : BridgeState) : Prop :=
  old.source_generation ≤ new.source_generation ∧
    (new.source_generation = old.source_generation → new.source_subscriber_active = old.source_subscriber_active)

theorem Later.refl : Later state state := ⟨le_refl _, fun _ => rfl⟩

theorem Later.trans {a b c : BridgeState} (hab : Later a b) (hbc : Later b c) : Later a c := by
  refine ⟨hab.1.trans hbc.1, fun h => ?_⟩
  have hmid : b.source_generation = a.source_generation := le_antisymm (h ▸ hbc.1) hab.1
  rw [hbc.2 (h.trans hmid.symm), hab.2 hmid]

theorem later_of_no_wrap (h : NoWrap s op) : Later s.bridge (s.step op).bridge := by
  refine ⟨h, fun _ => ?_⟩
  rcases @step_advances s op with ⟨-, hactive⟩ | hnext
  · exact hactive
  · have hle : s.bridge.source_generation ≤ wrapping_succ s.bridge.source_generation := hnext ▸ h
    rw [wrapping_succ_of_le hle] at hnext
    omega

theorem run_later {ops : List Step} (h : Along step NoWrap s ops) :
    Later s.bridge (run step s ops).bridge := by
  induction ops generalizing s with
  | nil => exact .refl _
  | cons _ ops ih => exact (later_of_no_wrap h.1).trans (ih h.2)

/-- A generation that exists already and owns the subscription later on owns it now. -/
theorem owner_of_later {old new : BridgeState} {g : Nat} (h : Later old new) (hnew : new.owner = some g)
    (hg : g ≤ old.source_generation) : old.owner = some g := by
  have hgen := generation_of_owner hnew
  have hsame : new.source_generation = old.source_generation := le_antisymm (hgen ▸ hg) h.1
  unfold BridgeState.owner at hnew ⊢
  rwa [← h.2 hsame, ← hsame]

end

/-! ## Each subscriber has a generation of its own -/

/-- No generation is given twice, and none that is given is still to come. -/
structure System.Numbered (s : System) : Prop where
  reached : ∀ subscriber ∈ s.subscribers, ∀ g, subscriber.process.generation = some g → g ≤ s.bridge.source_generation
  apart : Apart (fun subscriber : Subscriber => subscriber.process.generation) s.subscribers

section

variable {s s' : System} {op : Step}

theorem System.Numbered.of_later (h : s.Numbered) (hsubscribers : s'.subscribers = s.subscribers)
    (hlater : s.bridge.source_generation ≤ s'.bridge.source_generation) : s'.Numbered := by
  refine ⟨fun subscriber hmem g hg => ?_, hsubscribers ▸ h.apart⟩
  exact (h.reached subscriber (hsubscribers ▸ hmem) g hg).trans hlater

theorem System.Numbered.put_in (h : s.Numbered) {i : Nat} {old new : Subscriber} (hi : s.subscribers[i]? = some old)
    (hsubscribers : s'.subscribers = s.subscribers.set i new)
    (hlater : s.bridge.source_generation ≤ s'.bridge.source_generation)
    (hkey : ∀ g, new.process.generation = some g → old.process.generation = some g ∨
      (s.bridge.source_generation < g ∧ g ≤ s'.bridge.source_generation)) : s'.Numbered := by
  have hold : ∀ g, old.process.generation = some g → g ≤ s.bridge.source_generation :=
    h.reached old (List.mem_of_getElem? hi)
  constructor
  · rw [hsubscribers]
    refine forall_put_in (fun subscriber hmem g hg => (h.reached subscriber hmem g hg).trans hlater) (fun g hg => ?_) i
    rcases hkey g hg with hg | ⟨-, hg⟩
    · exact (hold g hg).trans hlater
    · exact hg
  · rw [hsubscribers]
    refine h.apart.put_in hi fun g hg => ?_
    rcases hkey g hg with hg | ⟨_, -⟩
    · exact .inl hg
    · exact .inr fun subscriber hmem hsame => absurd (h.reached subscriber hmem g hsame) (by omega)

theorem numbered_step (h : s.Numbered) (hno : NoWrap s op) : (s.step op).Numbered := by
  have hlater := hno
  cases op with
  | connect =>
    refine ⟨fun subscriber hmem g hg => ?_, h.apart.snoc rfl⟩
    rcases List.mem_append.mp hmem with hmem | hmem
    · exact h.reached subscriber hmem g hg
    · rw [List.mem_singleton.mp hmem] at hg
      simp [Process.generation] at hg
  | go_on i _ =>
    cases hi : s.subscribers[i]? with
    | none => simpa only [step, hi] using h
    | some subscriber =>
      simp only [NoWrap, step, hi] at hlater ⊢
      refine h.put_in hi rfl hlater fun g hg => ?_
      rcases next_generation hg with hg | ⟨rfl, hbegun⟩
      · exact .inl hg
      · have hnext : s.bridge.source_generation ≤ wrapping_succ s.bridge.source_generation := by
          rwa [System.moved, hbegun] at hlater
        refine .inr ⟨by rw [wrapping_succ_of_le hnext]; omega, ?_⟩
        rw [System.moved, hbegun]
        exact le_refl _
  | read i _ =>
    dsimp only [step]
    split
    · rename_i hi
      exact h.put_in hi rfl (le_refl _) fun g hg => .inl hg
    · exact h
  | _ => exact h.of_later rfl hlater

end

/-! ## What happened to a frame that is written -/

section

variable {receiver_free : Bool} {bridge : BridgeState} {source : List Payload} {outcome : Outcome} {p : Process}
  {g n : Nat} {payload : Payload} {envelope : Envelope}

def Envelope.is_frame (envelope : Envelope) : Prop := envelope.header.event_type = "bridge.source.frame"

theorem label_eq {frame_index now : Nat} {event_type : String} {q : Process}
    (h : label bridge g frame_index now event_type payload = q) :
    q = .ending g ∨ q = .checking g frame_index ∨ bridge.owner = some g ∧ ∃ session_id,
      q = .writing g (frame_index + 1)
        ⟨source_frame_header bridge g (frame_index + 1) now event_type session_id payload, payload⟩ := by
  unfold label at h
  split at h
  · rename_i howner
    split at h
    · exact .inr (.inl h.symm)
    · exact .inr (.inr ⟨is_owner_iff.mp howner, _, h.symm⟩)
  · exact .inl h.symm

/-- Only the receive takes a payload from the channel. -/
theorem received_from (h : (p.next receiver_free bridge source outcome).process = .received g n (.ok payload)) :
    p = .receiving g n ∧ source.head? = some payload := by
  cases p <;> cases source <;> grind [next, while_owner, label]

theorem labelling_from (h : (p.next receiver_free bridge source outcome).process = .labelling g n (.ok payload)) :
    p = .received g n (.ok payload) := by
  cases p <;> cases source <;> grind [next, while_owner, label]

theorem received_event_frame {result : Except RecvTimeoutError Payload} {event_type : String}
    (h : received_event result = some (event_type, payload)) (hframe : event_type = "bridge.source.frame") :
    result = .ok payload := by
  unfold received_event at h
  split at h <;> simp_all

/-- A frame is labelled by the owner of the subscription, with its own generation. -/
theorem writing_from (h : (p.next receiver_free bridge source outcome).process = .writing g n envelope)
    (hframe : envelope.is_frame) : envelope.header.source_generation = some g ∧ bridge.owner = some g ∧
      ∃ frame_index, p = .labelling g frame_index (.ok envelope.payload) := by
  cases p with
  | labelling _ frame_index _ =>
    dsimp only [next] at h
    split at h
    · simp at h
    · rename_i _ payload hevent
      rcases label_eq h with hq | hq | ⟨howner, _, hq⟩
      · simp at hq
      · simp at hq
      · obtain ⟨rfl, rfl, rfl⟩ := Process.writing.inj hq
        exact ⟨rfl, howner, frame_index, by rw [received_event_frame hevent hframe]⟩
  | _ => cases source <;> grind [next, while_owner]

/-- What is written to the pipe as a frame was labelled before. -/
theorem written_from (h : envelope ∈ (p.next receiver_free bridge source outcome).written)
    (hframe : envelope.is_frame) : ∃ g n, p = .writing g n envelope := by
  have hnot : ∀ error failure now, envelope ∉ written_unless error ⟨source_route_error_header bridge failure now, []⟩ := by
    intro error failure now hmem
    unfold written_unless at hmem
    split at hmem
    · simp at hmem
    · rw [List.mem_singleton.mp hmem] at hframe
      simp [Envelope.is_frame, source_route_error_header] at hframe
  cases p <;> cases source <;> grind [next, written_unless]

end

/-! ## Where a frame comes from -/

/-- What a subscriber has labelled: the frames in its pipe and the one it is about to write. -/
def Subscriber.envelopes : Subscriber → List Envelope
  | ⟨.writing _ _ envelope, pipe⟩ => pipe ++ [envelope]
  | ⟨_, pipe⟩ => pipe

theorem mem_envelopes {subscriber : Subscriber} {envelope : Envelope} :
    envelope ∈ subscriber.envelopes ↔
      envelope ∈ subscriber.pipe ∨ ∃ g n, subscriber.process = .writing g n envelope := by
  obtain ⟨process, pipe⟩ := subscriber
  cases process <;> simp [Subscriber.envelopes, eq_comm]

section

variable (start : System) {before : List Step} {i g : Nat} {payload : Payload}

/-- A subscriber of generation `g` took the payload from the channel. -/
def Popped (before : List Step) (i g : Nat) (payload : Payload) : Prop :=
  ∃ earlier outcome later, before = earlier ++ .go_on i outcome :: later ∧
    (run step start earlier).source.head? = some payload ∧
    (∃ subscriber ∈ (run step start earlier).subscribers, subscriber.process.generation = some g) ∧
    ∃ subscriber ∈ (run step start (earlier ++ [.go_on i outcome])).subscribers,
      subscriber.process.generation = some g

/-- The payload was taken from the channel by a subscriber whose generation owned the subscription before and
after. -/
def Took (before : List Step) (i g : Nat) (payload : Payload) : Prop :=
  ∃ earlier outcome later, before = earlier ++ .go_on i outcome :: later ∧
    (run step start earlier).source.head? = some payload ∧
    (run step start earlier).bridge.owner = some g ∧
    (run step start (earlier ++ [.go_on i outcome])).bridge.owner = some g

variable {start}

theorem Took.snoc (h : Took start before i g payload) (op : Step) : Took start (before ++ [op]) i g payload := by
  obtain ⟨earlier, outcome, later, rfl, h⟩ := h
  exact ⟨earlier, outcome, later ++ [op], by simp, h⟩

theorem Popped.snoc (h : Popped start before i g payload) (op : Step) : Popped start (before ++ [op]) i g payload := by
  obtain ⟨earlier, outcome, later, rfl, h⟩ := h
  exact ⟨earlier, outcome, later ++ [op], by simp, h⟩

theorem run_numbered (hno : Along step NoWrap start before) (h : start.Numbered) :
    (run step start before).Numbered :=
  hno.keeps System.Numbered (fun _ _ => numbered_step) h

/-- A generation that owns the subscription now owned it since a subscriber got it. -/
theorem Popped.took (h : Popped start before i g payload) (hnumbered : start.Numbered)
    (hno : Along step NoWrap start before) (howner : (run step start before).bridge.owner = some g) :
    Took start before i g payload := by
  obtain ⟨earlier, outcome, later, rfl, hhead, hbefore, hafter⟩ := h
  have hpast : ∀ xs ys, earlier ++ .go_on i outcome :: later = xs ++ ys →
      (∃ subscriber ∈ (run step start xs).subscribers, subscriber.process.generation = some g) →
      (run step start xs).bridge.owner = some g := by
    rintro xs ys heq ⟨subscriber, hmem, hg⟩
    rw [heq] at hno howner
    rw [run_append] at howner
    obtain ⟨hxs, hys⟩ := Along.append.mp hno
    exact owner_of_later (run_later hys) howner ((run_numbered hxs hnumbered).reached subscriber hmem g hg)
  refine ⟨earlier, outcome, later, rfl, hhead, hpast _ _ rfl hbefore, ?_⟩
  exact hpast (earlier ++ [.go_on i outcome]) later (by simp) hafter

/-- What the run tells of a subscriber. -/
structure Told (start : System) (before : List Step) (i : Nat) (subscriber : Subscriber) : Prop where
  received : ∀ g n payload, subscriber.process = .received g n (.ok payload) → Popped start before i g payload
  labelling : ∀ g n payload, subscriber.process = .labelling g n (.ok payload) → Popped start before i g payload
  frames : ∀ envelope ∈ subscriber.envelopes, envelope.is_frame →
    ∃ g, envelope.header.source_generation = some g ∧ Took start before i g envelope.payload

variable {subscriber : Subscriber}

theorem Told.snoc (h : Told start before i subscriber) (op : Step) : Told start (before ++ [op]) i subscriber := by
  refine ⟨fun g n payload hp => (h.received g n payload hp).snoc op,
    fun g n payload hp => (h.labelling g n payload hp).snoc op, fun envelope hmem hframe => ?_⟩
  obtain ⟨g, hg, htook⟩ := h.frames envelope hmem hframe
  exact ⟨g, hg, htook.snoc op⟩

/-- One step of a subscriber goes on with what the run tells of it. -/
theorem Told.go_on (h : Told start before i subscriber) (hnumbered : start.Numbered)
    (hno : Along step NoWrap start before) (hi : (run step start before).subscribers[i]? = some subscriber)
    (outcome : Outcome) {new : Subscriber}
    (hnew : (run step start (before ++ [.go_on i outcome])).subscribers[i]? = some new) :
    Told start (before ++ [.go_on i outcome]) i new := by
  have hstep := hnew
  rw [run_snoc] at hstep
  have hlt : i < (run step start before).subscribers.length := (List.getElem?_eq_some_iff.mp hi).1
  simp only [step, hi, System.moved, List.getElem?_set_self hlt, Option.some.injEq] at hstep
  subst hstep
  refine ⟨fun g n payload hp => ?_, fun g n payload hp => ?_, fun envelope hmem hframe => ?_⟩
  · obtain ⟨hfrom, hhead⟩ := received_from hp
    refine ⟨before, outcome, [], rfl, hhead, ⟨subscriber, List.mem_of_getElem? hi, by rw [hfrom]; rfl⟩,
      _, List.mem_of_getElem? hnew, ?_⟩
    rw [hp]
    rfl
  · exact (h.received g n payload (labelling_from hp)).snoc _
  · rcases mem_envelopes.mp hmem with hmem | ⟨g, n, hp⟩
    · have hold : envelope ∈ subscriber.envelopes := by
        rcases List.mem_append.mp hmem with hmem | hmem
        · exact mem_envelopes.mpr (.inl hmem)
        · exact mem_envelopes.mpr (.inr (written_from hmem hframe))
      obtain ⟨g, hg, htook⟩ := h.frames envelope hold hframe
      exact ⟨g, hg, htook.snoc _⟩
    · obtain ⟨hg, howner, frame_index, hfrom⟩ := writing_from hp hframe
      exact ⟨g, hg, ((h.labelling g frame_index _ hfrom).took hnumbered hno howner).snoc _⟩

theorem Told.read {process : Process} {envelope : Envelope} {pipe : List Envelope}
    (h : Told start before i ⟨process, envelope :: pipe⟩) : Told start before i ⟨process, pipe⟩ := by
  refine ⟨h.received, h.labelling, fun envelope hmem hframe => h.frames envelope ?_ hframe⟩
  rcases mem_envelopes.mp hmem with hmem | hp
  · exact mem_envelopes.mpr (.inl (List.mem_cons_of_mem _ hmem))
  · exact mem_envelopes.mpr (.inr hp)

theorem told_new : Told start before i {} := ⟨by simp, by simp, by simp [Subscriber.envelopes]⟩

theorem told (hnumbered : start.Numbered) (hfresh : start.subscribers = []) (hno : Along step NoWrap start before)
    (hi : (run step start before).subscribers[i]? = some subscriber) : Told start before i subscriber := by
  induction before using List.reverseRecOn generalizing i subscriber with
  | nil => simp [hfresh] at hi
  | append_singleton before op ih =>
    obtain ⟨hbefore, -⟩ := Along.append.mp hno
    have hkeep : (run step start before).subscribers[i]? = some subscriber →
        Told start (before ++ [op]) i subscriber := fun h => (ih hbefore h).snoc op
    have hstep := hi
    rw [run_snoc] at hstep
    cases op with
    | connect =>
      dsimp only [step] at hstep
      rw [List.getElem?_append] at hstep
      split at hstep
      · exact hkeep hstep
      · obtain ⟨-, rfl⟩ := List.getElem?_eq_some_iff.mp hstep
        simp [List.getElem_singleton, told_new]
    | go_on j outcome =>
      dsimp only [step] at hstep
      cases hj : (run step start before).subscribers[j]? with
      | none => exact hkeep (by simpa only [hj] using hstep)
      | some _ =>
        simp only [hj, System.moved] at hstep
        by_cases hij : j = i
        · subst j
          exact (ih hbefore hj).go_on hnumbered hbefore hj outcome hi
        · exact hkeep (by rwa [List.getElem?_set_ne hij] at hstep)
    | read j _ =>
      dsimp only [step] at hstep
      split at hstep
      · rename_i _ _ _ hj
        by_cases hij : j = i
        · subst j
          rw [List.getElem?_set_self (List.getElem?_eq_some_iff.mp hj).1, Option.some.injEq] at hstep
          subst hstep
          exact ((ih hbefore hj).read).snoc _
        · exact hkeep (by rwa [List.getElem?_set_ne hij] at hstep)
      · exact hkeep hstep
    | _ => exact hkeep hstep

end

/-! ## What the Desktop accepts -/

section

variable {current : BridgeRuntimeSnapshot} {identity : BridgeSourceFrameIdentity}

/-- The frame is of the process, the instance and the session in the snapshot, which is not revoked, and of no
earlier generation. -/
structure Matches (snapshot : BridgeRuntimeSnapshot) (identity : BridgeSourceFrameIdentity) : Prop where
  process : snapshot.bridge_process_id = some identity.bridge_process_id
  instance_id : snapshot.bridge_instance_id = some identity.bridge_instance_id
  session : snapshot.session_id = some identity.session_id
  live : snapshot.source_generation_token.isSome
  generation : snapshot.source_generation ≤ identity.source_generation

theorem disposition_cases (current : BridgeRuntimeSnapshot) (identity : BridgeSourceFrameIdentity) :
    (∃ reason, bridge_source_identity_disposition current identity = .Reject reason) ∨
      (Matches current identity ∧
        (bridge_source_identity_disposition current identity = .Current ∧
            identity.source_generation = current.source_generation ∨
          bridge_source_identity_disposition current identity = .Rebind)) := by
  unfold bridge_source_identity_disposition
  split_ifs with hprocess hinstance hsession hlive htoken hstale hsame hmine
  all_goals first
    | exact .inl ⟨_, rfl⟩
    | skip
  all_goals
    refine .inr ⟨⟨not_not.mp hprocess, not_not.mp hinstance, not_not.mp hsession, ?_, by omega⟩, ?_⟩
    · simpa [Option.isSome_iff_ne_none] using hlive
  · exact .inl ⟨rfl, hsame⟩
  · exact .inr rfl

/-- What the Desktop kept of a snapshot while it was not replaced: who it listens to stays, a revoked one takes
nothing, and the generation does not go back. -/
structure Kept (old new : Desktop) (taken : List BridgeSourceFrameIdentity) : Prop where
  process : new.snapshot.bridge_process_id = old.snapshot.bridge_process_id
  instance_id : new.snapshot.bridge_instance_id = old.snapshot.bridge_instance_id
  session : new.snapshot.session_id = old.snapshot.session_id
  revoked : old.snapshot.source_generation_token = none → new.snapshot.source_generation_token = none
  generation : old.snapshot.source_generation ≤ new.snapshot.source_generation
  accepted : new.accepted = old.accepted ++ taken
  frames : ∀ identity ∈ taken, Matches old.snapshot identity ∧
    identity.source_generation ≤ new.snapshot.source_generation
  order : taken.Pairwise fun earlier later => earlier.source_generation ≤ later.source_generation

theorem Kept.refl (desktop : Desktop) : Kept desktop desktop [] := by
  constructor <;> simp

theorem Matches.of_kept {old new : Desktop} {taken : List BridgeSourceFrameIdentity} (h : Kept old new taken)
    (hmatch : Matches new.snapshot identity) : Matches old.snapshot identity := by
  refine ⟨?_, ?_, ?_, ?_, h.generation.trans hmatch.generation⟩
  · rw [← h.process, hmatch.process]
  · rw [← h.instance_id, hmatch.instance_id]
  · rw [← h.session, hmatch.session]
  · have hlive := hmatch.live
    rw [Option.isSome_iff_ne_none] at hlive ⊢
    exact fun hnone => hlive (h.revoked hnone)

theorem Kept.trans {a b c : Desktop} {first second : List BridgeSourceFrameIdentity} (hab : Kept a b first)
    (hbc : Kept b c second) : Kept a c (first ++ second) where
  process := hbc.process.trans hab.process
  instance_id := hbc.instance_id.trans hab.instance_id
  session := hbc.session.trans hab.session
  revoked h := hbc.revoked (hab.revoked h)
  generation := hab.generation.trans hbc.generation
  accepted := by rw [hbc.accepted, hab.accepted, List.append_assoc]
  frames identity hmem := by
    rcases List.mem_append.mp hmem with hmem | hmem
    · obtain ⟨hmatch, hle⟩ := hab.frames identity hmem
      exact ⟨hmatch, hle.trans hbc.generation⟩
    · obtain ⟨hmatch, hle⟩ := hbc.frames identity hmem
      exact ⟨hmatch.of_kept hab, hle⟩
  order := by
    refine List.pairwise_append.mpr ⟨hab.order, hbc.order, fun earlier he later hl => ?_⟩
    exact (hab.frames earlier he).2.trans (hbc.frames later hl).1.generation

theorem accept_kept (identity : BridgeSourceFrameIdentity) (is_pcm_frame : Bool) (desktop : Desktop) :
    ∃ taken, Kept desktop (accept_bridge_source_identity identity is_pcm_frame desktop) taken := by
  unfold accept_bridge_source_identity
  rcases disposition_cases desktop.snapshot identity with ⟨_, hreject⟩ | ⟨hmatch, hdisposition⟩
  · refine ⟨[], ?_⟩
    rw [hreject]
    constructor <;> simp [apply_bridge_source_identity_observation]
  · have hlive := Option.isSome_iff_ne_none.mp hmatch.live
    have hgeneration := hmatch.generation
    refine ⟨if is_pcm_frame then [identity] else [], ?_⟩
    rcases hdisposition with ⟨hcurrent, hsame⟩ | hrebind
    · rw [hcurrent]
      cases is_pcm_frame <;> constructor <;>
        simp [apply_bridge_source_identity_observation, delivered, rebound, hmatch, hsame]
    · rw [hrebind]
      cases is_pcm_frame <;> constructor <;>
        simp [apply_bridge_source_identity_observation, delivered, rebound, hmatch, hgeneration, hlive]

theorem read_kept (envelope : Envelope) (now : Nat) (desktop : Desktop) :
    ∃ taken, Kept desktop (desktop.read envelope now) taken := by
  unfold Desktop.read
  split
  · exact accept_kept _ true desktop
  · exact accept_kept _ false desktop
  · exact ⟨[], .refl desktop⟩

theorem revoke_kept (process : Nat) (instance_id session : String) (g : Nat) (desktop : Desktop) :
    Kept desktop (revoke_process_exclusion_source process instance_id session g desktop) [] := by
  unfold revoke_process_exclusion_source
  dsimp only
  split
  · constructor <;> simp
  · exact .refl desktop

def Step.replaces_snapshot : Step → Bool
  | .replace_snapshot _ => true
  | _ => false

theorem step_kept {s : System} {op : Step} (h : op.replaces_snapshot = false) :
    ∃ taken, Kept s.desktop (s.step op).desktop taken := by
  cases op with
  | replace_snapshot _ => simp [Step.replaces_snapshot] at h
  | go_on i _ =>
    dsimp only [step]
    split <;> exact ⟨[], .refl _⟩
  | read i now =>
    dsimp only [step]
    split
    · exact read_kept _ now s.desktop
    · exact ⟨[], .refl _⟩
  | read_foreign envelope now => exact read_kept envelope now s.desktop
  | revoke process instance_id session g => exact ⟨[], revoke_kept process instance_id session g s.desktop⟩
  | _ => exact ⟨[], .refl _⟩

theorem run_kept {s : System} {ops : List Step} (h : ∀ op ∈ ops, op.replaces_snapshot = false) :
    ∃ taken, Kept s.desktop (run step s ops).desktop taken := by
  induction ops generalizing s with
  | nil => exact ⟨[], .refl _⟩
  | cons op ops ih =>
    obtain ⟨first, hfirst⟩ := step_kept (s := s) (h op List.mem_cons_self)
    obtain ⟨second, hsecond⟩ := ih (s := s.step op) fun op hmem => h op (List.mem_cons_of_mem _ hmem)
    exact ⟨first ++ second, hfirst.trans hsecond⟩

end

/-! ## The handoff -/

/-- A Bridge to which nobody has subscribed, and a Desktop that has accepted nothing. -/
def System.start (bridge : BridgeState) (snapshot : BridgeRuntimeSnapshot) : System where
  bridge := bridge
  desktop := { snapshot := snapshot }

/-- A payload is labelled only with the generation that owned the subscription when it was taken from the channel;
one generation and one subscriber own it at a time; the end of another one changes nothing; and as long as no
snapshot is put in place of the Desktop's, it accepts only frames of its process, instance, session and unrevoked
incarnation, in the order of their generations. -/
theorem source_frames_follow_their_owner (bridge : BridgeState) (snapshot : BridgeRuntimeSnapshot) (ops : List Step)
    (hno : Along step NoWrap (.start bridge snapshot) ops) :
    let start := System.start bridge snapshot
    let s := run step start ops
    (∀ (i : Nat) (subscriber : Subscriber), s.subscribers[i]? = some subscriber → ∀ envelope ∈ subscriber.envelopes, envelope.is_frame →
      ∃ g, envelope.header.source_generation = some g ∧ Took start ops i g envelope.payload) ∧
    (∀ g g', source_subscription_is_owner s.bridge g → source_subscription_is_owner s.bridge g' → g = g') ∧
    (∀ (i j : Nat) (first second : Subscriber) g, s.subscribers[i]? = some first → s.subscribers[j]? = some second →
      first.process.generation = some g → second.process.generation = some g → i = j) ∧
    (∀ (i g : Nat) (subscriber : Subscriber) outcome, s.subscribers[i]? = some subscriber → subscriber.process = .ending g →
      ¬ source_subscription_is_owner s.bridge g →
      s.step (.go_on i outcome) = { s with
        subscribers := s.subscribers.set i { subscriber with process := .returned } }) ∧
    ∀ before between after, ops = before ++ between ++ after →
      (∀ op ∈ between, op.replaces_snapshot = false) →
      ∃ taken, Kept (run step start before).desktop (run step start (before ++ between)).desktop taken := by
  intro start s
  have hnumbered : start.Numbered := ⟨by simp [start, System.start], List.Pairwise.nil⟩
  refine ⟨fun i subscriber hi => (told hnumbered rfl hno hi).frames, fun g g' hg hg' => ?_,
    fun i j first second g hi hj => (run_numbered hno hnumbered).apart.index_eq hi hj, ?_, ?_⟩
  · exact Option.some.inj ((is_owner_iff.mp hg).symm.trans (is_owner_iff.mp hg'))
  · intro i g subscriber outcome hi hending hother
    simp [step, hi, hending, next, System.moved, end_source_subscription, hother]
  · rintro before between after rfl hkeeps
    rw [run_append]
    exact run_kept hkeeps

/-- A subscriber hands one frame on and is followed by another, which does the same. -/
def a_handoff : List Step :=
  [.init ⟨some "session", .VirtualDriver, .Unknown, none, none⟩, .connect, .go_on 0 {}, .go_on 0 {},
    .dispatch 2 .VirtualDriver [1, 2, 3, 4], .go_on 0 {}, .go_on 0 {}, .go_on 0 {}, .go_on 0 {}, .go_on 0 {},
    .go_on 0 {}, .read 0 5, .connect, .go_on 1 {}, .go_on 0 {}, .go_on 0 {}, .go_on 1 {},
    .dispatch 3 .VirtualDriver [5, 6], .go_on 1 {}, .go_on 1 {}, .go_on 1 {}, .go_on 1 {}, .go_on 1 {}, .go_on 1 {},
    .read 1 9]

def a_bridge : BridgeState := BridgeState.new 0 "bridge"

def its_snapshot : BridgeRuntimeSnapshot where
  bridge_process_id := some 0
  bridge_instance_id := some "bridge"
  session_id := some "session"
  source_generation := 1
  source_generation_token := some "bridge:session:1"

theorem both_subscribers_are_heard :
    (run step (.start a_bridge its_snapshot) a_handoff).desktop.accepted.map (·.source_generation) = [2, 3] ∧
      ∃ taken, Kept (System.start a_bridge its_snapshot).desktop
        (run step (.start a_bridge its_snapshot) a_handoff).desktop taken :=
  ⟨by decide +kernel, (source_frames_follow_their_owner a_bridge its_snapshot a_handoff (by decide +kernel)).2.2.2.2
    [] a_handoff [] (by simp) (by decide)⟩

end omni_translate.source_delivery
