-- Who owns the physical output. The epoch guards what an init writes to the state, not what
-- its rebind does when the worker comes to it: a superseded init that sends its rebind after
-- a newer one takes the output away from the owner that is installed.
import OmniTranslate.BridgeInit
import OmniTranslate.StreamOrder

namespace omni_translate.playback

open runs

variable {S : Type}

/-! ## The property -/

/-- After an owner is installed, only inits that are not older do anything, and every later owner has
a larger generation. -/
def OwnersAreKept (effects : List InitEffect) : Prop :=
  effects.Pairwise fun earlier later => ∀ init_epoch generation,
    earlier = .installed init_epoch generation →
      init_epoch ≤ later.init_epoch ∧ ∀ next_epoch next_generation,
        later = .installed next_epoch next_generation → generation < next_generation

/-- The generations of the owners that were installed, in order. -/
def owner_generations (effects : List InitEffect) : List Nat :=
  effects.filterMap fun
    | .installed _ generation => some generation
    | _ => none

/-- The condition on a step: an init sends its rebind before every newer init does, and the two
counters of an init that begins do not reach the end of `u64`. -/
def rebinds_in_order (s : BridgeHost S) : HostOp S → Prop
  | .begin_init _ _ => s.init_epoch + 1 < 2 ^ 64 ∧ s.playback_owner_reservation + 1 < 2 ^ 64
  | .send_rebind i => ∀ request ∈ s.requests.drop (i + 1), request.rebind_sent = false
  | _ => True

/-! ## The control channel -/

section

variable (b : Bridge S)

/-- Control commands are sent, and none of them is a rebind. -/
def SendsNoRebind (b b' : Bridge S) : Prop :=
  ∃ new, b'.controls = b.controls ++ new ∧ ∀ device_id, .RebindPhysicalOutput device_id ∉ new

theorem SendsNoRebind.of_same {b b' : Bridge S} (h : b'.controls = b.controls) :
    SendsNoRebind b b' :=
  ⟨[], by rw [h, List.append_nil], fun _ => List.not_mem_nil⟩

theorem SendsNoRebind.trans {b b' b'' : Bridge S} (h : SendsNoRebind b b')
    (h' : SendsNoRebind b' b'') : SendsNoRebind b b'' := by
  obtain ⟨new, heq, hnone⟩ := h
  obtain ⟨new', heq', hnone'⟩ := h'
  refine ⟨new ++ new', by rw [heq', heq, List.append_assoc], fun device_id hin => ?_⟩
  obtain hin | hin := List.mem_append.mp hin
  · exact hnone device_id hin
  · exact hnone' device_id hin

theorem stop_controls (reason : String) (error_code : Option String) :
    SendsNoRebind b (b.request_playback_stop reason error_code) :=
  ⟨_, rfl, fun _ hin => by cases List.mem_singleton.mp hin⟩

theorem init_controls (device_id : String) (reason : Option String) (reset : Bool) :
    SendsNoRebind b (b.handle_bridge_init device_id reason reset) := by
  unfold Bridge.handle_bridge_init
  dsimp only
  split
  · have hdevice : SendsNoRebind b
        { b with state := { b.state with physical_playback_device_id := device_id } } :=
      .of_same rfl
    exact hdevice.trans (stop_controls _ _ _)
  split
  · exact .of_same rfl
  · exact .of_same rfl

theorem reconfigure_controls (command : InitCommand) :
    SendsNoRebind b (BridgeHost.reconfigure b command) := by
  unfold BridgeHost.reconfigure
  split
  · have hdevice : SendsNoRebind b { b with state := { b.state with
        physical_playback_device_id := command.physical_playback_device_id } } := .of_same rfl
    exact hdevice.trans (stop_controls _ _ _)
  have hinit := init_controls b command.physical_playback_device_id
    command.reconfiguration_reason command.reset_physical_stream_ledger
  dsimp only
  split
  · exact hinit
  split
  · exact hinit
  · exact hinit.trans (stop_controls _ _ _)

theorem try_send_controls (command : PlaybackCommand S) :
    ((b.try_send command).getD b).controls = b.controls := by
  unfold Bridge.try_send
  split
  · rfl
  · rfl

theorem admit_controls (frame : TranslationFrame S) (cue_id : String) (chunk_index : Nat)
    (stream_state : TranslationStreamState) (now_ms : Nat) :
    SendsNoRebind b (b.admit_stream_frame frame cue_id chunk_index stream_state now_ms) := by
  unfold Bridge.admit_stream_frame
  split
  · exact .of_same rfl
  · exact .of_same rfl
  split
  · exact ⟨_, rfl, fun _ hin => by cases List.mem_singleton.mp hin⟩
  dsimp only
  unfold Bridge.try_send
  split
  · exact .of_same rfl
  · rename_i hsent
    split at hsent
    · cases hsent
      exact .of_same rfl
    · cases hsent

theorem frame_controls (frame : TranslationFrame S) (now_ms : Nat) :
    SendsNoRebind b (b.handle_physical_translation_frame frame now_ms) := by
  have hsame : SendsNoRebind b b := .of_same rfl
  unfold Bridge.handle_physical_translation_frame
  split
  · exact hsame
  split
  · unfold Bridge.handle_physical_translation_stream_frame
    split
    · split
      · exact hsame
      split
      · exact hsame
      split
      · exact hsame
      split
      · exact hsame
      · apply admit_controls
    · exact hsame
  · unfold Bridge.handle_complete_frame
    split
    · exact .of_same rfl
    dsimp only
    split
    · exact .of_same rfl
    · exact .of_same (try_send_controls _ _)

/-- The worker takes the first control command at its control places. -/
theorem apply_control_controls (e : Outside) (next : Place) :
    (b.apply_playback_control_commands e next).controls = b.controls.tail := by
  unfold Bridge.apply_playback_control_commands
  split
  · rename_i hnil
    rw [hnil]
    exact hnil
  · rename_i command controls hcons
    rw [hcons]
    cases command with
    | StopAll | RebindPhysicalOutput | TerminateTranslationStream => rfl

theorem work_controls (e : Outside) :
    (b.run_playback_worker e).controls =
      if b.worker.place = .control ∨ b.worker.place = .control_again then b.controls.tail
      else b.controls := by
  unfold Bridge.run_playback_worker
  cases hplace : b.worker.place with
  | control | control_again => exact apply_control_controls b e _
  | start_stream | finish_stream => rfl
  | finish_translation =>
    unfold Bridge.finish_completed_translation
    dsimp only
    split
    · rfl
    split
    · rfl
    · rfl
  | take =>
    dsimp only
    unfold Bridge.take_ready
    split
    · rfl
    · rfl
  | receive =>
    unfold Bridge.receive
    dsimp only
    split
    · rfl
    split
    · rfl
    · unfold Bridge.receive_stream_command
      split
      · rfl
      · rfl
    · rfl
    · rfl
  | check_complete =>
    dsimp only
    unfold Bridge.check_complete
    split
    · rfl
    · rfl
  | start_next =>
    unfold Bridge.start_next_translation
    dsimp only
    split
    · rfl
    split
    · rfl
    · rfl

end

/-! ## Inits in line -/

/-- The inits and the control channel: the rebinds stand in the order of their inits, and no command
of an older init follows one, or is left when one was applied. -/
structure Line (requests : List InitRequest)
    (channel : List (Option Nat × PlaybackControlCommand)) : Prop where
  epochs : ∀ (i : Nat) (request : InitRequest), requests[i]? = some request →
    request.init_epoch = i + 1
  senders : ∀ i command, (some i, command) ∈ channel → i < requests.length
  sent : ∀ i device_id, (some i, .RebindPhysicalOutput device_id) ∈ channel →
    ∃ request, requests[i]? = some request ∧ request.rebind_sent = true
  order : channel.Pairwise fun earlier later => ∀ i device_id j,
    earlier = (some i, .RebindPhysicalOutput device_id) → later.1 = some j → i ≤ j
  answered : ∀ (i : Nat) (request : InitRequest) (endpoint : String), requests[i]? = some request →
    request.rebind_result = some (.ok endpoint) →
      request.rebind_sent = true ∧ ∀ j command, (some j, command) ∈ channel → i ≤ j

variable {i : Nat} {request : InitRequest}

section

variable {requests : List InitRequest} {channel : List (Option Nat × PlaybackControlCommand)}

theorem getElem?_set_cases {i j : Nat} {request other : InitRequest}
    (h : (requests.set i request)[j]? = some other) :
    (j = i ∧ other = request) ∨ (j ≠ i ∧ requests[j]? = some other) := by
  by_cases hji : j = i
  · subst hji
    rw [List.getElem?_set_self'] at h
    left
    refine ⟨rfl, ?_⟩
    cases hget : requests[j]? with
    | none => simp [hget] at h
    | some _ =>
      rw [hget] at h
      exact (Option.some.inj h).symm
  · rw [List.getElem?_set_ne (Ne.symm hji)] at h
    exact Or.inr ⟨hji, h⟩

/-- An init changes what its thread holds: it has sent its rebind, or has an answer. -/
theorem Line.set (h : Line requests channel) {old request : InitRequest}
    (hold : requests[i]? = some old) (hepoch : request.init_epoch = old.init_epoch)
    (hsent : old.rebind_sent = true → request.rebind_sent = true)
    (hanswer : ∀ endpoint, request.rebind_result = some (.ok endpoint) →
      old.rebind_result = some (.ok endpoint) ∨
        (request.rebind_sent = true ∧ ∀ j command, (some j, command) ∈ channel → i ≤ j)) :
    Line (requests.set i request) channel where
  epochs j other hother := by
    obtain ⟨rfl, rfl⟩ | ⟨-, hget⟩ := getElem?_set_cases hother
    · rw [hepoch]
      exact h.epochs _ _ hold
    · exact h.epochs _ _ hget
  senders j command hin := by
    rw [List.length_set]
    exact h.senders j command hin
  sent j device_id hin := by
    obtain ⟨other, hget, hother⟩ := h.sent j device_id hin
    by_cases hji : j = i
    · subst hji
      have hlt : j < requests.length := (List.getElem?_eq_some_iff.mp hget).1
      refine ⟨request, List.getElem?_set_self hlt, hsent ?_⟩
      rw [hold] at hget
      cases hget
      exact hother
    · exact ⟨other, by rw [List.getElem?_set_ne (Ne.symm hji), hget], hother⟩
  order := h.order
  answered j other endpoint hother hok := by
    obtain ⟨rfl, rfl⟩ | ⟨-, hget⟩ := getElem?_set_cases hother
    · obtain hbefore | hnow := hanswer endpoint hok
      · obtain ⟨hs, hchannel⟩ := h.answered _ _ endpoint hold hbefore
        exact ⟨hsent hs, hchannel⟩
      · exact hnow
    · exact h.answered _ _ endpoint hget hok

/-- Commands of one sender that no rebind of a newer init stands before. -/
theorem Line.push (h : Line requests channel) {sender : Option Nat}
    (commands : List PlaybackControlCommand)
    (hsender : ∀ i, sender = some i → i < requests.length)
    (hsent : ∀ i device_id, sender = some i → .RebindPhysicalOutput device_id ∈ commands →
      ∃ request, requests[i]? = some request ∧ request.rebind_sent = true)
    (hnewest : ∀ i (j : Nat) request, sender = some i → requests[j]? = some request →
      request.rebind_sent = true → j ≤ i) :
    Line requests (channel ++ commands.map (sender, ·)) := by
  have hmem : ∀ x ∈ commands.map (sender, ·), x.1 = sender ∧ x.2 ∈ commands := by
    intro x hx
    obtain ⟨command, hc, rfl⟩ := List.mem_map.mp hx
    exact ⟨rfl, hc⟩
  refine ⟨h.epochs, ?_, ?_, ?_, ?_⟩
  · intro i command hin
    obtain hin | hin := List.mem_append.mp hin
    · exact h.senders i command hin
    · exact hsender i (hmem _ hin).1.symm
  · intro i device_id hin
    obtain hin | hin := List.mem_append.mp hin
    · exact h.sent i device_id hin
    · obtain ⟨hs, hc⟩ := hmem _ hin
      exact hsent i device_id hs.symm hc
  · refine List.pairwise_append.mpr ⟨h.order, ?_, ?_⟩
    · -- the new commands have one sender
      refine List.pairwise_of_forall_mem_list fun earlier he later hl i device_id j hi hj => ?_
      rw [(hmem later hl).1, ← (hmem earlier he).1, hi] at hj
      cases hj
      exact Nat.le_refl _
    · intro earlier he later hl i device_id j hi hj
      rw [hi] at he
      obtain ⟨request, hget, hs⟩ := h.sent i device_id he
      rw [(hmem later hl).1] at hj
      exact hnewest j i request hj hget hs
  · intro i request endpoint hget hok
    obtain ⟨hs, hchannel⟩ := h.answered i request endpoint hget hok
    refine ⟨hs, fun j command hin => ?_⟩
    obtain hin | hin := List.mem_append.mp hin
    · exact hchannel j command hin
    · exact hnewest j i request (hmem _ hin).1.symm hget hs

theorem Line.pop {x : Option Nat × PlaybackControlCommand} (h : Line requests (x :: channel)) :
    Line requests channel where
  epochs := h.epochs
  senders i command hin := h.senders i command (List.mem_cons_of_mem x hin)
  sent i device_id hin := h.sent i device_id (List.mem_cons_of_mem x hin)
  order := (List.pairwise_cons.mp h.order).2
  answered i request endpoint hget hok := by
    obtain ⟨hs, hchannel⟩ := h.answered i request endpoint hget hok
    exact ⟨hs, fun j command hin => hchannel j command (List.mem_cons_of_mem x hin)⟩

theorem Line.begin (h : Line requests channel) (hepoch : request.init_epoch = requests.length + 1)
    (hresult : request.rebind_result = none) : Line (requests ++ [request]) channel := by
  have hcases : ∀ (i : Nat) (other : InitRequest), (requests ++ [request])[i]? = some other →
      requests[i]? = some other ∨ (i = requests.length ∧ other = request) := by
    intro i other hother
    by_cases hlt : i < requests.length
    · rw [List.getElem?_append_left hlt] at hother
      exact Or.inl hother
    · rw [List.getElem?_append_right (by omega)] at hother
      obtain ⟨hzero, heq⟩ := List.getElem?_eq_some_iff.mp hother
      simp only [List.length_singleton] at hzero
      refine Or.inr ⟨by omega, ?_⟩
      rw [← heq, List.getElem_singleton]
  refine ⟨?_, ?_, ?_, h.order, ?_⟩
  · intro i other hother
    obtain hget | ⟨rfl, rfl⟩ := hcases i other hother
    · exact h.epochs i other hget
    · exact hepoch
  · intro i command hin
    rw [List.length_append]
    exact Nat.lt_add_right _ (h.senders i command hin)
  · intro i device_id hin
    obtain ⟨other, hget, hs⟩ := h.sent i device_id hin
    have hlt : i < requests.length := (List.getElem?_eq_some_iff.mp hget).1
    exact ⟨other, by rw [List.getElem?_append_left hlt, hget], hs⟩
  · intro i other endpoint hother hok
    obtain hget | ⟨rfl, rfl⟩ := hcases i other hother
    · exact h.answered i other endpoint hget hok
    · rw [hresult] at hok
      cases hok

end

/-! ## The invariant -/

/-- An init of this epoch has had its output opened. -/
def has_output (requests : List InitRequest) (init_epoch : Nat) : Prop :=
  ∃ (i : Nat) (request : InitRequest) (endpoint : String), requests[i]? = some request ∧
    init_epoch = i + 1 ∧ request.rebind_result = some (.ok endpoint)

structure Owned (s : BridgeHost S) : Prop where
  commands : s.channel.map (·.2) = s.bridge.controls
  epoch : s.init_epoch = s.requests.length
  line : Line s.requests s.channel
  reserved : s.playback_owner_generation ≤ s.playback_owner_reservation
  claims : ∀ request ∈ s.requests, request.next_owner_generation ≤ s.playback_owner_reservation
  newest : ∀ (i : Nat) (request : InitRequest), s.requests[i]? = some request →
    i + 1 = s.requests.length → request.stage ≠ .done →
      s.playback_owner_generation < request.next_owner_generation
  installed : ∀ init_epoch generation, .installed init_epoch generation ∈ s.effects →
    has_output s.requests init_epoch ∧ generation ≤ s.playback_owner_generation
  kept : OwnersAreKept s.effects
  latest : s.playback_owner_generation = (owner_generations s.effects).getLastD 0

theorem OwnersAreKept.push {effects : List InitEffect} (h : OwnersAreKept effects)
    {effect : InitEffect}
    (heffect : ∀ init_epoch generation, .installed init_epoch generation ∈ effects →
      init_epoch ≤ effect.init_epoch ∧ ∀ next_epoch next_generation,
        effect = .installed next_epoch next_generation → generation < next_generation) :
    OwnersAreKept (effects ++ [effect]) := by
  refine List.pairwise_append.mpr ⟨h, List.pairwise_singleton _ _, ?_⟩
  intro earlier he later hl init_epoch generation heq
  rw [List.mem_singleton.mp hl]
  rw [heq] at he
  exact heffect init_epoch generation he

section

variable {s : BridgeHost S}

theorem owned_new (device_id : String) : Owned (BridgeHost.new device_id : BridgeHost S) where
  commands := rfl
  epoch := rfl
  line := by
    refine ⟨fun i request hget => ?_, fun _ _ hin => ?_, fun _ _ hin => ?_, .nil,
      fun i request _ hget => ?_⟩
    · cases hget
    · cases hin
    · cases hin
    · cases hget
  reserved := Nat.le_refl 0
  claims _ hin := by cases hin
  newest _ _ hget := by cases hget
  installed _ _ hin := by cases hin
  kept := List.Pairwise.nil
  latest := rfl

variable {requests : List InitRequest} {init_epoch : Nat}

theorem has_output_le (h : has_output requests init_epoch) : init_epoch ≤ requests.length := by
  obtain ⟨_, _, _, hget, rfl, -⟩ := h
  exact (List.getElem?_eq_some_iff.mp hget).1

theorem has_output_sender {channel : List (Option Nat × PlaybackControlCommand)} (hline : Line requests channel)
    (h : has_output requests init_epoch) {j : Nat} {command : PlaybackControlCommand}
    (hin : (some j, command) ∈ channel) : init_epoch ≤ j + 1 := by
  obtain ⟨i, request, endpoint, hget, rfl, hok⟩ := h
  exact Nat.succ_le_succ ((hline.answered i request endpoint hget hok).2 j command hin)

theorem has_output.append (h : has_output requests init_epoch) (request : InitRequest) :
    has_output (requests ++ [request]) init_epoch := by
  obtain ⟨i, other, endpoint, hget, heq, hok⟩ := h
  have hlt : i < requests.length := (List.getElem?_eq_some_iff.mp hget).1
  exact ⟨i, other, endpoint, by rw [List.getElem?_append_left hlt, hget], heq, hok⟩

theorem has_output.set {init_epoch i : Nat} {old request : InitRequest} (h : has_output requests init_epoch)
    (hold : requests[i]? = some old) (hkeep : ∀ endpoint, old.rebind_result = some (.ok endpoint) →
      request.rebind_result = some (.ok endpoint)) : has_output (requests.set i request) init_epoch := by
  obtain ⟨j, other, endpoint, hget, heq, hok⟩ := h
  by_cases hji : j = i
  · subst hji
    rw [hold] at hget
    cases hget
    have hlt : j < requests.length := (List.getElem?_eq_some_iff.mp hold).1
    exact ⟨j, request, endpoint, List.getElem?_set_self hlt, heq, hkeep endpoint hok⟩
  · exact ⟨j, other, endpoint, by rw [List.getElem?_set_ne (Ne.symm hji), hget], heq, hok⟩

section

variable (h : Owned s)

include h

theorem Owned.set {old request : InitRequest} (hold : s.requests[i]? = some old)
    (hepoch : request.init_epoch = old.init_epoch)
    (hclaim : request.next_owner_generation = old.next_owner_generation)
    (hstage : request.stage ≠ .done → old.stage ≠ .done)
    (hsent : old.rebind_sent = true → request.rebind_sent = true)
    (hkeep : ∀ endpoint, old.rebind_result = some (.ok endpoint) →
      request.rebind_result = some (.ok endpoint))
    (hanswer : ∀ endpoint, request.rebind_result = some (.ok endpoint) →
      old.rebind_result = some (.ok endpoint) ∨
        (request.rebind_sent = true ∧ ∀ j command, (some j, command) ∈ s.channel → i ≤ j)) :
    Owned { s with requests := s.requests.set i request } where
  commands := h.commands
  epoch := h.epoch.trans (List.length_set ..).symm
  line := h.line.set hold hepoch hsent hanswer
  reserved := h.reserved
  claims other hin := by
    obtain ⟨j, hj, hget⟩ := List.mem_iff_getElem.mp hin
    obtain ⟨-, rfl⟩ | ⟨-, hother⟩ := getElem?_set_cases (List.getElem?_eq_some_iff.mpr ⟨hj, hget⟩)
    · rw [hclaim]
      exact h.claims old (List.mem_of_getElem? hold)
    · exact h.claims other (List.mem_of_getElem? hother)
  newest j other hget hlast hgoing := by
    rw [List.length_set] at hlast
    obtain ⟨rfl, rfl⟩ | ⟨-, hother⟩ := getElem?_set_cases hget
    · rw [hclaim]
      exact h.newest _ old hold hlast (hstage hgoing)
    · exact h.newest j other hother hlast hgoing
  installed init_epoch generation hin :=
    ⟨(h.installed init_epoch generation hin).1.set hold hkeep,
      (h.installed init_epoch generation hin).2⟩
  kept := h.kept
  latest := h.latest

variable {bridge : Bridge S}

theorem Owned.push {new : List PlaybackControlCommand}
    (hnew : bridge.controls = s.bridge.controls ++ new) {sender : Option Nat}
    (hsender : ∀ i, sender = some i → i < s.requests.length)
    (hsent : ∀ i device_id, sender = some i → .RebindPhysicalOutput device_id ∈ new →
      ∃ request, s.requests[i]? = some request ∧ request.rebind_sent = true)
    (hnewest : ∀ i (j : Nat) request, sender = some i → s.requests[j]? = some request →
      request.rebind_sent = true → j ≤ i) : Owned (s.with_bridge bridge sender) where
  commands := by
    change (s.channel ++ (bridge.controls.drop s.bridge.controls.length).map (sender, ·)).map _ =
      bridge.controls
    rw [List.map_append, h.commands, hnew, List.drop_left, List.map_map]
    simp
  epoch := h.epoch
  line := by
    change Line s.requests
      (s.channel ++ (bridge.controls.drop s.bridge.controls.length).map (sender, ·))
    rw [hnew, List.drop_left]
    exact h.line.push new hsender hsent hnewest
  reserved := h.reserved
  claims := h.claims
  newest := h.newest
  installed := h.installed
  kept := h.kept
  latest := h.latest

theorem Owned.push_other (hsends : SendsNoRebind s.bridge bridge) :
    Owned (s.with_bridge bridge none) := by
  obtain ⟨_, hnew, -⟩ := hsends
  refine h.push hnew ?_ ?_ ?_
  · intro i hi
    cases hi
  · intro i device_id hi
    cases hi
  · intro i j request hi
    cases hi

/-! ## The steps of an init -/

theorem Owned.begun (hsends : SendsNoRebind s.bridge bridge)
    (hepoch : request.init_epoch = s.requests.length + 1) (hresult : request.rebind_result = none)
    {reservation : Nat} (hle : s.playback_owner_reservation ≤ reservation)
    (hclaim : request.next_owner_generation ≤ reservation) (hnewest : request.stage ≠ .done →
      s.playback_owner_generation < request.next_owner_generation) (status : String) :
    Owned { s.with_bridge bridge (some s.requests.length) with
      init_epoch := s.requests.length + 1
      effects := s.effects ++ [.began (s.requests.length + 1)]
      physical_playback_status := status
      playback_owner_reservation := reservation
      requests := s.requests ++ [request] } := by
  obtain ⟨new, hnew, hrebind⟩ := hsends
  have hchannel : (s.with_bridge bridge (some s.requests.length)).channel =
      s.channel ++ new.map (some s.requests.length, ·) := by
    unfold BridgeHost.with_bridge
    rw [hnew, List.drop_left]
  refine ⟨?_, ?_, ?_, ?_, ?_, ?_, ?_, ?_, ?_⟩
  · change (s.with_bridge bridge (some s.requests.length)).channel.map (·.2) = bridge.controls
    rw [hchannel, List.map_append, h.commands, hnew, List.map_map]
    simp
  · rw [List.length_append, List.length_singleton]
  · rw [hchannel]
    refine (h.line.begin hepoch hresult).push new ?_ ?_ ?_
    · intro i hi
      cases hi
      simp
    · intro i device_id _ hin
      exact absurd hin (hrebind device_id)
    · intro i j other hi hget _
      cases hi
      have hlt := (List.getElem?_eq_some_iff.mp hget).1
      simp only [List.length_append, List.length_singleton] at hlt
      omega
  · exact h.reserved.trans hle
  · intro other hin
    obtain hin | hin := List.mem_append.mp hin
    · exact (h.claims other hin).trans hle
    · rw [List.mem_singleton.mp hin]
      exact hclaim
  · intro i other hget hlast hgoing
    simp only [List.length_append, List.length_singleton] at hlast
    have hi : i = s.requests.length := by omega
    subst hi
    rw [List.getElem?_concat_length] at hget
    cases hget
    exact hnewest hgoing
  · intro init_epoch generation hin
    obtain hin | hin := List.mem_append.mp hin
    · exact ⟨(h.installed init_epoch generation hin).1.append request,
        (h.installed init_epoch generation hin).2⟩
    · cases List.mem_singleton.mp hin
  · apply h.kept.push
    intro init_epoch generation hin
    refine ⟨?_, fun _ _ heq => by cases heq⟩
    exact (has_output_le (h.installed init_epoch generation hin).1).trans (Nat.le_succ _)
  · exact h.latest.trans (by simp [owner_generations, List.filterMap_append])

theorem Owned.begin_init (command : InitCommand) (unix_ms : Nat)
    (hepoch : s.init_epoch + 1 < 2 ^ 64)
    (hreservation : s.playback_owner_reservation + 1 < 2 ^ 64) :
    Owned (s.begin_init command unix_ms) := by
  have hnext : (s.init_epoch + 1) % 2 ^ 64 = s.requests.length + 1 := by
    rw [Nat.mod_eq_of_lt hepoch, h.epoch]
  have hsends := reconfigure_controls s.bridge command
  have hlt : s.playback_owner_reservation <
      s.next_owner_generation command.previous_playback_owner_generation unix_ms := by
    unfold BridgeHost.next_owner_generation
    have hsat : saturating_add s.playback_owner_reservation 1 =
        s.playback_owner_reservation + 1 := by
      unfold saturating_add
      omega
    rw [hsat]
    exact Nat.lt_of_succ_le (Nat.le_max_right _ _)
  unfold BridgeHost.begin_init
  rw [hnext]
  split
  · exact h.begun hsends rfl rfl (Nat.le_refl _) (Nat.zero_le _) (fun hd => absurd rfl hd)
      s.physical_playback_status
  split
  · refine h.begun hsends rfl rfl (Nat.le_of_lt hlt) (Nat.le_refl _) (fun _ => ?_) "rebinding"
    exact Nat.lt_of_le_of_lt h.reserved hlt
  · exact h.begun hsends rfl rfl (Nat.le_refl _) (Nat.zero_le _) (fun hd => absurd rfl hd)
      "uninitialized"

theorem Owned.send_rebind (i : Nat)
    (hfirst : ∀ request ∈ s.requests.drop (i + 1), request.rebind_sent = false) :
    Owned (s.send_rebind i) := by
  unfold BridgeHost.send_rebind
  split
  · exact h
  rename_i request hget
  split
  · exact h
  rename_i hstage
  have hlt : i < s.requests.length := (List.getElem?_eq_some_iff.mp hget).1
  have hset : Owned { s with
      requests := s.requests.set i { request with stage := .waiting, rebind_sent := true } } :=
    h.set hget rfl rfl (fun _ hd => hstage (by rw [hd]; decide)) (fun _ => rfl) (fun _ hok => hok)
      (fun _ hok => Or.inl hok)
  have hnew : (step s.bridge (.rebind request.requested_endpoint)).controls =
      s.bridge.controls ++ [.RebindPhysicalOutput request.requested_endpoint] := rfl
  refine hset.push hnew ?_ ?_ ?_
  · intro j hj
    cases hj
    rw [List.length_set]
    exact hlt
  · intro j device_id hj _
    cases hj
    exact ⟨_, List.getElem?_set_self hlt, rfl⟩
  · intro j k other hj hother hsent
    cases hj
    by_contra hnot
    obtain ⟨_, -⟩ | ⟨-, hother⟩ := getElem?_set_cases hother
    · omega
    · have hin : other ∈ s.requests.drop (i + 1) := by
        refine List.mem_iff_getElem?.mpr ⟨k - (i + 1), ?_⟩
        rw [List.getElem?_drop, ← hother]
        congr 1
        omega
      rw [hfirst other hin] at hsent
      cases hsent

theorem Owned.rebind_timeout (i : Nat) : Owned (s.rebind_timeout i) := by
  unfold BridgeHost.rebind_timeout
  split
  · exact h
  rename_i _ hget
  split
  · rename_i hwaits
    have hnone := Option.isNone_iff_eq_none.mp hwaits.2
    refine h.set hget rfl rfl id id (fun endpoint hok => ?_) (fun endpoint hok => ?_)
    · rw [hnone] at hok
      cases hok
    · cases hok
  · exact h

theorem Owned.install {endpoint : String} (hget : s.requests[i]? = some request)
    (hdone : request.stage = .done) (hok : request.rebind_result = some (.ok endpoint))
    (hepoch : s.init_epoch = request.init_epoch)
    (hlarger : s.playback_owner_generation < request.next_owner_generation) :
    Owned { s with
      physical_playback_status := "ready"
      playback_owner_generation := request.next_owner_generation
      effects := s.effects ++ [.installed request.init_epoch request.next_owner_generation] } := by
  have hlast : i + 1 = s.requests.length := by
    rw [← h.epoch, hepoch, h.line.epochs i request hget]
  refine ⟨h.commands, h.epoch, h.line, ?_, h.claims, ?_, ?_, ?_, ?_⟩
  · exact h.claims request (List.mem_of_getElem? hget)
  · intro j other hother hj hgoing
    have hji : j = i := by
      change j + 1 = s.requests.length at hj
      omega
    subst hji
    rw [hget] at hother
    cases hother
    exact absurd hdone hgoing
  · intro init_epoch generation hin
    obtain hin | hin := List.mem_append.mp hin
    · obtain ⟨houtput, hle⟩ := h.installed init_epoch generation hin
      exact ⟨houtput, Nat.le_of_lt (Nat.lt_of_le_of_lt hle hlarger)⟩
    · cases List.mem_singleton.mp hin
      exact ⟨⟨i, request, endpoint, hget, h.line.epochs i request hget, hok⟩, Nat.le_refl _⟩
  · apply h.kept.push
    intro init_epoch generation hin
    obtain ⟨houtput, hle⟩ := h.installed init_epoch generation hin
    refine ⟨?_, fun _ _ heq => ?_⟩
    · have hbound := has_output_le houtput
      rw [← h.epoch, hepoch] at hbound
      exact hbound
    · cases heq
      exact Nat.lt_of_le_of_lt hle hlarger
  · simp [owner_generations, List.filterMap_append]

theorem Owned.finish_init (i : Nat) : Owned (s.finish_init i) := by
  unfold BridgeHost.finish_init
  split
  · exact h
  rename_i request hget
  split
  · exact h
  rename_i hstage
  split
  · exact h
  rename_i _ hresult
  dsimp only
  have hwaiting : request.stage ≠ .done := by
    rw [Decidable.not_not.mp hstage]
    decide
  have hset : Owned { s with requests := s.requests.set i { request with stage := .done } } :=
    h.set hget rfl rfl (fun hd => absurd rfl hd) id (fun _ hok => hok) (fun _ hok => Or.inl hok)
  have hlt : i < s.requests.length := (List.getElem?_eq_some_iff.mp hget).1
  split
  · exact hset
  rename_i hepoch
  have hepoch : s.init_epoch = request.init_epoch := Decidable.not_not.mp hepoch
  split
  · apply hset.install (List.getElem?_set_self hlt) rfl hresult hepoch
    apply h.newest i request hget _ hwaiting
    rw [← h.epoch, hepoch, h.line.epochs i request hget]
  · exact ⟨hset.commands, hset.epoch, hset.line, hset.reserved, hset.claims, hset.newest,
      hset.installed, hset.kept, hset.latest⟩

/-! ## The steps of the other threads -/

/-- The worker answers an init whose rebind it has applied: what is left in the channel comes from
inits that are not older. -/
theorem Owned.answer (result : Except String String)
    (hsent : ∀ request, s.requests[i]? = some request → request.rebind_sent = true)
    (hrest : ∀ j command, (some j, command) ∈ s.channel → i ≤ j) : Owned (s.answer i result) := by
  unfold BridgeHost.answer
  split
  · exact h
  rename_i request hget
  split
  · exact h
  · rename_i hnone
    have hnone : request.rebind_result = none := by simpa using hnone
    refine h.set hget rfl rfl id id (fun _ hok => ?_) (fun _ _ => Or.inr ?_)
    · rw [hnone] at hok
      cases hok
    · exact ⟨hsent request hget, hrest⟩

/-- The worker takes a command that an init has sent. -/
theorem Owned.applied (command : PlaybackControlCommand) (hget : s.requests[i]? = some request)
    (holder : ∀ init_epoch, has_output s.requests init_epoch → init_epoch ≤ i + 1) :
    Owned { s with effects := s.effects ++ [.applied request.init_epoch command] } := by
  have hepoch := h.line.epochs i request hget
  refine ⟨h.commands, h.epoch, h.line, h.reserved, h.claims, h.newest, ?_, ?_, ?_⟩
  · intro init_epoch generation hin
    obtain hin | hin := List.mem_append.mp hin
    · exact h.installed init_epoch generation hin
    · cases List.mem_singleton.mp hin
  · apply h.kept.push
    intro init_epoch generation hin
    refine ⟨?_, fun _ _ heq => by cases heq⟩
    rw [hepoch]
    exact holder init_epoch (h.installed init_epoch generation hin).1
  · exact h.latest.trans (by simp [owner_generations, List.filterMap_append])

/-- The Bridge has taken the first command from the channel. -/
theorem Owned.pop {x : Option Nat × PlaybackControlCommand}
    {channel : List (Option Nat × PlaybackControlCommand)} (hchannel : s.channel = x :: channel)
    (hcontrols : bridge.controls = s.bridge.controls.tail) : Owned { s with bridge, channel } := by
  have hcommands := h.commands
  have hline := h.line
  rw [hchannel] at hcommands hline
  refine ⟨?_, h.epoch, hline.pop, h.reserved, h.claims, h.newest, h.installed, h.kept, h.latest⟩
  rw [hcontrols, ← hcommands]
  rfl

theorem Owned.apply_control {sender : Option Nat} {command : PlaybackControlCommand}
    {channel : List (Option Nat × PlaybackControlCommand)}
    (hchannel : s.channel = (sender, command) :: channel)
    (hcontrols : bridge.controls = s.bridge.controls.tail) (e : Outside) :
    Owned (BridgeHost.apply_control { s with bridge, channel } sender command e) := by
  have hpop := h.pop hchannel hcontrols
  unfold BridgeHost.apply_control
  split
  · exact hpop
  rename_i i
  have hhead : (some i, command) ∈ s.channel := by
    rw [hchannel]
    exact List.mem_cons_self
  have hlt := h.line.senders i command hhead
  have hget : s.requests[i]? = some s.requests[i] := List.getElem?_eq_getElem hlt
  rw [hget]
  have happlied := hpop.applied command hget
    fun _ houtput => has_output_sender h.line houtput hhead
  split
  · rename_i device_id
    have hline := h.line
    rw [hchannel] at hline
    refine happlied.answer _ (fun _ hrequest => ?_) (fun j later hin => ?_)
    · obtain ⟨_, hother, hsent⟩ := h.line.sent i device_id hhead
      rw [hother] at hrequest
      cases hrequest
      exact hsent
    · exact (List.pairwise_cons.mp hline.order).1 (some j, later) hin i device_id j rfl rfl
  · exact happlied

theorem Owned.work (e : Outside) : Owned (s.work e) := by
  have hcontrols := work_controls s.bridge e
  have hsame : (s.bridge.run_playback_worker e).controls = s.bridge.controls →
      Owned { s with bridge := s.bridge.run_playback_worker e } := fun heq =>
    ⟨h.commands.trans heq.symm, h.epoch, h.line, h.reserved, h.claims, h.newest, h.installed,
      h.kept, h.latest⟩
  unfold BridgeHost.work
  split
  · rename_i hplace
    rw [if_pos hplace] at hcontrols
    split
    · rename_i hempty
      apply hsame
      have hnone := h.commands
      rw [hempty] at hnone
      rw [hcontrols, ← hnone]
      rfl
    · rename_i _ _ _ hchannel
      exact h.apply_control hchannel hcontrols e
  · rename_i hplace
    rw [if_neg hplace] at hcontrols
    exact hsame hcontrols

theorem Owned.other (op : Op S) : Owned (s.other op) := by
  cases op with
  | work e => exact h.work e
  | bridge_init | rebind => exact h
  | translation_frame frame now_ms => exact h.push_other (frame_controls s.bridge frame now_ms)
  | source_frame | flush_source => exact h.push_other (.of_same (try_send_controls s.bridge _))
  | request_playback_stop reason error_code =>
    exact h.push_other (stop_controls s.bridge reason error_code)
  | bridge_shutdown =>
    have hreset : SendsNoRebind s.bridge s.bridge.reset_streams := .of_same rfl
    exact h.push_other (hreset.trans (stop_controls s.bridge.reset_streams _ _))

theorem Owned.step (op : HostOp S) (hok : rebinds_in_order s op) : Owned (HostOp.step s op) := by
  cases op with
  | begin_init command unix_ms => exact h.begin_init command unix_ms hok.1 hok.2
  | send_rebind i => exact h.send_rebind i hok
  | rebind_timeout i => exact h.rebind_timeout i
  | finish_init i => exact h.finish_init i
  | other op => exact h.other op

end

end

/-! ## Main results -/

/-- In a run in which the rebinds are sent in the order of their inits, the generation of the owner
grows with every owner, and an older init does nothing to one that is installed. -/
theorem installed_owners_are_kept (device_id : String) (ops : List (HostOp S))
    (hops : Along HostOp.step rebinds_in_order (BridgeHost.new device_id) ops) :
    OwnersAreKept (run HostOp.step (BridgeHost.new device_id) ops).effects ∧
      (run HostOp.step (BridgeHost.new device_id) ops).playback_owner_generation =
        (owner_generations (run HostOp.step (BridgeHost.new device_id) ops).effects).getLastD 0 := by
  have howned := hops.keeps Owned (fun _ op h hok => h.step op hok) (owned_new device_id)
  exact ⟨howned.kept, howned.latest⟩

instance (s : BridgeHost S) : (op : HostOp S) → Decidable (rebinds_in_order s op)
  | .begin_init _ _ => inferInstanceAs (Decidable (_ ∧ _))
  | .send_rebind _ => inferInstanceAs (Decidable (∀ _ ∈ _, _))
  | .rebind_timeout _ => isTrue trivial
  | .finish_init _ => isTrue trivial
  | .other _ => isTrue trivial

def an_init (device_id : String) : HostOp Nat :=
  .begin_init ⟨device_id, 0, true, some "session-changed", true, none⟩ 1000

/-- Two inits begin. The second one installs its owner and a cue is accepted; then the first one
sends its rebind. -/
def a_late_rebind : List (HostOp Nat) :=
  [an_init "headphones", an_init "speakers", .send_rebind 1, .other (.work ⟨true, none, 0, 5000⟩),
    .finish_init 1, .other (a_complete_frame "cue" 5000 5000), .send_rebind 0,
    .other (.work ⟨true, none, 0, 5000⟩)]

theorem a_superseded_init_takes_the_output :
    ¬ OwnersAreKept (run HostOp.step (BridgeHost.new "speakers") a_late_rebind).effects ∧
      (run HostOp.step (BridgeHost.new "speakers") a_late_rebind).bridge.worker.output.map
        (·.device_id) = some "headphones" ∧
      (run HostOp.step (BridgeHost.new "speakers") a_late_rebind).bridge.translation_queue.pending.map
        (·.cue_id) = [] := by
  refine ⟨fun h => ?_, by decide +kernel, by decide +kernel⟩
  have heffects : (run HostOp.step (BridgeHost.new "speakers") a_late_rebind).effects =
      [.began 1, .began 2, .applied 2 (.RebindPhysicalOutput "speakers"), .installed 2 1001,
        .applied 1 (.RebindPhysicalOutput "headphones")] := by
    rfl
  rw [heffects] at h
  unfold OwnersAreKept at h
  simp [InitEffect.init_epoch] at h

/-- The same inits, with the rebinds in order. -/
def two_inits_in_order : List (HostOp Nat) :=
  [an_init "headphones", an_init "speakers", .send_rebind 0, .send_rebind 1,
    .other (.work ⟨true, none, 0, 5000⟩), .other (.work ⟨true, none, 0, 5000⟩), .finish_init 1,
    .finish_init 0, an_init "headphones", .send_rebind 2, .other (.work ⟨true, none, 0, 5000⟩),
    .finish_init 2]

theorem two_inits_keep_their_owners :
    OwnersAreKept (run HostOp.step (BridgeHost.new "speakers") two_inits_in_order).effects ∧
      owner_generations (run HostOp.step (BridgeHost.new "speakers") two_inits_in_order).effects =
        [1001, 1002] :=
  ⟨(installed_owners_are_kept "speakers" two_inits_in_order (by decide +kernel)).1,
    by decide +kernel⟩

end omni_translate.playback
