-- The virtual audio driver in every interleaving of its sections: no request leaves its
-- buffers, the counters account for every byte, and the microphone plays what the owner of
-- its session wrote under the generation that is current.
import OmniTranslate.OmniBridgeRingLaws

namespace omni_translate.omni_bridge_ring

open rings

variable {F : Type}

/-! ## What a state keeps -/

structure Sound (s : Driver F) : Prop where
  bridge : s.bridge_ring.Sound OMNI_BRIDGE_RING_CAPACITY
  bridge_limit : s.bridge_ring.buffered ≤ OMNI_BRIDGE_MAX_BUFFERED_BYTES
  captured : s.bridge_captured_bytes =
    s.bridge_delivered_bytes + s.bridge_dropped_bytes + s.bridge_ring.buffered
  loopback : s.loopback_ring.Sound OMNI_LOOPBACK_RING_CAPACITY
  mic : s.virtual_mic_ring.Sound OMNI_VIRTUAL_MIC_RING_CAPACITY
  mic_limit : s.virtual_mic_ring.buffered ≤ OMNI_VIRTUAL_MIC_MAX_BUFFERED_BYTES
  written : s.virtual_mic_written_bytes = s.virtual_mic_consumed_bytes +
    s.virtual_mic_dropped_bytes + s.virtual_mic_ring.buffered
  session : s.virtual_mic_session_active = true ↔ s.virtual_mic_session_owner ≠ none

theorem allocated_sound {capacity : Nat} (h : 0 < capacity) : (allocated capacity).Sound capacity where
  memory := List.length_replicate
  read := h
  buffered := Nat.zero_le _
  write := by simp [allocated]

theorem sound_at_first : Sound <| omni_bridge_initialize F where
  bridge := allocated_sound (by decide)
  bridge_limit := Nat.zero_le _
  captured := rfl
  loopback := allocated_sound (by decide)
  mic := allocated_sound (by decide)
  mic_limit := Nat.zero_le _
  written := rfl
  session := ⟨fun h => (Bool.false_ne_true h).elim, fun h => absurd rfl h⟩

/-! ## What enters the microphone -/

/-- The generation and the payload of a request that is a well-formed write. -/
def payload_of (irp : DeviceIoControl F) : Option (Nat × List UInt8) :=
  let header := write_header_of (irp.input.take SIZEOF_WRITE_HEADER)
  if irp.io_control_code = IOCTL_OMNI_BRIDGE_WRITE_MIC_PCM ∧
      SIZEOF_WRITE_HEADER ≤ irp.input_buffer_length ∧ irp.system_buffer ≠ none ∧
      write_is_invalid header irp.input_buffer_length = false then
    some (header.generation, (irp.input.drop header.header_bytes).take header.payload_bytes)
  else none

section

variable [DecidableEq F]

/-- A well-formed write of the owner of the active session, with the generation of the session. -/
def takes (s : Driver F) : Event F → Option (Nat × List UInt8)
  | .device_control irp => (payload_of irp).filter fun write =>
    s.virtual_mic_session_active && s.virtual_mic_session_owner = some irp.file_object &&
      s.virtual_mic_generation = write.1
  | _ => none

/-- The bytes that may enter the ring of the microphone. -/
def entering (s : Driver F) (event : Event F) : List UInt8 := ((takes s event).map (·.2)).getD []

end

/-- What a section does to the state. -/
structure Follows (s s' : Driver F) (entering : List UInt8) : Prop where
  sound : Sound s'
  generation : s'.virtual_mic_generation = s.virtual_mic_generation ∨
    s'.virtual_mic_ring.contents = []
  contents : s'.virtual_mic_ring.contents <:+ s.virtual_mic_ring.contents ++ entering

/-- A section that leaves the ring of the microphone alone. -/
theorem Follows.of_same {s s' : Driver F} (hsound : Sound s')
    (hgeneration : s'.virtual_mic_generation = s.virtual_mic_generation)
    (hring : s'.virtual_mic_ring = s.virtual_mic_ring) : Follows s s' [] :=
  ⟨hsound, Or.inl hgeneration, by rw [hring, List.append_nil]⟩

/-- A section that empties the ring of the microphone. -/
theorem Follows.of_empty {s s' : Driver F} (hsound : Sound s')
    (hempty : s'.virtual_mic_ring.contents = []) : Follows s s' [] :=
  ⟨hsound, Or.inr hempty, by rw [hempty]; exact List.nil_suffix⟩

/-- What a request copies out. -/
structure Bounded (irp : DeviceIoControl F) (completion : Completion) : Prop where
  information : completion.information ≤ irp.output_buffer_length
  length : completion.buffer.length = irp.buffer.length
  beyond : completion.buffer.drop irp.output_buffer_length =
    irp.buffer.drop irp.output_buffer_length

theorem complete_bounded (irp : DeviceIoControl F) (status : Status) :
    Bounded irp (irp.complete status 0) :=
  ⟨Nat.zero_le _, rfl, rfl⟩

variable {irp : DeviceIoControl F}

theorem DeviceIoControl.input_length (h : irp.system_buffer ≠ none) :
    irp.input.length = irp.input_buffer_length := by
  obtain ⟨buffer, hbuffer⟩ := Option.ne_none_iff_exists'.mp h
  have := (irp.covers buffer hbuffer).1
  simp [input, DeviceIoControl.buffer, hbuffer, this]

theorem DeviceIoControl.output_length (h : irp.system_buffer ≠ none) :
    irp.output.length = irp.output_buffer_length := by
  obtain ⟨buffer, hbuffer⟩ := Option.ne_none_iff_exists'.mp h
  have := (irp.covers buffer hbuffer).2
  simp [output, DeviceIoControl.buffer, hbuffer, this]

theorem complete_output_bounded (h : irp.system_buffer ≠ none) {output : List UInt8}
    (hlength : output.length = irp.output_buffer_length) {information : Nat}
    (hinformation : information ≤ irp.output_buffer_length) :
    Bounded irp (irp.complete_output output information) := by
  obtain ⟨buffer, hbuffer⟩ := Option.ne_none_iff_exists'.mp h
  have hcovers := (irp.covers buffer hbuffer).2
  refine ⟨hinformation, ?_, ?_⟩
  · simp only [DeviceIoControl.complete_output, List.length_append, List.length_drop, hlength,
      DeviceIoControl.buffer, hbuffer, Option.getD_some]
    omega
  · simp only [DeviceIoControl.complete_output]
    rw [← hlength, List.drop_left]

/-- What a request does: to the state, to its buffer, and when it is rejected. -/
structure Served (s : Driver F) (irp : DeviceIoControl F) (entering : List UInt8) (s' : Driver F)
    (completion : Completion) : Prop where
  follows : Follows s s' entering
  bounded : Bounded irp completion
  rejected : completion.status ≠ .success → s' = s ∨ s' = s.reject

theorem Sound.reject {s : Driver F} (h : Sound s) : Sound s.reject :=
  ⟨h.bridge, h.bridge_limit, h.captured, h.loopback, h.mic, h.mic_limit, h.written, h.session⟩

theorem Served.unchanged {s : Driver F} (h : Sound s) (irp : DeviceIoControl F) (status : Status) :
    Served s irp [] s (irp.complete status 0) :=
  ⟨.of_same h rfl rfl, complete_bounded irp status, fun _ => Or.inl rfl⟩

theorem Served.reject {s : Driver F} (h : Sound s) (irp : DeviceIoControl F) (status : Status) :
    Served s irp [] s.reject (irp.complete status 0) :=
  ⟨.of_same h.reject rfl rfl, complete_bounded irp status, fun _ => Or.inr rfl⟩

/-! ## The requests -/

section

variable {s : Driver F}

theorem read_pcm_served (h : Sound s) (irp : DeviceIoControl F) :
    ∃ s' completion, s.read_pcm irp = some (s', completion) ∧ Served s irp [] s' completion := by
  unfold Driver.read_pcm
  split
  · exact ⟨_, _, rfl, .unchanged h irp _⟩
  · rename_i hbuffer
    push Not at hbuffer
    have hlength := DeviceIoControl.output_length hbuffer.2
    obtain ⟨_, _, hread, hsound, hcontents, houtput⟩ :=
      read_ring_eq (by decide) h.bridge hlength.ge
    have hleft := congrArg List.length hcontents
    rw [hsound.length_contents, List.length_drop, h.bridge.length_contents] at hleft
    unfold Driver.read_ring_locked
    rw [hread]
    refine ⟨_, _, rfl, .of_same ⟨hsound, ?_, ?_, h.loopback, h.mic, h.mic_limit, h.written,
      h.session⟩ rfl rfl, complete_output_bounded hbuffer.2 ?_ (Nat.min_le_left _ _),
      fun hstatus => absurd rfl hstatus⟩
    · have := h.bridge_limit
      dsimp only
      omega
    · have := h.captured
      dsimp only
      omega
    · rw [houtput, List.length_append, List.length_take, List.length_drop, h.bridge.length_contents,
        hlength]
      omega

theorem status_length (status : OmniBridgeStatus) : status.bytes.length = SIZEOF_STATUS := by
  simp [OmniBridgeStatus.bytes, bytes_of, SIZEOF_STATUS]

theorem query_status_served (h : Sound s) (irp : DeviceIoControl F) :
    ∃ s' completion, s.query_status irp = some (s', completion) ∧ Served s irp [] s' completion := by
  unfold Driver.query_status
  split
  · exact ⟨_, _, rfl, .unchanged h irp _⟩
  · rename_i hbuffer
    push Not at hbuffer
    have hlength := DeviceIoControl.output_length hbuffer.2
    obtain ⟨output, hwrite⟩ : ∃ output, write_at irp.output 0 s.status.bytes = some output :=
      ⟨_, write_at_eq_some (by rw [status_length, hlength, Nat.zero_add]; exact hbuffer.1)⟩
    rw [hwrite]
    exact ⟨_, _, rfl, .of_same h rfl rfl, complete_output_bounded hbuffer.2
      ((write_at_length hwrite).trans hlength) hbuffer.1, fun hstatus => absurd rfl hstatus⟩

theorem reset_served (h : Sound s) (irp : DeviceIoControl F) :
    Served s irp [] s.reset (irp.complete .success 0) :=
  ⟨.of_same ⟨Ring.emptied_sound h.bridge.memory (by decide), Nat.zero_le _, rfl,
    Ring.emptied_sound h.loopback.memory (by decide), h.mic, h.mic_limit, h.written, h.session⟩
    rfl rfl, complete_bounded irp _, fun hstatus => absurd rfl hstatus⟩

theorem Sound.enter_generation (h : Sound s) (generation : Nat) :
    Sound (s.enter_generation generation) := by
  unfold Driver.enter_generation
  split
  · exact ⟨h.bridge, h.bridge_limit, h.captured, h.loopback,
      Ring.emptied_sound h.mic.memory (by decide), Nat.zero_le _, rfl, h.session⟩
  · exact h

theorem enter_generation_follows (h : Sound s) (generation : Nat) :
    Follows s (s.enter_generation generation) [] := by
  have hsound := h.enter_generation generation
  unfold Driver.enter_generation at hsound ⊢
  split
  · rename_i hother
    rw [if_pos hother] at hsound
    exact .of_empty hsound Ring.contents_emptied
  · exact .of_same h rfl rfl

theorem read_input (hbuffer : irp.system_buffer ≠ none) {count : Nat}
    (hcount : count ≤ irp.input_buffer_length) :
    read_at irp.input 0 count = some (irp.input.take count) := by
  rw [read_at_eq_some (by rw [DeviceIoControl.input_length hbuffer, Nat.zero_add]; exact hcount),
    List.drop_zero]

variable [DecidableEq F]

theorem begin_mic_session_served (h : Sound s) (irp : DeviceIoControl F) :
    ∃ s' completion, s.begin_mic_session irp = some (s', completion) ∧
      Served s irp [] s' completion := by
  unfold Driver.begin_mic_session
  split
  · exact ⟨_, _, rfl, .unchanged h irp _⟩
  rename_i hbuffer
  push Not at hbuffer
  rw [read_input hbuffer.2 hbuffer.1]
  simp only [Option.bind_eq_bind, Option.bind_some]
  split
  · exact ⟨_, _, rfl, .unchanged h irp _⟩
  split
  · exact ⟨_, _, rfl, .reject h irp _⟩
  have hfollows := enter_generation_follows h
    (session_of (irp.input.take SIZEOF_SESSION)).generation
  have hsound := hfollows.sound
  exact ⟨_, _, rfl, ⟨⟨hsound.bridge, hsound.bridge_limit, hsound.captured, hsound.loopback,
    hsound.mic, hsound.mic_limit, hsound.written, by simp⟩, hfollows.generation,
    hfollows.contents⟩, complete_bounded irp _, fun hstatus => absurd rfl hstatus⟩

/-- A write that is not well-formed, or not of the session, brings nothing. -/
theorem entering_write (hcode : irp.io_control_code = IOCTL_OMNI_BRIDGE_WRITE_MIC_PCM)
    {header : OmniVirtualMicWriteHeader}
    (hheader : header = write_header_of (irp.input.take SIZEOF_WRITE_HEADER)) :
    entering s (.device_control irp) =
      if SIZEOF_WRITE_HEADER ≤ irp.input_buffer_length ∧ irp.system_buffer ≠ none ∧
          write_is_invalid header irp.input_buffer_length = false ∧
          s.virtual_mic_session_active = true ∧ s.virtual_mic_session_owner = some irp.file_object ∧
          s.virtual_mic_generation = header.generation then
        (irp.input.drop header.header_bytes).take header.payload_bytes
      else [] := by
  subst hheader
  unfold entering takes payload_of
  dsimp only
  by_cases hformed : SIZEOF_WRITE_HEADER ≤ irp.input_buffer_length ∧ irp.system_buffer ≠ none ∧
      write_is_invalid (write_header_of (irp.input.take SIZEOF_WRITE_HEADER))
        irp.input_buffer_length = false
  · rw [if_pos ⟨hcode, hformed⟩]
    simp only [Option.filter, hformed.1, hformed.2.1, hformed.2.2, Bool.and_eq_true,
      decide_eq_true_eq, ne_eq, not_false_eq_true, true_and, and_assoc]
    split <;> rfl
  · rw [if_neg (fun h => hformed h.2), if_neg (fun h => hformed ⟨h.1, h.2.1, h.2.2.1⟩)]
    rfl

omit [DecidableEq F] in
theorem valid_write {header : OmniVirtualMicWriteHeader} {input_length : Nat}
    (h : write_is_invalid header input_length = false) :
    header.header_bytes + header.payload_bytes ≤ input_length ∧ header.payload_bytes < 2 ^ 32 := by
  have hframes : OMNI_VIRTUAL_MIC_MAX_WRITE_FRAMES * OMNI_VIRTUAL_MIC_BLOCK_ALIGN_BYTES < 2 ^ 32 := by
    decide
  simp only [write_is_invalid, Bool.or_eq_false_iff, decide_eq_false_iff_not, ne_eq, not_not,
    gt_iff_lt, not_lt] at h
  obtain ⟨⟨⟨-, hcount⟩, hpayload⟩, hfits⟩ := h
  exact ⟨hfits, hpayload ▸ lt_of_le_of_lt (Nat.mul_le_mul_right _ hcount) hframes⟩

theorem write_mic_pcm_served (h : Sound s) (irp : DeviceIoControl F)
    (hcode : irp.io_control_code = IOCTL_OMNI_BRIDGE_WRITE_MIC_PCM) :
    ∃ s' completion, s.write_mic_pcm irp = some (s', completion) ∧
      Served s irp (entering s (.device_control irp)) s' completion := by
  rw [entering_write hcode rfl]
  unfold Driver.write_mic_pcm
  split
  · rename_i hsmall
    rw [if_neg fun ⟨hlength, hbuffer, _⟩ => hsmall.elim (fun _ => absurd hlength (by omega)) hbuffer]
    exact ⟨_, _, rfl, .unchanged h irp _⟩
  rename_i hbuffer
  push Not at hbuffer
  rw [read_input hbuffer.2 hbuffer.1]
  simp only [Option.bind_eq_bind, Option.bind_some]
  split
  · rename_i hinvalid
    rw [if_neg fun ⟨_, _, hvalid, _⟩ => absurd (hinvalid.symm.trans hvalid) (by simp)]
    exact ⟨_, _, rfl, .reject h irp _⟩
  rename_i hvalid
  split
  · rename_i hother
    rw [if_neg]
    · exact ⟨_, _, rfl, .reject h irp _⟩
    · rintro ⟨-, -, -, hactive, howner, hgeneration⟩
      rcases hother with hoff | hother | hother
      · rw [hactive] at hoff
        cases hoff
      · exact hother hgeneration
      · exact hother howner
  · rename_i hsession
    push Not at hsession
    have hvalid := Bool.eq_false_iff.mpr hvalid
    obtain ⟨hfits, hpayload⟩ := valid_write hvalid
    obtain ⟨_, _, hwrite, hsound, hlimit, _, hcontents⟩ :=
      write_ring_eq (by decide) (by decide) h.mic h.mic_limit hpayload
        (hfits.trans (DeviceIoControl.input_length hbuffer.2).ge)
    unfold Driver.write_virtual_mic_ring_locked
    rw [hwrite, if_pos ⟨hbuffer.1, hbuffer.2, hvalid, by simpa using hsession.1, hsession.2.2,
      hsession.2.1⟩]
    refine ⟨_, _, rfl, ⟨⟨h.bridge, h.bridge_limit, h.captured, h.loopback, hsound, hlimit, ?_,
      h.session⟩, Or.inl rfl, ?_⟩, complete_bounded irp _, fun hstatus => absurd rfl hstatus⟩
    · have := h.written
      dsimp only
      omega
    · rw [hcontents]
      exact List.drop_suffix _ _

theorem end_mic_session_served (h : Sound s) (irp : DeviceIoControl F) :
    ∃ s' completion, s.end_mic_session irp = some (s', completion) ∧
      Served s irp [] s' completion := by
  unfold Driver.end_mic_session
  split
  · exact ⟨_, _, rfl, .unchanged h irp _⟩
  rename_i hbuffer
  push Not at hbuffer
  rw [read_input hbuffer.2 hbuffer.1]
  simp only [Option.bind_eq_bind, Option.bind_some]
  split
  · exact ⟨_, _, rfl, .unchanged h irp _⟩
  split
  · exact ⟨_, _, rfl, .reject h irp _⟩
  exact ⟨_, _, rfl, .of_same ⟨h.bridge, h.bridge_limit, h.captured, h.loopback, h.mic, h.mic_limit,
    h.written, by simp⟩ rfl rfl, complete_bounded irp _, fun hstatus => absurd rfl hstatus⟩

theorem entering_other (hcode : irp.io_control_code ≠ IOCTL_OMNI_BRIDGE_WRITE_MIC_PCM) :
    entering s (.device_control irp) = [] := by
  unfold entering takes payload_of
  dsimp only
  rw [if_neg (fun h => hcode h.1)]
  rfl

theorem dispatch_device_control_served (h : Sound s) (irp : DeviceIoControl F) :
    ∃ s' completion, s.dispatch_device_control irp = some (s', completion) ∧
      Served s irp (entering s (.device_control irp)) s' completion := by
  have hother : ∀ code, irp.io_control_code = code → code ≠ IOCTL_OMNI_BRIDGE_WRITE_MIC_PCM →
      entering s (.device_control irp) = [] :=
    fun code hcode hne => entering_other (hcode ▸ hne)
  unfold Driver.dispatch_device_control
  split
  · rw [hother _ ‹_› (by decide)]
    exact read_pcm_served h irp
  split
  · rw [hother _ ‹_› (by decide)]
    exact query_status_served h irp
  split
  · rw [hother _ ‹_› (by decide)]
    exact ⟨_, _, rfl, reset_served h irp⟩
  split
  · rw [hother _ ‹_› (by decide)]
    exact begin_mic_session_served h irp
  split
  · exact write_mic_pcm_served h irp ‹_›
  split
  · rw [hother _ ‹_› (by decide)]
    exact end_mic_session_served h irp
  · rw [hother _ rfl ‹_›]
    exact ⟨_, _, rfl, .unchanged h irp _⟩

theorem dispatch_create_close_follows (h : Sound s) (major_function : MajorFunction)
    (file_object : F) : Follows s (s.dispatch_create_close major_function file_object) [] := by
  unfold Driver.dispatch_create_close
  split
  · exact .of_same ⟨h.bridge, h.bridge_limit, h.captured, h.loopback, h.mic, h.mic_limit, h.written,
      by simp⟩ rfl rfl
  · exact .of_same h rfl rfl

end

/-! ## The streams -/

section

variable {s : Driver F}

theorem write_ring_locked_eq {source : List UInt8} {cursor byte_count dropped : Nat}
    {ring : rings.Ring UInt8} (h : write_ring OMNI_BRIDGE_RING_CAPACITY OMNI_BRIDGE_MAX_BUFFERED_BYTES
      s.bridge_ring source cursor byte_count = some (ring, dropped)) :
    s.write_ring_locked source cursor byte_count = some { s with
      bridge_ring := ring
      bridge_dropped_bytes := s.bridge_dropped_bytes + dropped } := by
  unfold Driver.write_ring_locked
  rw [h]
  rfl

theorem write_loopback_ring_locked_eq {source : List UInt8} {cursor byte_count dropped : Nat}
    {ring : rings.Ring UInt8} (h : write_ring OMNI_LOOPBACK_RING_CAPACITY OMNI_LOOPBACK_RING_CAPACITY
      s.loopback_ring source cursor byte_count = some (ring, dropped)) :
    s.write_loopback_ring_locked source cursor byte_count = some { s with loopback_ring := ring } := by
  unfold Driver.write_loopback_ring_locked
  rw [h]
  rfl

theorem write_render_pcm_follows (h : Sound s) (buffer : Pcm) :
    ∃ s', s.omni_bridge_write_render_pcm buffer.bytes = some s' ∧ Follows s s' [] := by
  unfold Driver.omni_bridge_write_render_pcm
  split
  · exact ⟨s, rfl, .of_same h rfl rfl⟩
  · have hsource : 0 + buffer.bytes.length ≤ buffer.bytes.length := (Nat.zero_add _).le
    obtain ⟨_, _, hwrite, hsound, hlimit, _, -⟩ :=
      write_ring_eq (by decide) (by decide) h.bridge h.bridge_limit buffer.fits hsource
    obtain ⟨loopback, _, hloop, hloopback, -⟩ :=
      write_ring_eq (by decide) (by decide) h.loopback h.loopback.buffered buffer.fits hsource
    refine ⟨_, Option.bind_eq_some_iff.mpr ⟨_, write_ring_locked_eq hwrite,
      write_loopback_ring_locked_eq hloop⟩, .of_same ⟨hsound, hlimit, ?_, hloopback, h.mic,
      h.mic_limit, h.written, h.session⟩ rfl rfl⟩
    have := h.captured
    dsimp only
    omega

theorem zero_rest_eq {buffer : List UInt8} (hfits : buffer.length < 2 ^ 32) {copied : Nat}
    (hcopied : copied ≤ buffer.length) :
    Driver.zero_rest buffer copied =
      some (buffer.take copied ++ List.replicate (buffer.length - copied) 0) := by
  unfold Driver.zero_rest
  rw [ulong_sub_eq hcopied hfits]
  split
  · have hlength : copied + (List.replicate (buffer.length - copied) (0 : UInt8)).length =
        buffer.length := by
      rw [List.length_replicate]
      omega
    rw [write_at_eq_some hlength.le, hlength, List.drop_length, List.append_nil]
  · rw [Nat.sub_eq_zero_of_le (by omega), List.take_of_length_le (by omega)]
    simp

theorem read_loopback_pcm_follows (h : Sound s) (buffer : Pcm) :
    ∃ s' completion, s.omni_bridge_read_loopback_pcm buffer.bytes = some (s', completion) ∧
      Follows s s' [] := by
  have hfits := buffer.fits
  unfold Driver.omni_bridge_read_loopback_pcm
  split
  · exact ⟨_, _, rfl, .of_same h rfl rfl⟩
  · obtain ⟨_, output, hread, hsound, -, houtput⟩ := read_ring_eq (by decide) h.loopback
      (le_refl buffer.bytes.length)
    have hlength := congrArg List.length houtput
    rw [List.length_append, List.length_take, List.length_drop, h.loopback.length_contents] at hlength
    have hzero := zero_rest_eq (show output.length < 2 ^ 32 by omega)
      (show min buffer.bytes.length s.loopback_ring.buffered ≤ output.length by omega)
    simp only [Driver.read_loopback_ring_locked, hread, Option.bind_eq_bind, Option.bind_some, hzero]
    exact ⟨_, _, rfl, .of_same ⟨h.bridge, h.bridge_limit, h.captured, hsound, h.mic, h.mic_limit,
      h.written, h.session⟩ rfl rfl⟩

theorem reset_loopback_pcm_follows (h : Sound s) : Follows s s.omni_bridge_reset_loopback_pcm [] :=
  .of_same ⟨h.bridge, h.bridge_limit, h.captured,
    Ring.emptied_sound h.loopback.memory (by decide), h.mic, h.mic_limit, h.written, h.session⟩ rfl rfl

/-- A capture hears what the microphone holds, and then silence. -/
theorem read_virtual_mic_pcm_follows (h : Sound s) (buffer : Pcm) :
    ∃ s' completion, s.omni_bridge_read_virtual_mic_pcm buffer.bytes = some (s', completion) ∧
      Follows s s' [] ∧ ∃ heard, heard <+: s.virtual_mic_ring.contents ∧
        heard.length = completion.information ∧
        completion.buffer =
          heard ++ List.replicate (buffer.bytes.length - completion.information) 0 := by
  have hfits := buffer.fits
  unfold Driver.omni_bridge_read_virtual_mic_pcm
  split
  · rename_i hempty
    exact ⟨_, _, rfl, .of_same h rfl rfl, [], List.nil_prefix, rfl, by simp [hempty]⟩
  · obtain ⟨_, output, hread, hsound, hcontents, houtput⟩ := read_ring_eq (by decide) h.mic
      (le_refl buffer.bytes.length)
    generalize hcopied : min buffer.bytes.length s.virtual_mic_ring.buffered = copied at *
    have hlength : output.length = buffer.bytes.length := by
      rw [houtput, List.length_append, List.length_take, List.length_drop, h.mic.length_contents]
      omega
    have hleft := congrArg List.length hcontents
    rw [hsound.length_contents, List.length_drop, h.mic.length_contents] at hleft
    have hheard : (s.virtual_mic_ring.contents.take copied).length = copied := by
      rw [List.length_take, h.mic.length_contents]
      omega
    have hzero := zero_rest_eq (show output.length < 2 ^ 32 by omega)
      (show copied ≤ output.length by omega)
    simp only [Driver.read_virtual_mic_ring_locked, hread, Option.bind_eq_bind, Option.bind_some,
      hzero]
    refine ⟨_, _, rfl, ⟨⟨h.bridge, h.bridge_limit, h.captured, h.loopback, hsound, ?_, ?_, h.session⟩,
      Or.inl rfl, ?_⟩, _, List.take_prefix copied _, hheard, ?_⟩
    · have := h.mic_limit
      dsimp only
      omega
    · have := h.written
      dsimp only
      omega
    · rw [List.append_nil, hcontents]
      exact List.drop_suffix _ _
    · rw [hlength, houtput, List.take_left' hheard]

theorem reset_virtual_mic_consumer_follows (h : Sound s) :
    Follows s s.omni_bridge_reset_virtual_mic_consumer [] := by
  refine .of_empty ⟨h.bridge, h.bridge_limit, h.captured, h.loopback,
    Ring.emptied_sound h.mic.memory (by decide), Nat.zero_le _, ?_, h.session⟩ Ring.contents_emptied
  have := h.written
  simp only [Driver.omni_bridge_reset_virtual_mic_consumer, Driver.reset_virtual_mic_ring_locked,
    Bool.false_eq_true, if_false, Ring.emptied]
  omega

end

/-! ## Steps -/

section

variable [DecidableEq F] {s : Driver F}

/-- What one section does. -/
structure Orderly (s : Driver F) (event : Event F) (s' : Driver F) (completion : Completion) :
    Prop where
  follows : Follows s s' (entering s event)
  bounded : ∀ irp, event = .device_control irp → Bounded irp completion
  rejected : ∀ irp, event = .device_control irp → completion.status ≠ .success →
    s' = s ∨ s' = s.reject
  heard : ∀ buffer, event = .read_virtual_mic_pcm buffer → ∃ heard,
    heard <+: s.virtual_mic_ring.contents ∧ heard.length = completion.information ∧
      completion.buffer =
        heard ++ List.replicate (buffer.bytes.length - completion.information) 0

/-- A section that is neither a request nor a capture. -/
theorem Orderly.of_follows {event : Event F} {s' : Driver F} {completion : Completion}
    (h : Follows s s' []) (hentering : entering s event = [])
    (hrequest : ∀ irp, event ≠ .device_control irp)
    (hcapture : ∀ buffer, event ≠ .read_virtual_mic_pcm buffer) :
    Orderly s event s' completion where
  follows := hentering ▸ h
  bounded := fun irp hirp => absurd hirp (hrequest irp)
  rejected := fun irp hirp => absurd hirp (hrequest irp)
  heard := fun buffer hbuffer => absurd hbuffer (hcapture buffer)

theorem step_orderly (h : Sound s) (event : Event F) :
    ∃ s' completion, step s event = some (s', completion) ∧ Orderly s event s' completion := by
  cases event with
  | create_close major_function file_object =>
    exact ⟨_, _, rfl, .of_follows (dispatch_create_close_follows h major_function file_object) rfl
      nofun nofun⟩
  | device_control irp =>
    obtain ⟨s', completion, hserved, hfollows, hbounded, hrejected⟩ :=
      dispatch_device_control_served h irp
    refine ⟨s', completion, hserved, hfollows, ?_, ?_, nofun⟩
    · rintro _ ⟨⟩
      exact hbounded
    · rintro _ ⟨⟩
      exact hrejected
  | write_render_pcm buffer =>
    obtain ⟨s', hwrite, hfollows⟩ := write_render_pcm_follows h buffer
    exact ⟨_, _, Option.map_eq_some_iff.mpr ⟨s', hwrite, rfl⟩, .of_follows hfollows rfl nofun nofun⟩
  | read_loopback_pcm buffer =>
    obtain ⟨s', completion, hread, hfollows⟩ := read_loopback_pcm_follows h buffer
    exact ⟨s', completion, hread, .of_follows hfollows rfl nofun nofun⟩
  | reset_loopback_pcm =>
    exact ⟨_, _, rfl, .of_follows (reset_loopback_pcm_follows h) rfl nofun nofun⟩
  | read_virtual_mic_pcm buffer =>
    obtain ⟨s', completion, hread, hfollows, hheard⟩ := read_virtual_mic_pcm_follows h buffer
    refine ⟨s', completion, hread, hfollows, nofun, nofun, ?_⟩
    rintro _ ⟨⟩
    exact hheard
  | reset_virtual_mic_consumer =>
    exact ⟨_, _, rfl, .of_follows (reset_virtual_mic_consumer_follows h) rfl nofun nofun⟩

/-! ## Runs -/

/-- A state, with the writes that were taken on the way to it: their generations and payloads. -/
structure Recorded (F : Type) where
  driver : Driver F
  writes : List (Nat × List UInt8)

/-- The bytes that were written under a generation. -/
def Recorded.written_under (r : Recorded F) (generation : Nat) : List UInt8 :=
  (r.writes.filter fun write => write.1 = generation).flatMap (·.2)

def Recorded.step (r : Recorded F) (event : Event F) : Option (Recorded F) :=
  (omni_bridge_ring.step r.driver event).map fun next =>
    ⟨next.1, r.writes ++ (takes r.driver event).toList⟩

/-- The sections in the order in which they take the lock; `none` where one of them faults. -/
def run (events : List (Event F)) : Option (Recorded F) :=
  events.foldlM Recorded.step { driver := omni_bridge_initialize F, writes := [] }

/-- What the microphone holds was written under the generation that is current. -/
structure Recorded.Sound (r : Recorded F) : Prop where
  driver : omni_bridge_ring.Sound r.driver
  contents : r.driver.virtual_mic_ring.contents <:+ r.written_under r.driver.virtual_mic_generation

theorem takes_current {event : Event F} {write : Nat × List UInt8} (h : takes s event = some write) :
    write.1 = s.virtual_mic_generation := by
  unfold takes at h
  split at h
  · have hcurrent := (Option.filter_eq_some_iff.mp h).2
    simp only [Bool.and_eq_true, decide_eq_true_eq] at hcurrent
    exact hcurrent.2.symm
  · cases h

/-- A write that is taken adds its payload to the current generation. -/
theorem written_under_current (r : Recorded F) (event : Event F) (s' : Driver F) :
    (Recorded.mk s' (r.writes ++ (takes r.driver event).toList)).written_under
        r.driver.virtual_mic_generation =
      r.written_under r.driver.virtual_mic_generation ++ entering r.driver event := by
  unfold Recorded.written_under entering
  rw [List.filter_append, List.flatMap_append]
  cases htakes : takes r.driver event with
  | none => rfl
  | some _ => simp [takes_current htakes]

theorem Recorded.Sound.step {r : Recorded F} (h : r.Sound) (event : Event F) :
    ∃ r', r.step event = some r' ∧ r'.Sound := by
  obtain ⟨_, _, hstep, horderly⟩ := step_orderly h.driver event
  refine ⟨_, Option.map_eq_some_iff.mpr ⟨_, hstep, rfl⟩, horderly.follows.sound, ?_⟩
  rcases horderly.follows.generation with hsame | hempty
  · rw [hsame, written_under_current]
    obtain ⟨before, hbefore⟩ := h.contents
    refine horderly.follows.contents.trans ⟨before, ?_⟩
    rw [← List.append_assoc, hbefore]
  · rw [hempty]
    exact List.nil_suffix

theorem run_sound (events : List (Event F)) : ∃ r, run events = some r ∧ r.Sound := by
  have hall : ∀ r : Recorded F, r.Sound →
      ∃ r', events.foldlM Recorded.step r = some r' ∧ r'.Sound := by
    induction events with
    | nil => exact fun r h => ⟨r, rfl, h⟩
    | cons event events ih =>
      intro r h
      obtain ⟨next, hnext, hsound⟩ := h.step event
      obtain ⟨r', hrest, h'⟩ := ih next hsound
      exact ⟨r', Option.bind_eq_some_iff.mpr ⟨next, hnext, hrest⟩, h'⟩
  exact hall _ ⟨sound_at_first, List.nil_suffix⟩

/-- In every interleaving no section faults, the counters account for every byte, a session has an
owner, bytes enter the microphone by a write of the owner under the current generation, a capture
hears only what was written under it, and a rejected request changes nothing but a counter. -/
theorem the_microphone_plays_the_session_of_its_owner (events : List (Event F)) :
    ∃ r, run events = some r ∧
      (r.driver.virtual_mic_session_active = true ↔ r.driver.virtual_mic_session_owner ≠ none) ∧
      r.driver.virtual_mic_written_bytes = r.driver.virtual_mic_consumed_bytes +
        r.driver.virtual_mic_dropped_bytes + r.driver.virtual_mic_ring.buffered ∧
      r.driver.bridge_captured_bytes = r.driver.bridge_delivered_bytes +
        r.driver.bridge_dropped_bytes + r.driver.bridge_ring.buffered ∧
      ∀ event, ∃ s' completion, step r.driver event = some (s', completion) ∧
        s'.virtual_mic_ring.contents <:+
          r.driver.virtual_mic_ring.contents ++ entering r.driver event ∧
        (∀ irp, event = .device_control irp → Bounded irp completion ∧
          (completion.status ≠ .success → s' = r.driver ∨ s' = r.driver.reject)) ∧
        ∀ buffer, event = .read_virtual_mic_pcm buffer → ∃ heard,
          heard <:+: r.written_under r.driver.virtual_mic_generation ∧
            heard.length = completion.information ∧
            completion.buffer =
              heard ++ List.replicate (buffer.bytes.length - completion.information) 0 := by
  obtain ⟨r, hrun, h⟩ := run_sound events
  refine ⟨r, hrun, h.driver.session, h.driver.written, h.driver.captured, fun event => ?_⟩
  obtain ⟨s', completion, hstep, horderly⟩ := step_orderly h.driver event
  refine ⟨s', completion, hstep, horderly.follows.contents,
    fun irp hirp => ⟨horderly.bounded irp hirp, horderly.rejected irp hirp⟩, fun buffer hbuffer => ?_⟩
  obtain ⟨heard, hfront, hlength, hbuffer⟩ := horderly.heard buffer hbuffer
  exact ⟨heard, hfront.isInfix.trans h.contents.isInfix, hlength, hbuffer⟩

end

end omni_translate.omni_bridge_ring
