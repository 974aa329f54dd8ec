-- The rings of the virtual audio driver and its entry points
-- (`drivers/windows-virtual-mic/sysvad/omni_bridge_ring.cpp`), between initialise and
-- cleanup. `none` is a fault: a copy out of bounds, or a loop that does not end.
import Mathlib.Algebra.Group.Nat.Defs
import OmniTranslate.Rings

namespace omni_translate.omni_bridge_ring

open rings

/-! ## Constants -/

def OMNI_BRIDGE_RING_CAPACITY : Nat := 4194304
def OMNI_BRIDGE_MAX_BUFFERED_BYTES : Nat := 192000
def OMNI_LOOPBACK_RING_CAPACITY : Nat := 19200
def OMNI_VIRTUAL_MIC_RING_CAPACITY : Nat := 1048576

def OMNI_VIRTUAL_MIC_SAMPLE_RATE_HZ : Nat := 48000
def OMNI_VIRTUAL_MIC_CHANNEL_COUNT : Nat := 1
def OMNI_VIRTUAL_MIC_BITS_PER_SAMPLE : Nat := 16
def OMNI_VIRTUAL_MIC_BLOCK_ALIGN_BYTES : Nat := 2
def OMNI_VIRTUAL_MIC_MAX_WRITE_FRAMES : Nat := 48000

def OMNI_VIRTUAL_MIC_MAX_BUFFERED_BYTES : Nat :=
  OMNI_VIRTUAL_MIC_SAMPLE_RATE_HZ * OMNI_VIRTUAL_MIC_BLOCK_ALIGN_BYTES * 5

def OMNI_BRIDGE_ABI_VERSION : Nat := 0x20260810

/-- `CTL_CODE` of a buffered method; the access is 1 to read and 2 to write. -/
def ctl_code (function access : Nat) : Nat := 0x8337 * 65536 + access * 16384 + function * 4

def IOCTL_OMNI_BRIDGE_READ_PCM : Nat := ctl_code 0x800 1
def IOCTL_OMNI_BRIDGE_QUERY_STATUS : Nat := ctl_code 0x801 1
def IOCTL_OMNI_BRIDGE_RESET : Nat := ctl_code 0x802 2
def IOCTL_OMNI_BRIDGE_BEGIN_MIC_SESSION : Nat := ctl_code 0x803 2
def IOCTL_OMNI_BRIDGE_WRITE_MIC_PCM : Nat := ctl_code 0x804 2
def IOCTL_OMNI_BRIDGE_END_MIC_SESSION : Nat := ctl_code 0x805 2

/-! ## Words -/

/-- `+` of two `ULONG`. -/
def ulong_add (a b : Nat) : Nat := (a + b) % 2 ^ 32

/-- `-` of two `ULONG`. -/
def ulong_sub (a b : Nat) : Nat := (a + 2 ^ 32 - b) % 2 ^ 32

def little_endian : List UInt8 → Nat
  | [] => 0
  | byte :: bytes => byte.toNat + 256 * little_endian bytes

/-- A field of a record that was copied from a buffer. -/
def field (bytes : List UInt8) (offset width : Nat) : Nat :=
  little_endian ((bytes.drop offset).take width)

def bytes_of (width n : Nat) : List UInt8 :=
  (List.range width).map fun i => UInt8.ofNat (n / 256 ^ i)

/-! ## Records -/

structure OmniVirtualMicFormat where
  sample_rate_hz : Nat
  channel_count : Nat
  bits_per_sample : Nat
  block_align_bytes : Nat

structure OmniVirtualMicSession where
  abi_version : Nat
  struct_size : Nat
  generation : Nat
  format : OmniVirtualMicFormat

structure OmniVirtualMicWriteHeader where
  abi_version : Nat
  header_bytes : Nat
  generation : Nat
  sample_rate_hz : Nat
  channel_count : Nat
  bits_per_sample : Nat
  frame_count : Nat
  payload_bytes : Nat

def SIZEOF_SESSION : Nat := 32
def SIZEOF_WRITE_HEADER : Nat := 40
def SIZEOF_STATUS : Nat := 160

def session_of (bytes : List UInt8) : OmniVirtualMicSession where
  abi_version := field bytes 0 4
  struct_size := field bytes 4 4
  generation := field bytes 8 8
  format := ⟨field bytes 16 4, field bytes 20 4, field bytes 24 4, field bytes 28 4⟩

def write_header_of (bytes : List UInt8) : OmniVirtualMicWriteHeader where
  abi_version := field bytes 0 4
  header_bytes := field bytes 4 4
  generation := field bytes 8 8
  sample_rate_hz := field bytes 16 4
  channel_count := field bytes 20 4
  bits_per_sample := field bytes 24 4
  frame_count := field bytes 28 4
  payload_bytes := field bytes 32 4

def is_canonical_virtual_mic_format (format : OmniVirtualMicFormat) : Bool :=
  format.sample_rate_hz = OMNI_VIRTUAL_MIC_SAMPLE_RATE_HZ &&
    format.channel_count = OMNI_VIRTUAL_MIC_CHANNEL_COUNT &&
    format.bits_per_sample = OMNI_VIRTUAL_MIC_BITS_PER_SAMPLE &&
    format.block_align_bytes = OMNI_VIRTUAL_MIC_BLOCK_ALIGN_BYTES

def is_canonical_virtual_mic_write (header : OmniVirtualMicWriteHeader) : Bool :=
  header.sample_rate_hz = OMNI_VIRTUAL_MIC_SAMPLE_RATE_HZ &&
    header.channel_count = OMNI_VIRTUAL_MIC_CHANNEL_COUNT &&
    header.bits_per_sample = OMNI_VIRTUAL_MIC_BITS_PER_SAMPLE

/-- The check of a session before the lock, at its begin and at its end. -/
def session_is_invalid (session : OmniVirtualMicSession) : Bool :=
  session.abi_version ≠ OMNI_BRIDGE_ABI_VERSION || session.struct_size ≠ SIZEOF_SESSION ||
    session.generation = 0 || !is_canonical_virtual_mic_format session.format

/-- The check of a write before the lock; its sums are of 64 bits and do not wrap. -/
def write_is_invalid (header : OmniVirtualMicWriteHeader) (input_length : Nat) : Bool :=
  header.abi_version ≠ OMNI_BRIDGE_ABI_VERSION || header.header_bytes ≠ SIZEOF_WRITE_HEADER ||
    header.generation = 0 || !is_canonical_virtual_mic_write header || header.frame_count = 0 ||
    header.frame_count > OMNI_VIRTUAL_MIC_MAX_WRITE_FRAMES ||
    header.frame_count * OMNI_VIRTUAL_MIC_BLOCK_ALIGN_BYTES ≠ header.payload_bytes ||
    header.header_bytes + header.payload_bytes > input_length

/-! ## Copies to and from a ring -/

/-- The `while` of a read, at most `fuel` turns. Gives the ring, the buffer and the bytes copied. -/
def read_loop (capacity : Nat) : Nat → rings.Ring UInt8 → List UInt8 → Nat → Nat →
    Option (rings.Ring UInt8 × List UInt8 × Nat)
  | 0, ring, buffer, copied, remaining => if remaining = 0 then some (ring, buffer, copied) else none
  | fuel + 1, ring, buffer, copied, remaining =>
    if remaining = 0 then some (ring, buffer, copied)
    else do
      let run := min remaining (ulong_sub capacity ring.read_offset)
      let bytes ← read_at ring.memory ring.read_offset run
      let buffer ← write_at buffer copied bytes
      read_loop capacity fuel
        { ring with
          read_offset := ulong_add ring.read_offset run % capacity
          buffered := ulong_sub ring.buffered run }
        buffer (ulong_add copied run) (ulong_sub remaining run)

def read_ring (capacity : Nat) (ring : rings.Ring UInt8) (buffer : List UInt8) (byte_count : Nat) :
    Option (rings.Ring UInt8 × List UInt8 × Nat) :=
  let remaining := min byte_count ring.buffered
  read_loop capacity remaining ring buffer 0 remaining

/-- The `while` of a write, at most `fuel` turns; the source is all that may be read. -/
def write_loop (capacity : Nat) : Nat → rings.Ring UInt8 → List UInt8 → Nat → Nat → Option (rings.Ring UInt8)
  | 0, ring, _, _, remaining => if remaining = 0 then some ring else none
  | fuel + 1, ring, source, cursor, remaining =>
    if remaining = 0 then some ring
    else do
      let run := min remaining (ulong_sub capacity ring.write_offset)
      let bytes ← read_at source cursor run
      let memory ← write_at ring.memory ring.write_offset bytes
      write_loop capacity fuel
        { ring with
          memory
          write_offset := ulong_add ring.write_offset run % capacity
          buffered := ulong_add ring.buffered run }
        source (cursor + run) (ulong_sub remaining run)

/-- The bytes at the start of a write that are more than a ring may hold. -/
def skipped_bytes (limit byte_count : Nat) : Nat :=
  if byte_count > limit then ulong_sub byte_count limit else 0

/-- The ring with room for a write, and the oldest bytes that are dropped for it. -/
def make_room (capacity limit : Nat) (ring : rings.Ring UInt8) (remaining : Nat) : rings.Ring UInt8 × Nat :=
  if remaining > ulong_sub limit ring.buffered then
    let dropped := ulong_sub remaining (ulong_sub limit ring.buffered)
    ({ ring with
        read_offset := ulong_add ring.read_offset dropped % capacity
        buffered := ulong_sub ring.buffered dropped }, dropped)
  else (ring, 0)

/-- Gives the ring and all that was dropped. -/
def write_ring (capacity limit : Nat) (ring : rings.Ring UInt8) (source : List UInt8)
    (cursor byte_count : Nat) : Option (rings.Ring UInt8 × Nat) := do
  let skipped := skipped_bytes limit byte_count
  let remaining := ulong_sub byte_count skipped
  let room := make_room capacity limit ring remaining
  let ring ← write_loop capacity remaining room.1 source (cursor + skipped) remaining
  some (ring, skipped + room.2)

/-! ## The state -/

/-- The globals of the driver. The counters do not wrap. -/
structure Driver (F : Type) where
  bridge_ring : rings.Ring UInt8
  bridge_captured_bytes : Nat
  bridge_delivered_bytes : Nat
  bridge_dropped_bytes : Nat
  loopback_ring : rings.Ring UInt8
  virtual_mic_ring : rings.Ring UInt8
  virtual_mic_session_active : Bool
  virtual_mic_session_owner : Option F
  virtual_mic_generation : Nat
  virtual_mic_written_bytes : Nat
  virtual_mic_consumed_bytes : Nat
  virtual_mic_dropped_bytes : Nat
  virtual_mic_underrun_bytes : Nat
  virtual_mic_rejected_writes : Nat

/-- A ring as it is allocated. -/
def allocated (capacity : Nat) : rings.Ring UInt8 := ⟨List.replicate capacity 0, 0, 0, 0⟩

/-- After `OmniBridgeInitialize`. -/
def omni_bridge_initialize (F : Type) : Driver F where
  bridge_ring := allocated OMNI_BRIDGE_RING_CAPACITY
  bridge_captured_bytes := 0
  bridge_delivered_bytes := 0
  bridge_dropped_bytes := 0
  loopback_ring := allocated OMNI_LOOPBACK_RING_CAPACITY
  virtual_mic_ring := allocated OMNI_VIRTUAL_MIC_RING_CAPACITY
  virtual_mic_session_active := false
  virtual_mic_session_owner := none
  virtual_mic_generation := 0
  virtual_mic_written_bytes := 0
  virtual_mic_consumed_bytes := 0
  virtual_mic_dropped_bytes := 0
  virtual_mic_underrun_bytes := 0
  virtual_mic_rejected_writes := 0

inductive Status where
  | success
  | buffer_too_small
  | invalid_parameter
  | sharing_violation
  | device_not_ready
  | invalid_device_request
deriving DecidableEq

/-- The status and the information of a completed request, and its buffer. -/
structure Completion where
  status : Status
  information : Nat
  buffer : List UInt8

/-- A device control request; its buffer is buffered by the system, for both directions. -/
structure DeviceIoControl (F : Type) where
  io_control_code : Nat
  file_object : F
  input_buffer_length : Nat
  output_buffer_length : Nat
  system_buffer : Option (List UInt8)
  covers : ∀ buffer ∈ system_buffer,
    input_buffer_length ≤ buffer.length ∧ output_buffer_length ≤ buffer.length

variable {F : Type}

namespace DeviceIoControl

variable (irp : DeviceIoControl F)

def buffer : List UInt8 := irp.system_buffer.getD []

/-- The part of the buffer that the request may read. -/
def input : List UInt8 := irp.buffer.take irp.input_buffer_length

/-- The part of the buffer that the request may write. -/
def output : List UInt8 := irp.buffer.take irp.output_buffer_length

def complete (status : Status) (information : Nat) : Completion := ⟨status, information, irp.buffer⟩

/-- Completed with what was written to the output. -/
def complete_output (output : List UInt8) (information : Nat) : Completion :=
  ⟨.success, information, output ++ irp.buffer.drop irp.output_buffer_length⟩

end DeviceIoControl

namespace Driver

variable (s : Driver F)

def reset_ring_locked : Driver F := { s with bridge_ring := s.bridge_ring.emptied }

def reset_loopback_ring_locked : Driver F := { s with loopback_ring := s.loopback_ring.emptied }

def reset_virtual_mic_ring_locked (reset_counters : Bool) : Driver F :=
  let s := { s with virtual_mic_ring := s.virtual_mic_ring.emptied }
  if reset_counters then
    { s with
      virtual_mic_written_bytes := 0
      virtual_mic_consumed_bytes := 0
      virtual_mic_dropped_bytes := 0
      virtual_mic_underrun_bytes := 0
      virtual_mic_rejected_writes := 0 }
  else s

variable (buffer : List UInt8)

def read_ring_locked (byte_count : Nat) :
    Option (Driver F × List UInt8 × Nat) := do
  let read ← read_ring OMNI_BRIDGE_RING_CAPACITY s.bridge_ring buffer byte_count
  some ({ s with
    bridge_ring := read.1
    bridge_delivered_bytes := s.bridge_delivered_bytes + read.2.2 }, read.2.1, read.2.2)

variable (source : List UInt8)

def write_ring_locked (cursor byte_count : Nat) : Option (Driver F) := do
  let written ← write_ring OMNI_BRIDGE_RING_CAPACITY OMNI_BRIDGE_MAX_BUFFERED_BYTES s.bridge_ring
    source cursor byte_count
  some { s with
    bridge_ring := written.1
    bridge_dropped_bytes := s.bridge_dropped_bytes + written.2 }

def read_loopback_ring_locked (byte_count : Nat) :
    Option (Driver F × List UInt8 × Nat) := do
  let read ← read_ring OMNI_LOOPBACK_RING_CAPACITY s.loopback_ring buffer byte_count
  some ({ s with loopback_ring := read.1 }, read.2.1, read.2.2)

def write_loopback_ring_locked (cursor byte_count : Nat) :
    Option (Driver F) := do
  let written ← write_ring OMNI_LOOPBACK_RING_CAPACITY OMNI_LOOPBACK_RING_CAPACITY s.loopback_ring
    source cursor byte_count
  some { s with loopback_ring := written.1 }

/-- `*TrackUnderrun`, which looks at the ring before it is read. -/
def track_underrun : Bool := s.virtual_mic_session_active || s.virtual_mic_ring.buffered > 0

def read_virtual_mic_ring_locked (byte_count : Nat) :
    Option (Driver F × List UInt8 × Nat) := do
  let read ← read_ring OMNI_VIRTUAL_MIC_RING_CAPACITY s.virtual_mic_ring buffer byte_count
  some ({ s with
    virtual_mic_ring := read.1
    virtual_mic_consumed_bytes := s.virtual_mic_consumed_bytes + read.2.2 }, read.2.1, read.2.2)

def write_virtual_mic_ring_locked (cursor byte_count : Nat) :
    Option (Driver F) := do
  let written ← write_ring OMNI_VIRTUAL_MIC_RING_CAPACITY OMNI_VIRTUAL_MIC_MAX_BUFFERED_BYTES
    s.virtual_mic_ring source cursor byte_count
  some { s with
    virtual_mic_ring := written.1
    virtual_mic_dropped_bytes := s.virtual_mic_dropped_bytes + written.2
    virtual_mic_written_bytes := s.virtual_mic_written_bytes + byte_count }

def reject : Driver F :=
  { s with virtual_mic_rejected_writes := s.virtual_mic_rejected_writes + 1 }

end Driver

/-! ## Entry points -/

inductive MajorFunction where
  | create
  | close
deriving DecidableEq

/-- The status that a query returns. The render and loopback counters are left at zero. -/
structure OmniBridgeStatus where
  abi_version : Nat
  ring_capacity_bytes : Nat
  buffered_bytes : Nat
  max_buffered_bytes : Nat
  captured_bytes : Nat
  delivered_bytes : Nat
  dropped_bytes : Nat
  render_streams_created : Nat
  render_run_transitions : Nat
  render_set_write_packet_calls : Nat
  render_read_bytes_calls : Nat
  loopback_capture_read_calls : Nat
  mic_ring_capacity_bytes : Nat
  mic_buffered_bytes : Nat
  mic_max_buffered_bytes : Nat
  mic_sample_rate_hz : Nat
  mic_channel_count : Nat
  mic_bits_per_sample : Nat
  mic_session_active : Nat
  mic_reserved : Nat
  mic_generation : Nat
  mic_written_bytes : Nat
  mic_consumed_bytes : Nat
  mic_dropped_bytes : Nat
  mic_underrun_bytes : Nat
  mic_rejected_writes : Nat

/-- The record as it lies in memory. -/
def OmniBridgeStatus.bytes (status : OmniBridgeStatus) : List UInt8 :=
  ([status.abi_version, status.ring_capacity_bytes, status.buffered_bytes,
      status.max_buffered_bytes].flatMap (bytes_of 4)) ++
    ([status.captured_bytes, status.delivered_bytes, status.dropped_bytes,
      status.render_streams_created, status.render_run_transitions,
      status.render_set_write_packet_calls, status.render_read_bytes_calls,
      status.loopback_capture_read_calls].flatMap (bytes_of 8)) ++
    ([status.mic_ring_capacity_bytes, status.mic_buffered_bytes, status.mic_max_buffered_bytes,
      status.mic_sample_rate_hz, status.mic_channel_count, status.mic_bits_per_sample,
      status.mic_session_active, status.mic_reserved].flatMap (bytes_of 4)) ++
    ([status.mic_generation, status.mic_written_bytes, status.mic_consumed_bytes,
      status.mic_dropped_bytes, status.mic_underrun_bytes,
      status.mic_rejected_writes].flatMap (bytes_of 8))

namespace Driver

def status (s : Driver F) : OmniBridgeStatus where
  abi_version := OMNI_BRIDGE_ABI_VERSION
  ring_capacity_bytes := OMNI_BRIDGE_RING_CAPACITY
  buffered_bytes := s.bridge_ring.buffered
  max_buffered_bytes := OMNI_BRIDGE_MAX_BUFFERED_BYTES
  captured_bytes := s.bridge_captured_bytes
  delivered_bytes := s.bridge_delivered_bytes
  dropped_bytes := s.bridge_dropped_bytes
  render_streams_created := 0
  render_run_transitions := 0
  render_set_write_packet_calls := 0
  render_read_bytes_calls := 0
  loopback_capture_read_calls := 0
  mic_ring_capacity_bytes := OMNI_VIRTUAL_MIC_RING_CAPACITY
  mic_buffered_bytes := s.virtual_mic_ring.buffered
  mic_max_buffered_bytes := OMNI_VIRTUAL_MIC_MAX_BUFFERED_BYTES
  mic_sample_rate_hz := OMNI_VIRTUAL_MIC_SAMPLE_RATE_HZ
  mic_channel_count := OMNI_VIRTUAL_MIC_CHANNEL_COUNT
  mic_bits_per_sample := OMNI_VIRTUAL_MIC_BITS_PER_SAMPLE
  mic_session_active := if s.virtual_mic_session_active then 1 else 0
  mic_reserved := 0
  mic_generation := s.virtual_mic_generation
  mic_written_bytes := s.virtual_mic_written_bytes
  mic_consumed_bytes := s.virtual_mic_consumed_bytes
  mic_dropped_bytes := s.virtual_mic_dropped_bytes
  mic_underrun_bytes := s.virtual_mic_underrun_bytes
  mic_rejected_writes := s.virtual_mic_rejected_writes

variable [DecidableEq F] (s : Driver F)

/-- A handle of the device is opened or closed. -/
def dispatch_create_close (major_function : MajorFunction) (file_object : F) : Driver F :=
  if major_function = .close ∧ s.virtual_mic_session_owner = some file_object then
    -- What is buffered stays, so that a running capture can drain the last frames.
    { s with virtual_mic_session_active := false, virtual_mic_session_owner := none }
  else s

section

variable (irp : DeviceIoControl F)

def read_pcm : Option (Driver F × Completion) :=
  if irp.output_buffer_length = 0 ∨ irp.system_buffer = none then
    some (s, irp.complete .buffer_too_small 0)
  else do
    let read ← s.read_ring_locked irp.output irp.output_buffer_length
    some (read.1, irp.complete_output read.2.1 read.2.2)

def query_status : Option (Driver F × Completion) :=
  if irp.output_buffer_length < SIZEOF_STATUS ∨ irp.system_buffer = none then
    some (s, irp.complete .buffer_too_small 0)
  else do
    let output ← write_at irp.output 0 s.status.bytes
    some (s, irp.complete_output output SIZEOF_STATUS)

def reset : Driver F :=
  { s.reset_ring_locked.reset_loopback_ring_locked with
    bridge_captured_bytes := 0
    bridge_delivered_bytes := 0
    bridge_dropped_bytes := 0 }

/-- Another file object owns the session. -/
def owned_by_other (file_object : F) : Prop :=
  s.virtual_mic_session_owner ≠ none ∧ s.virtual_mic_session_owner ≠ some file_object

instance (file_object : F) : Decidable (s.owned_by_other file_object) := by
  unfold owned_by_other
  infer_instance

/-- The ring for a generation: a new one starts with an empty ring and new counters. -/
def enter_generation (generation : Nat) : Driver F :=
  if s.virtual_mic_generation ≠ generation then
    { s.reset_virtual_mic_ring_locked true with virtual_mic_generation := generation }
  else s

def begin_mic_session : Option (Driver F × Completion) :=
  if irp.input_buffer_length < SIZEOF_SESSION ∨ irp.system_buffer = none then
    some (s, irp.complete .buffer_too_small 0)
  else do
    let bytes ← read_at irp.input 0 SIZEOF_SESSION
    let session := session_of bytes
    if session_is_invalid session then some (s, irp.complete .invalid_parameter 0)
    else if s.owned_by_other irp.file_object then
      some (s.reject, irp.complete .sharing_violation 0)
    else
      some ({ s.enter_generation session.generation with
        virtual_mic_session_owner := some irp.file_object
        virtual_mic_session_active := true }, irp.complete .success 0)

def write_mic_pcm : Option (Driver F × Completion) :=
  if irp.input_buffer_length < SIZEOF_WRITE_HEADER ∨ irp.system_buffer = none then
    some (s, irp.complete .buffer_too_small 0)
  else do
    let bytes ← read_at irp.input 0 SIZEOF_WRITE_HEADER
    let header := write_header_of bytes
    if write_is_invalid header irp.input_buffer_length then
      some (s.reject, irp.complete .invalid_parameter 0)
    else if s.virtual_mic_session_active = false ∨ s.virtual_mic_generation ≠ header.generation ∨
        s.virtual_mic_session_owner ≠ some irp.file_object then
      some (s.reject, irp.complete .device_not_ready 0)
    else do
      let s ← s.write_virtual_mic_ring_locked irp.input header.header_bytes header.payload_bytes
      some (s, irp.complete .success 0)

def end_mic_session : Option (Driver F × Completion) :=
  if irp.input_buffer_length < SIZEOF_SESSION ∨ irp.system_buffer = none then
    some (s, irp.complete .buffer_too_small 0)
  else do
    let bytes ← read_at irp.input 0 SIZEOF_SESSION
    let session := session_of bytes
    if session_is_invalid session then some (s, irp.complete .invalid_parameter 0)
    else if s.virtual_mic_generation ≠ session.generation ∨ s.owned_by_other irp.file_object then
      some (s.reject, irp.complete .device_not_ready 0)
    else
      some ({ s with virtual_mic_session_active := false, virtual_mic_session_owner := none },
        irp.complete .success 0)

def dispatch_device_control : Option (Driver F × Completion) :=
  if irp.io_control_code = IOCTL_OMNI_BRIDGE_READ_PCM then s.read_pcm irp
  else if irp.io_control_code = IOCTL_OMNI_BRIDGE_QUERY_STATUS then s.query_status irp
  else if irp.io_control_code = IOCTL_OMNI_BRIDGE_RESET then some (s.reset, irp.complete .success 0)
  else if irp.io_control_code = IOCTL_OMNI_BRIDGE_BEGIN_MIC_SESSION then s.begin_mic_session irp
  else if irp.io_control_code = IOCTL_OMNI_BRIDGE_WRITE_MIC_PCM then s.write_mic_pcm irp
  else if irp.io_control_code = IOCTL_OMNI_BRIDGE_END_MIC_SESSION then s.end_mic_session irp
  else some (s, irp.complete .invalid_device_request 0)

end

omit [DecidableEq F]

/-! The buffers of the streams: `ByteCount` is their length, and a null buffer is an empty one. -/

variable (buffer : List UInt8)

def omni_bridge_write_render_pcm : Option (Driver F) :=
  if buffer = [] then some s
  else do
    let s := { s with bridge_captured_bytes := s.bridge_captured_bytes + buffer.length }
    let s ← s.write_ring_locked buffer 0 buffer.length
    s.write_loopback_ring_locked buffer 0 buffer.length

/-- The bytes after the ones that were copied are zero. -/
def zero_rest (copied : Nat) : Option (List UInt8) :=
  if copied < buffer.length then
    write_at buffer copied (List.replicate (ulong_sub buffer.length copied) 0)
  else some buffer

def omni_bridge_read_loopback_pcm : Option (Driver F × Completion) :=
  if buffer = [] then some (s, ⟨.success, 0, buffer⟩)
  else do
    let read ← s.read_loopback_ring_locked buffer buffer.length
    let buffer ← zero_rest read.2.1 read.2.2
    some (read.1, ⟨.success, read.2.2, buffer⟩)

def omni_bridge_reset_loopback_pcm : Driver F := s.reset_loopback_ring_locked

def omni_bridge_read_virtual_mic_pcm : Option (Driver F × Completion) :=
  if buffer = [] then some (s, ⟨.success, 0, buffer⟩)
  else do
    let read ← s.read_virtual_mic_ring_locked buffer buffer.length
    let underrun :=
      if s.track_underrun && read.2.2 < buffer.length then ulong_sub buffer.length read.2.2 else 0
    let buffer ← zero_rest read.2.1 read.2.2
    some ({ read.1 with
      virtual_mic_underrun_bytes := read.1.virtual_mic_underrun_bytes + underrun },
      ⟨.success, read.2.2, buffer⟩)

def omni_bridge_reset_virtual_mic_consumer : Driver F :=
  { s with
    virtual_mic_dropped_bytes := s.virtual_mic_dropped_bytes + s.virtual_mic_ring.buffered
    : Driver F }.reset_virtual_mic_ring_locked false

end Driver

/-! ## Steps -/

/-- A buffer whose length is a `ULONG`. -/
structure Pcm where
  bytes : List UInt8
  fits : bytes.length < 2 ^ 32

/-- One section under the lock, with what is done around it on private data. -/
inductive Event (F : Type) where
  | create_close (major_function : MajorFunction) (file_object : F)
  | device_control (irp : DeviceIoControl F)
  | write_render_pcm (buffer : Pcm)
  | read_loopback_pcm (buffer : Pcm)
  | reset_loopback_pcm
  | read_virtual_mic_pcm (buffer : Pcm)
  | reset_virtual_mic_consumer

/-- A section that gives nothing back. -/
def silent (s : Driver F) : Driver F × Completion := (s, ⟨.success, 0, []⟩)

def step [DecidableEq F] (s : Driver F) : Event F → Option (Driver F × Completion)
  | .create_close major_function file_object =>
    some (silent (s.dispatch_create_close major_function file_object))
  | .device_control irp => s.dispatch_device_control irp
  | .write_render_pcm buffer => (s.omni_bridge_write_render_pcm buffer.bytes).map silent
  | .read_loopback_pcm buffer => s.omni_bridge_read_loopback_pcm buffer.bytes
  | .reset_loopback_pcm => some (silent s.omni_bridge_reset_loopback_pcm)
  | .read_virtual_mic_pcm buffer => s.omni_bridge_read_virtual_mic_pcm buffer.bytes
  | .reset_virtual_mic_consumer => some (silent s.omni_bridge_reset_virtual_mic_consumer)

end omni_translate.omni_bridge_ring
