import A3sBox.Lib.Bytes

/-
  The SPDY port-forward relay of the CRI streaming server, guest to client
  (`cri/src/spdy.rs`, `cri/src/streaming.rs`).

  Model. A byte stream is the list of bytes it still holds, and every reader takes what it
  needs from the front. `read_port_forward_frame` reads the guest's frames: a kind byte,
  a 32-bit stream id, a 32-bit length and the payload. `read_frame` reads SPDY frames: an
  8-byte header whose last three bytes are a 24-bit length, then the payload. Both
  return `none` when the stream ends inside a header (`UnexpectedEof` on the header is a
  clean end) and fail when it ends inside a payload. `guestToClient` is the loop of
  `guest_to_client`: each guest DATA frame on `PORT_FORWARD_STREAM_ID` becomes
  `data_frame(data_id, false, payload)`, the first CLOSE becomes the FIN frame
  `data_frame(data_id, true, [])` and ends the loop, every other frame is skipped, and
  the loop ends at the end of the guest's stream. Writes to the client are taken to
  succeed. `readFrames` is the client's side: `read_frame` until the stream ends.

  `data_frame` writes `payload.len() as u32` in three bytes, so the length the client
  reads is the payload's length modulo 2^24; nothing between the two framings splits a
  longer payload.

  Proved:
  * `readPortForwardFrame_write`: every frame the guest writes, with a payload of up to
    `u32::MAX` bytes, is read back as it was written;
  * `readFrame_dataFrame`: `read_frame` reads `data_frame(id, fin, p)` as one DATA frame
    on `id & 0x7fffffff` with the flag `fin` and the first `|p| mod 2^24` bytes of `p`,
    and leaves the rest of `p` in the stream;
  * `relay_delivers_frames`: while every relayed payload is below 2^24 bytes, the client
    reads exactly `expectedFrames`: the guest's DATA payloads on the data stream, then
    one FIN frame if the guest sent CLOSE;
  * `relay_misframes_full_payload`: one guest DATA frame of 2^24 zero bytes reaches the
    client as an empty DATA frame followed by 2^21 empty DATA frames on stream 0.
-/

namespace A3sBox.Cri

open A3sBox.Lib.Bytes

/-! ## SPDY frames -/

def ctrlSynStream : Nat := 1
def ctrlPing : Nat := 6
def flagFin : UInt8 := 0x01

/-- `Frame`: the parts of a decoded SPDY frame the server acts on. -/
inductive Frame where
  | synStream (streamId : Nat)
  | data (streamId : Nat) (fin : Bool) (data : List UInt8)
  | ping (id : Nat)
  | ignored
deriving DecidableEq

/-- The one failure of a reader over a byte stream: the stream ends inside a payload. -/
inductive IoError where
  | unexpectedEof
deriving DecidableEq

/-- The control branch of `read_frame`, on the frame type `hdr[2..4]` and the payload. -/
def controlFrame (frameType : Nat) : List UInt8 → Frame
  | d0 :: d1 :: d2 :: d3 :: _ =>
    if frameType = ctrlSynStream then .synStream (fromBeBytes [d0 &&& 0x7f, d1, d2, d3])
    else if frameType = ctrlPing then .ping (fromBeBytes [d0, d1, d2, d3])
    else .ignored
  | _ => .ignored

/-- `read_frame`: the frame at the front of the stream and the bytes after it. -/
def readFrame : List UInt8 → Except IoError (Option (Frame × List UInt8))
  | h0 :: h1 :: h2 :: h3 :: flags :: l0 :: l1 :: l2 :: rest =>
    let len := beLength24 l0 l1 l2
    -- `read_exact` of the payload; for `len = 0` there is nothing to read
    if rest.length < len then .error .unexpectedEof
    else
      let data := rest.take len
      let frame :=
        if h0 &&& 0x80 != 0 then controlFrame (fromBeBytes [h2, h3]) data
        else .data (fromBeBytes [h0 &&& 0x7f, h1, h2, h3]) (flags &&& flagFin != 0) data
      .ok (some (frame, rest.drop len))
  | _ => .ok none

/-- `data_frame`. -/
def dataFrame (streamId : Nat) (fin : Bool) (payload : List UInt8) : List UInt8 :=
  let len := payload.length % 2 ^ 32
  toBeBytes32 (streamId &&& 0x7fffffff) ++
    [if fin then flagFin else 0, UInt8.ofNat (len >>> 16), UInt8.ofNat (len >>> 8),
      UInt8.ofNat len] ++ payload

/-- `ping_frame`. -/
def pingFrame (id : Nat) : List UInt8 :=
  [0x80, 0x03, 0x00, 0x06, 0x00, 0x00, 0x00, 0x04] ++ toBeBytes32 id

theorem readFrame_rest_lt {bytes rest : List UInt8} {frame : Frame}
    (h : readFrame bytes = .ok (some (frame, rest))) : rest.length < bytes.length := by
  match bytes, h with
  | h0 :: h1 :: h2 :: h3 :: flags :: l0 :: l1 :: l2 :: tail, h =>
    rw [readFrame] at h
    by_cases hshort : tail.length < beLength24 l0 l1 l2
    · rw [if_pos hshort] at h
      cases h
    · rw [if_neg hshort] at h
      cases h
      simp only [List.length_drop, List.length_cons]
      omega

/-- `read_frame` until the stream ends: the frames read, and the failure that stopped
    the reader, if one did. -/
def readFrames (bytes : List UInt8) : List Frame × Option IoError :=
  match h : readFrame bytes with
  | .ok (some (frame, rest)) =>
    have : rest.length < bytes.length := readFrame_rest_lt h
    let read := readFrames rest
    (frame :: read.1, read.2)
  | .ok none => ([], none)
  | .error error => ([], some error)
termination_by bytes.length

theorem readFrames_of_frame {bytes rest : List UInt8} {frame : Frame}
    (h : readFrame bytes = .ok (some (frame, rest))) :
    readFrames bytes = (frame :: (readFrames rest).1, (readFrames rest).2) := by
  rw [readFrames]
  split
  · rename_i frame' rest' h'
    rw [h, Except.ok.injEq, Option.some.injEq, Prod.mk.injEq] at h'
    obtain ⟨rfl, rfl⟩ := h'
    rfl
  · rename_i h'
    rw [h] at h'
    cases h'
  · rename_i error h'
    rw [h] at h'
    cases h'

theorem readFrames_nil : readFrames [] = ([], none) := by
  rw [readFrames]
  rfl

/-- The header of `data_frame`: the masked stream id reads back, and so do the flag and
    the length modulo 2^24. -/
theorem readFrame_dataFrame (streamId : Nat) (fin : Bool) (payload rest : List UInt8) :
    readFrame (dataFrame streamId fin payload ++ rest) =
      .ok (some (.data (streamId % 2 ^ 31) fin (payload.take (payload.length % 2 ^ 24)),
        payload.drop (payload.length % 2 ^ 24) ++ rest)) := by
  have hmask : streamId &&& 0x7fffffff = streamId % 2 ^ 31 :=
    Nat.and_two_pow_sub_one_eq_mod streamId 31
  have hid : streamId % 2 ^ 31 < 2 ^ 31 := Nat.mod_lt _ (by norm_num)
  have hlen : payload.length % 2 ^ 32 % 2 ^ 24 = payload.length % 2 ^ 24 := by omega
  have hle : payload.length % 2 ^ 24 ≤ payload.length := Nat.mod_le _ _
  have hflag : ((if fin then flagFin else 0) &&& flagFin != 0) = fin := by
    cases fin <;> decide
  rw [dataFrame, hmask, toBeBytes32]
  simp only [List.cons_append, List.nil_append]
  rw [readFrame]
  simp only [beLength24_ofNat, hlen, and_0x80_of_lt (toBeBytes32_head_lt hid),
    fromBeBytes_toBeBytes31 hid, hflag]
  rw [if_neg (by simp only [List.length_append]; omega), List.take_append_of_le_length hle,
    List.drop_append_of_le_length hle]
  rfl

/-- Below 2^24 bytes, `data_frame` reads back as exactly one frame. -/
theorem readFrames_dataFrame {payload : List UInt8} (hlen : payload.length < 2 ^ 24)
    (streamId : Nat) (fin : Bool) (rest : List UInt8) :
    readFrames (dataFrame streamId fin payload ++ rest) =
      (.data (streamId % 2 ^ 31) fin payload :: (readFrames rest).1, (readFrames rest).2) := by
  have hread := readFrame_dataFrame streamId fin payload rest
  rw [Nat.mod_eq_of_lt hlen, List.take_length, List.drop_length, List.nil_append] at hread
  exact readFrames_of_frame hread

/-! ## Port-forward frames -/

def portForwardStreamId : Nat := 1
def portForwardFrameData : UInt8 := 3
def portForwardFrameClose : UInt8 := 4

/-- `PortForwardFrame`. -/
structure PortForwardFrame where
  kind : UInt8
  streamId : Nat
  payload : List UInt8
deriving DecidableEq

/-- `write_port_forward_frame`: what the guest writes for one frame. -/
def writePortForwardFrame (frameType : UInt8) (streamId : Nat) (payload : List UInt8) :
    List UInt8 :=
  frameType :: (toBeBytes32 streamId ++ toBeBytes32 payload.length ++ payload)

/-- `read_port_forward_frame`. -/
def readPortForwardFrame : List UInt8 → Except IoError (Option (PortForwardFrame × List UInt8))
  | kind :: s0 :: s1 :: s2 :: s3 :: l0 :: l1 :: l2 :: l3 :: rest =>
    let payloadLen := fromBeBytes [l0, l1, l2, l3]
    if rest.length < payloadLen then .error .unexpectedEof
    else
      .ok (some (⟨kind, fromBeBytes [s0, s1, s2, s3], rest.take payloadLen⟩,
        rest.drop payloadLen))
  | _ => .ok none

/-- A frame the guest can write: a `u32` stream id and at most `u32::MAX` payload
    bytes, so that its length field is exact. -/
def PortForwardFrame.Writable (frame : PortForwardFrame) : Prop :=
  frame.streamId < 2 ^ 32 ∧ frame.payload.length < 2 ^ 32

instance : DecidablePred PortForwardFrame.Writable :=
  fun frame => inferInstanceAs (Decidable (frame.streamId < 2 ^ 32 ∧ frame.payload.length < 2 ^ 32))

/-- `read_port_forward_frame` reads back what `write_port_forward_frame` wrote. -/
theorem readPortForwardFrame_write {frame : PortForwardFrame} (hframe : frame.Writable)
    (rest : List UInt8) :
    readPortForwardFrame
        (writePortForwardFrame frame.kind frame.streamId frame.payload ++ rest) =
      .ok (some (frame, rest)) := by
  obtain ⟨hid, hlen⟩ := hframe
  have hidBytes : fromBeBytes (toBeBytes32 frame.streamId) = frame.streamId := by
    rw [fromBeBytes_toBeBytes32, Nat.mod_eq_of_lt hid]
  have hlenBytes : fromBeBytes (toBeBytes32 frame.payload.length) = frame.payload.length := by
    rw [fromBeBytes_toBeBytes32, Nat.mod_eq_of_lt hlen]
  rw [toBeBytes32] at hidBytes hlenBytes
  rw [writePortForwardFrame, toBeBytes32, toBeBytes32]
  simp only [List.cons_append, List.nil_append]
  rw [readPortForwardFrame]
  simp only [hidBytes, hlenBytes]
  rw [if_neg (by simp only [List.length_append]; omega), List.take_left' rfl,
    List.drop_left' rfl]

theorem readPortForwardFrame_rest_lt {bytes rest : List UInt8} {frame : PortForwardFrame}
    (h : readPortForwardFrame bytes = .ok (some (frame, rest))) :
    rest.length < bytes.length := by
  match bytes, h with
  | kind :: s0 :: s1 :: s2 :: s3 :: l0 :: l1 :: l2 :: l3 :: tail, h =>
    rw [readPortForwardFrame] at h
    by_cases hshort : tail.length < fromBeBytes [l0, l1, l2, l3]
    · rw [if_pos hshort] at h
      cases h
    · rw [if_neg hshort] at h
      cases h
      simp only [List.length_drop, List.length_cons]
      omega

/-- The loop of `guest_to_client`, over the guest's stream: the bytes written to the
    client. -/
def guestToClient (dataId : Nat) (guest : List UInt8) : List UInt8 :=
  match h : readPortForwardFrame guest with
  | .ok (some (frame, rest)) =>
    have : rest.length < guest.length := readPortForwardFrame_rest_lt h
    if frame.streamId = portForwardStreamId then
      if frame.kind = portForwardFrameData then
        dataFrame dataId false frame.payload ++ guestToClient dataId rest
      else if frame.kind = portForwardFrameClose then dataFrame dataId true []
      else guestToClient dataId rest
    else guestToClient dataId rest
  -- `Ok(None) | Err(_) => break`
  | _ => []
termination_by guest.length

/-- What the relay does with one frame read from the guest, given the bytes the loop
    writes for the rest of the stream. -/
def relayFrame (dataId : Nat) (frame : PortForwardFrame) (next : List UInt8) : List UInt8 :=
  if frame.streamId = portForwardStreamId then
    if frame.kind = portForwardFrameData then dataFrame dataId false frame.payload ++ next
    else if frame.kind = portForwardFrameClose then dataFrame dataId true []
    else next
  else next

theorem guestToClient_of_frame {dataId : Nat} {guest rest : List UInt8}
    {frame : PortForwardFrame} (h : readPortForwardFrame guest = .ok (some (frame, rest))) :
    guestToClient dataId guest = relayFrame dataId frame (guestToClient dataId rest) := by
  rw [guestToClient]
  split
  · rename_i frame' rest' h'
    rw [h, Except.ok.injEq, Option.some.injEq, Prod.mk.injEq] at h'
    obtain ⟨rfl, rfl⟩ := h'
    rfl
  · rename_i hnot
    exact absurd h (hnot frame rest)

theorem guestToClient_nil (dataId : Nat) : guestToClient dataId [] = [] := by
  rw [guestToClient]
  rfl

/-- What the guest's stream holds after it wrote `frames`. -/
def guestStream (frames : List PortForwardFrame) : List UInt8 :=
  frames.flatMap fun frame => writePortForwardFrame frame.kind frame.streamId frame.payload

/-- What the client should read for the guest's frames: each DATA payload on the
    port-forward stream as a DATA frame on the data stream, then one FIN frame at the
    first CLOSE, and nothing after it. -/
def expectedFrames (dataId : Nat) : List PortForwardFrame → List Frame
  | [] => []
  | frame :: frames =>
    if frame.streamId = portForwardStreamId then
      if frame.kind = portForwardFrameData then
        .data (dataId % 2 ^ 31) false frame.payload :: expectedFrames dataId frames
      else if frame.kind = portForwardFrameClose then [.data (dataId % 2 ^ 31) true []]
      else expectedFrames dataId frames
    else expectedFrames dataId frames

/-- A payload the relay copies into a SPDY frame. -/
def Relayed (frame : PortForwardFrame) : Prop :=
  frame.streamId = portForwardStreamId ∧ frame.kind = portForwardFrameData

instance : DecidablePred Relayed := fun frame =>
  inferInstanceAs (Decidable (frame.streamId = portForwardStreamId ∧ frame.kind = portForwardFrameData))

/-- While every relayed payload is below 2^24 bytes, the client reads from the relay
    exactly the frames `expectedFrames` names, and the stream ends cleanly. -/
theorem relay_delivers_frames (dataId : Nat) (frames : List PortForwardFrame)
    (hwritable : ∀ frame ∈ frames, frame.Writable)
    (hsmall : ∀ frame ∈ frames, Relayed frame → frame.payload.length < 2 ^ 24) :
    readFrames (guestToClient dataId (guestStream frames)) =
      (expectedFrames dataId frames, none) := by
  -- induction on the guest's frames; the relay's loop reads them one by one
  induction frames with
  | nil => rw [guestStream, List.flatMap_nil, guestToClient_nil, readFrames_nil, expectedFrames]
  | cons frame frames ih =>
    have hread := readPortForwardFrame_write (hwritable frame (.head _)) (guestStream frames)
    have hrest := ih (fun f hf => hwritable f (.tail _ hf)) (fun f hf => hsmall f (.tail _ hf))
    rw [guestStream, List.flatMap_cons, ← guestStream, guestToClient_of_frame hread,
      relayFrame, expectedFrames]
    by_cases hstream : frame.streamId = portForwardStreamId
    · by_cases hdata : frame.kind = portForwardFrameData
      · -- DATA: one SPDY frame, then the rest of the stream
        have hlen := hsmall frame (.head _) ⟨hstream, hdata⟩
        rw [if_pos hstream, if_pos hstream, if_pos hdata, if_pos hdata,
          readFrames_dataFrame hlen, hrest]
      · by_cases hclose : frame.kind = portForwardFrameClose
        · -- CLOSE: the FIN frame ends the output
          rw [if_pos hstream, if_pos hstream, if_neg hdata, if_neg hdata, if_pos hclose,
            if_pos hclose, ← List.append_nil (dataFrame dataId true []),
            readFrames_dataFrame (by simp), readFrames_nil]
        · rw [if_pos hstream, if_pos hstream, if_neg hdata, if_neg hdata, if_neg hclose,
            if_neg hclose, hrest]
    · rw [if_neg hstream, if_neg hstream, hrest]

/-- A guest that sends three bytes, a frame on another stream, and CLOSE. -/
def sampleGuestFrames : List PortForwardFrame :=
  [⟨portForwardFrameData, portForwardStreamId, [7, 8, 9]⟩, ⟨portForwardFrameData, 5, [1]⟩,
    ⟨portForwardFrameClose, portForwardStreamId, []⟩]

theorem relay_delivers_sample :
    (∀ frame ∈ sampleGuestFrames, frame.Writable) ∧
      (∀ frame ∈ sampleGuestFrames, Relayed frame → frame.payload.length < 2 ^ 24) ∧
      readFrames (guestToClient 3 (guestStream sampleGuestFrames)) =
        (expectedFrames 3 sampleGuestFrames, none) :=
  ⟨by decide, by decide, relay_delivers_frames 3 sampleGuestFrames (by decide) (by decide)⟩

example : expectedFrames 3 sampleGuestFrames = [.data 3 false [7, 8, 9], .data 3 true []] := by
  decide

/-- Eight zero bytes are the header of an empty DATA frame on stream 0. -/
theorem readFrame_zeros (rest : List UInt8) :
    readFrame (List.replicate 8 0 ++ rest) = .ok (some (.data 0 false [], rest)) := by
  have hlen : beLength24 0 0 0 = 0 := by decide
  have hdata : ((0 : UInt8) &&& 0x80 != 0) = false := by decide
  have hid : fromBeBytes [(0 : UInt8) &&& 0x7f, 0, 0, 0] = 0 := by decide
  have hfin : ((0 : UInt8) &&& flagFin != 0) = false := by decide
  rw [show List.replicate 8 (0 : UInt8) = [0, 0, 0, 0, 0, 0, 0, 0] from rfl]
  simp only [List.cons_append, List.nil_append]
  rw [readFrame]
  simp only [hlen, hdata, hid, hfin]
  rw [if_neg (Nat.not_lt_zero _), List.take_zero, List.drop_zero]
  rfl

/-- A stream of zero bytes reads as empty DATA frames on stream 0, one per eight bytes. -/
theorem readFrames_zeros (k : Nat) :
    readFrames (List.replicate (8 * k) 0) = (List.replicate k (.data 0 false []), none) := by
  induction k with
  | zero => rw [Nat.mul_zero, List.replicate_zero, readFrames_nil, List.replicate_zero]
  | succ k ih =>
    rw [Nat.mul_succ, Nat.add_comm, List.replicate_add, readFrames_of_frame (readFrame_zeros _),
      ih, List.replicate_succ]

/-- One guest DATA frame of 2^24 zero bytes, which the guest may write and the relay reads,
    should reach the client as one DATA frame with those bytes; the client reads an empty
    DATA frame on the data stream and then 2^21 empty DATA frames on stream 0. -/
theorem relay_misframes_full_payload (dataId : Nat) :
    expectedFrames dataId [⟨portForwardFrameData, portForwardStreamId, List.replicate (2 ^ 24) 0⟩] =
        [.data (dataId % 2 ^ 31) false (List.replicate (2 ^ 24) 0)] ∧
      readFrames (guestToClient dataId
          (guestStream [⟨portForwardFrameData, portForwardStreamId, List.replicate (2 ^ 24) 0⟩])) =
        (.data (dataId % 2 ^ 31) false [] :: List.replicate (2 ^ 21) (.data 0 false []), none) := by
  have hwritable : PortForwardFrame.Writable
      ⟨portForwardFrameData, portForwardStreamId, List.replicate (2 ^ 24) 0⟩ := by
    refine ⟨by decide, ?_⟩
    rw [List.length_replicate]
    norm_num
  constructor
  · rw [expectedFrames, if_pos rfl, if_pos rfl, expectedFrames]
  · have hread := readPortForwardFrame_write hwritable []
    -- the length field wraps to 0: an empty frame, and the payload is read as frames
    have hframe := readFrame_dataFrame dataId false (List.replicate (2 ^ 24) 0) []
    rw [List.length_replicate, Nat.mod_self, List.take_zero, List.drop_zero,
      List.append_nil, List.append_nil] at hframe
    rw [guestStream, List.flatMap_cons, List.flatMap_nil, guestToClient_of_frame hread, guestToClient_nil, relayFrame, if_pos rfl, if_pos rfl,
      List.append_nil, readFrames_of_frame hframe, show 2 ^ 24 = 8 * 2 ^ 21 by norm_num,
      readFrames_zeros]

end A3sBox.Cri
