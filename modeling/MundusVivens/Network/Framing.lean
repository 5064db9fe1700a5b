import MundusVivens.Network.ClientSession

set_option autoImplicit false

/-!
# Incoming packets

The receive loop of `ClientSession::Run` on everything the peer sends before it
closes, and its agreement with the frames that `Send` builds.
-/

namespace MundusVivens.Network

open Bytes

structure Packet where
  packetId : UInt16
  payload : List UInt8
  fits : headerSize + payload.length ≤ maxPacketSize

-- What leaves the loop: an exception of `async_read`, or the check of the length field.
inductive Stop where
  | endOfStream
  | badLength
deriving DecidableEq

def readPayload (length packetId : UInt16) (rest : List UInt8) :
    Except Stop (Packet × List UInt8) :=
  if valid : headerSize ≤ length.toNat ∧ length.toNat ≤ maxPacketSize then
    let payloadSize := length.toNat - headerSize
    if payloadSize ≤ rest.length then
      .ok
        ({ packetId := packetId
           payload := rest.take payloadSize
           fits := by rw [List.length_take]; omega },
          rest.drop payloadSize)
    else .error .endOfStream
  else .error .badLength

-- One iteration of the loop: a packet for `HandlePacket`, and the bytes after it.
def readFrame : List UInt8 → Except Stop (Packet × List UInt8)
  | high :: low :: idHigh :: idLow :: rest =>
      readPayload (readU16BE high low) (readU16BE idHigh idLow) rest
  | _ => .error .endOfStream

structure Received where
  delivered : List Packet
  rest : List UInt8
  stop : Stop

def Packet.bytes (packet : Packet) : List UInt8 :=
  writeU16BE (totalLength packet.payload.length) ++ writeU16BE packet.packetId ++ packet.payload

@[simp] theorem Packet.bytes_length (packet : Packet) :
    packet.bytes.length = headerSize + packet.payload.length := by
  simp only [bytes, headerSize, List.length_append, writeU16BE_length]

theorem Packet.totalLength_exact (packet : Packet) :
    (totalLength packet.payload.length).toNat = headerSize + packet.payload.length := by
  have fits := packet.fits
  unfold maxPacketSize at fits
  rw [totalLength_toNat, Nat.mod_eq_of_lt (by omega)]

-- What `Send` hands to the write loop.
def Packet.encode (packet : Packet) : Option (List UInt8) :=
  (send packet.packetId packet.payload).map PacketBuffer.frame

theorem Packet.encode_eq (packet : Packet) : packet.encode = some packet.bytes := by
  obtain ⟨buffer, sent, -, frame⟩ := send_frame packet.packetId packet.payload packet.fits
  simp [encode, sent, frame, bytes]

theorem writeU16BE_readU16BE (high low : UInt8) : writeU16BE (readU16BE high low) = [high, low] := by
  have highBound := high.toNat_lt
  have lowBound := low.toNat_lt
  have value := readU16BE_toNat high low
  have first : (readU16BE high low >>> 8).toUInt8 = high := by
    apply UInt8.toNat_inj.mp
    rw [UInt16.toNat_toUInt8, UInt16.toNat_shiftRight, value]
    change (high.toNat * 256 + low.toNat) >>> 8 % 256 = _
    rw [Nat.shiftRight_eq_div_pow]
    omega
  have second : (readU16BE high low &&& 0xFF).toUInt8 = low := by
    apply UInt8.toNat_inj.mp
    rw [UInt16.toNat_toUInt8, UInt16.toNat_and, value]
    change ((high.toNat * 256 + low.toNat) &&& (2 ^ 8 - 1)) % 256 = _
    rw [Nat.and_two_pow_sub_one_eq_mod]
    omega
  rw [writeU16BE, first, second]

theorem readFrame_header (length packetId : UInt16) (rest : List UInt8) :
    readFrame (writeU16BE length ++ writeU16BE packetId ++ rest) =
      readPayload length packetId rest := by
  change readPayload (readU16BE _ _) (readU16BE _ _) rest = _
  rw [readU16BE_writeU16BE, readU16BE_writeU16BE]

theorem readFrame_bytes (packet : Packet) (rest : List UInt8) :
    readFrame (packet.bytes ++ rest) = .ok (packet, rest) := by
  have length := packet.totalLength_exact
  have fits := packet.fits
  have size : headerSize + packet.payload.length - headerSize = packet.payload.length := by omega
  rw [Packet.bytes, List.append_assoc, readFrame_header, readPayload,
    dif_pos (by rw [length]; exact ⟨Nat.le_add_right _ _, fits⟩)]
  simp [length, size]

theorem readPayload_ok (length packetId : UInt16) (bytes rest : List UInt8) (packet : Packet)
    (read : readPayload length packetId bytes = .ok (packet, rest)) :
    packet.packetId = packetId ∧ totalLength packet.payload.length = length ∧
      bytes = packet.payload ++ rest := by
  unfold readPayload at read
  split at read
  next valid =>
    dsimp only at read
    split at read
    next arrived =>
      obtain ⟨rfl, rfl⟩ := Prod.mk.inj (Except.ok.inj read)
      have size : headerSize + (bytes.take (length.toNat - headerSize)).length = length.toNat := by
        rw [List.length_take]
        omega
      refine ⟨rfl, ?_, (List.take_append_drop _ _).symm⟩
      rw [totalLength, size, UInt16.ofNat_toNat]
    next => cases read
  next => cases read

theorem readFrame_ok (stream rest : List UInt8) (packet : Packet)
    (read : readFrame stream = .ok (packet, rest)) : stream = packet.bytes ++ rest := by
  unfold readFrame at read
  split at read
  next high low idHigh idLow tail =>
    obtain ⟨identified, announced, rfl⟩ := readPayload_ok _ _ _ _ _ read
    rw [Packet.bytes, identified, announced, writeU16BE_readU16BE, writeU16BE_readU16BE]
    simp
  next => cases read

def Stop.Leaves : Stop → List UInt8 → Prop
  | .endOfStream, rest =>
      rest.length < headerSize ∨ ∃ high low tail, rest = high :: low :: tail ∧
        rest.length < (readU16BE high low).toNat
  | .badLength, rest =>
      headerSize ≤ rest.length ∧ ∃ high low tail, rest = high :: low :: tail ∧
        (readU16BE high low).toNat < headerSize

theorem readPayload_error (length packetId : UInt16) (bytes : List UInt8) (stop : Stop)
    (read : readPayload length packetId bytes = .error stop) :
    stop = .endOfStream ∧ headerSize + bytes.length < length.toNat ∨
      stop = .badLength ∧ length.toNat < headerSize := by
  unfold readPayload at read
  split at read
  next valid =>
    dsimp only at read
    split at read
    next => cases read
    next missing =>
      obtain rfl := Except.error.inj read
      exact .inl ⟨rfl, by omega⟩
  next invalid =>
    obtain rfl := Except.error.inj read
    have bound := length.toNat_lt
    unfold maxPacketSize at invalid
    exact .inr ⟨rfl, by omega⟩

theorem readFrame_error (stream : List UInt8) (stop : Stop)
    (read : readFrame stream = .error stop) : stop.Leaves stream := by
  unfold readFrame at read
  split at read
  next high low idHigh idLow tail =>
    rcases readPayload_error _ _ _ _ read with ⟨rfl, missing⟩ | ⟨rfl, short⟩
    · refine .inr ⟨high, low, _, rfl, ?_⟩
      simp only [List.length_cons]
      unfold headerSize at missing
      omega
    · exact ⟨by simp [headerSize], high, low, _, rfl, short⟩
  next short =>
    obtain rfl := Except.error.inj read
    refine .inl ?_
    rcases stream with _ | ⟨a, _ | ⟨b, _ | ⟨c, _ | ⟨d, rest⟩⟩⟩⟩
    · simp [headerSize]
    · simp [headerSize]
    · simp [headerSize]
    · simp [headerSize]
    · exact (short a b c d rest rfl).elim

def receive (stream : List UInt8) : Received :=
  match read : readFrame stream with
  | .error stop => ⟨[], stream, stop⟩
  | .ok (packet, rest) =>
      let later := receive rest
      { later with delivered := packet :: later.delivered }
termination_by stream.length
decreasing_by
  rw [readFrame_ok stream rest packet read, List.length_append, Packet.bytes_length, headerSize]
  omega

theorem receive_ok (stream rest : List UInt8) (packet : Packet)
    (read : readFrame stream = .ok (packet, rest)) :
    receive stream =
      { receive rest with delivered := packet :: (receive rest).delivered } := by
  rw [receive]
  split
  next stop stopped => simp [read] at stopped
  next packet' rest' ok =>
    obtain ⟨rfl, rfl⟩ := Prod.mk.inj (Except.ok.inj (read.symm.trans ok))
    rfl

theorem receive_error (stream : List UInt8) (stop : Stop)
    (read : readFrame stream = .error stop) : receive stream = ⟨[], stream, stop⟩ := by
  rw [receive]
  split
  next stop' stopped =>
    obtain rfl := Except.error.inj (read.symm.trans stopped)
    rfl
  next ok => simp [read] at ok

def encodeAll (packets : List Packet) : Option (List UInt8) :=
  (packets.mapM Packet.encode).map List.flatten

theorem encodeAll_eq (packets : List Packet) :
    encodeAll packets = some (packets.flatMap Packet.bytes) := by
  have frames : packets.mapM Packet.encode = some (packets.map Packet.bytes) := by
    induction packets with
    | nil => rfl
    | cons packet rest ih => simp [List.mapM_cons, Packet.encode_eq, ih]
  rw [encodeAll, frames, Option.map_some, List.flatMap]

theorem receive_bytes (packets : List Packet) :
    receive (packets.flatMap Packet.bytes) = ⟨packets, [], .endOfStream⟩ := by
  induction packets with
  | nil => exact receive_error [] .endOfStream rfl
  | cons packet rest ih =>
      rw [List.flatMap_cons, receive_ok _ _ _ (readFrame_bytes packet _), ih]

theorem readFrame_cut (packet : Packet) (cut : List UInt8) (part : cut <+: packet.bytes)
    (short : cut.length < packet.bytes.length) : readFrame cut = .error .endOfStream := by
  rw [Packet.bytes_length] at short
  let header := writeU16BE (totalLength packet.payload.length) ++ writeU16BE packet.packetId
  by_cases whole : header.length ≤ cut.length
  · obtain ⟨more, rfl⟩ := List.prefix_of_prefix_length_le (List.prefix_append header packet.payload)
      part whole
    have length := packet.totalLength_exact
    have missing : ¬(totalLength packet.payload.length).toNat - headerSize ≤ more.length := by
      simp only [header, List.length_append, writeU16BE_length] at short
      unfold headerSize at *
      omega
    rw [readFrame_header, readPayload,
      dif_pos (by rw [length]; exact ⟨Nat.le_add_right _ _, packet.fits⟩)]
    exact if_neg missing
  · simp only [header, List.length_append, writeU16BE_length] at whole
    match cut, whole with
    | [], _ => rfl
    | [_], _ => rfl
    | [_, _], _ => rfl
    | [_, _, _], _ => rfl
    | _ :: _ :: _ :: _ :: _, whole => simp at whole

theorem receive_cut (packets : List Packet) (stream : List UInt8)
    (part : stream <+: packets.flatMap Packet.bytes) :
    (receive stream).delivered <+: packets ∧ (receive stream).stop = .endOfStream := by
  induction packets generalizing stream with
  | nil =>
      obtain rfl := List.prefix_nil.mp part
      rw [receive_error [] .endOfStream rfl]
      exact ⟨List.prefix_rfl, rfl⟩
  | cons packet rest ih =>
      rw [List.flatMap_cons] at part
      by_cases whole : packet.bytes.length ≤ stream.length
      · obtain ⟨more, rfl⟩ :=
          List.prefix_of_prefix_length_le (List.prefix_append packet.bytes _) part whole
        obtain ⟨delivered, stopped⟩ := ih more ((List.prefix_append_right_inj _).mp part)
        rw [receive_ok _ _ _ (readFrame_bytes packet more)]
        exact ⟨(List.prefix_cons_inj packet).mpr delivered, stopped⟩
      · have short : stream.length < packet.bytes.length := by omega
        have inside := List.prefix_of_prefix_length_le part (List.prefix_append packet.bytes _)
          (Nat.le_of_lt short)
        rw [receive_error _ _ (readFrame_cut packet stream inside short)]
        exact ⟨List.nil_prefix, rfl⟩

theorem receive_consumed (stream : List UInt8) :
    stream = (receive stream).delivered.flatMap Packet.bytes ++ (receive stream).rest ∧
      (receive stream).stop.Leaves (receive stream).rest := by
  induction stream using receive.induct with
  | case1 stream stop read =>
      rw [receive_error stream stop read]
      exact ⟨rfl, readFrame_error stream stop read⟩
  | case2 stream packet rest read ih =>
      obtain ⟨consumed, left⟩ := ih
      rw [receive_ok stream rest packet read]
      refine ⟨?_, left⟩
      rw [List.flatMap_cons, List.append_assoc, ← consumed]
      exact readFrame_ok stream rest packet read

/-- The loop reads back the frames of `Send`, and delivers nothing but frames `Send` could have
built, from the front of the stream up to the first malformed or unfinished one. -/
theorem framing_round_trip (packets : List Packet) (stream : List UInt8) :
    (encodeAll packets).map receive = some ⟨packets, [], .endOfStream⟩ ∧
      (encodeAll (receive stream).delivered).map (· ++ (receive stream).rest) = some stream ∧
      (receive stream).stop.Leaves (receive stream).rest := by
  obtain ⟨consumed, left⟩ := receive_consumed stream
  refine ⟨?_, ?_, left⟩
  · rw [encodeAll_eq, Option.map_some, receive_bytes]
  · rw [encodeAll_eq, Option.map_some, ← consumed]

-- A frame, and a header whose length field is too small.
example : (receive [0, 5, 0, 1, 9, 0, 3, 0, 2]).delivered.map (·.payload) = [[9]] := by
  rw [receive_ok _ [0, 3, 0, 2] ⟨1, [9], by decide⟩ rfl, receive_error _ .badLength rfl]
  rfl

end MundusVivens.Network
