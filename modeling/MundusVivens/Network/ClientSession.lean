import MundusVivens.Shared.Bytes

set_option autoImplicit false

/-!
# Outgoing packets

A packet is a 4-byte header (total length and packet id, both big-endian) and a
protobuf payload. `send` assembles it in a `PacketBuffer`; `WriteLoop` later
writes the first `size` bytes of that buffer to the socket.
-/

namespace MundusVivens.Network

open Bytes

def headerSize : Nat := 4
def maxPacketSize : Nat := 65535

-- Bytes a `PacketBuffer` holds without a heap allocation.
def inlineCapacity : Nat := 256

-- `data` is the union of the source: `inline_data`, or the block behind `heap_data`.
structure PacketBuffer where
  size : UInt32
  isHeap : Bool
  data : List UInt8
  inline_capacity : isHeap = false → data.length = inlineCapacity
  heap_capacity : isHeap = true → data.length = size.toNat

-- `static_cast<uint16_t>(HEADER_SIZE + size)`.
def totalLength (size : Nat) : UInt16 := UInt16.ofNat (headerSize + size)

@[simp] theorem totalLength_toNat (size : Nat) :
    (totalLength size).toNat = (headerSize + size) % 65536 := rfl

-- The buffer `Send` chooses for a packet of `total` bytes.
def PacketBuffer.acquire (total : UInt16) : PacketBuffer :=
  if total ≤ 256 then
    { size := total.toUInt32
      isHeap := false
      data := List.replicate inlineCapacity 0
      inline_capacity := by simp
      heap_capacity := by simp }
  else
    { size := total.toUInt32
      isHeap := true
      data := List.replicate total.toNat 0
      inline_capacity := by simp
      heap_capacity := by simp }

@[simp] theorem PacketBuffer.acquire_size (total : UInt16) :
    (PacketBuffer.acquire total).size = total.toUInt32 := by
  unfold PacketBuffer.acquire
  split <;> rfl

theorem PacketBuffer.acquire_capacity (total : UInt16) :
    (PacketBuffer.acquire total).data.length =
      if total.toNat ≤ inlineCapacity then inlineCapacity else total.toNat := by
  have inline : total ≤ 256 ↔ total.toNat ≤ inlineCapacity := UInt16.le_iff_toNat_le
  unfold PacketBuffer.acquire
  by_cases small : total ≤ 256
  next => simp [small, inline.mp small]
  next =>
    rw [if_neg (fun fits => small (inline.mpr fits))]
    simp [small]

-- `memcpy` into the buffer; no result when the bytes do not fit.
def PacketBuffer.memcpy (buffer : PacketBuffer) (offset : Nat) (source : List UInt8) :
    Option PacketBuffer :=
  match copied : overwrite buffer.data offset source with
  | none => none
  | some written =>
      some
        { size := buffer.size
          isHeap := buffer.isHeap
          data := written
          inline_capacity := fun inline =>
            (overwrite_length _ _ _ _ copied).trans (buffer.inline_capacity inline)
          heap_capacity := fun heap =>
            (overwrite_length _ _ _ _ copied).trans (buffer.heap_capacity heap) }

theorem PacketBuffer.memcpy_some (buffer written : PacketBuffer) (offset : Nat)
    (source : List UInt8) (copied : buffer.memcpy offset source = some written) :
    overwrite buffer.data offset source = some written.data ∧ written.size = buffer.size := by
  unfold PacketBuffer.memcpy at copied
  split at copied
  next => cases copied
  next data result =>
    obtain rfl := Option.some.inj copied
    exact ⟨result, rfl⟩

theorem PacketBuffer.memcpy_isSome (buffer : PacketBuffer) (offset : Nat) (source : List UInt8) :
    (buffer.memcpy offset source).isSome ↔ offset + source.length ≤ buffer.data.length := by
  rw [← overwrite_isSome]
  unfold PacketBuffer.memcpy
  split <;> simp_all

-- `ClientSession::Send` up to the hand-over to the write channel.
def send (packetId : UInt16) (payload : List UInt8) : Option PacketBuffer := do
  let total := totalLength payload.length
  let buffer ← (PacketBuffer.acquire total).memcpy 0 (writeU16BE total)
  let buffer ← buffer.memcpy 2 (writeU16BE packetId)
  -- A null or empty payload skips the last copy.
  if payload.isEmpty then some buffer else buffer.memcpy headerSize payload

theorem PacketBuffer.memcpy_isHeap (buffer written : PacketBuffer) (offset : Nat)
    (source : List UInt8) (copied : buffer.memcpy offset source = some written) :
    written.isHeap = buffer.isHeap := by
  unfold PacketBuffer.memcpy at copied
  split at copied
  next => cases copied
  next =>
    obtain rfl := Option.some.inj copied
    rfl

theorem send_isHeap (packetId : UInt16) (payload : List UInt8) (buffer : PacketBuffer)
    (sent : send packetId payload = some buffer) :
    buffer.isHeap = decide (inlineCapacity < (totalLength payload.length).toNat) := by
  have acquired : (PacketBuffer.acquire (totalLength payload.length)).isHeap =
      decide (inlineCapacity < (totalLength payload.length).toNat) := by
    have inline : totalLength payload.length ≤ 256 ↔
        (totalLength payload.length).toNat ≤ inlineCapacity := UInt16.le_iff_toNat_le
    unfold PacketBuffer.acquire
    split
    next small => exact (decide_eq_false (Nat.not_lt.mpr (inline.mp small))).symm
    next large =>
      exact (decide_eq_true (Nat.lt_of_not_le fun fits => large (inline.mpr fits))).symm
  simp only [send, Option.bind_eq_bind, Option.bind_eq_some_iff] at sent
  obtain ⟨one, first, two, second, last⟩ := sent
  have both : two.isHeap = (PacketBuffer.acquire (totalLength payload.length)).isHeap :=
    (PacketBuffer.memcpy_isHeap _ _ _ _ second).trans (PacketBuffer.memcpy_isHeap _ _ _ _ first)
  split at last
  next =>
    obtain rfl := Option.some.inj last
    exact both.trans acquired
  next => exact (PacketBuffer.memcpy_isHeap _ _ _ _ last).trans (both.trans acquired)

-- What `WriteLoop` writes to the socket.
def PacketBuffer.frame (buffer : PacketBuffer) : List UInt8 :=
  buffer.data.take buffer.size.toNat

def PacketBuffer.lengthField (buffer : PacketBuffer) : Option UInt16 :=
  match buffer.data with
  | high :: low :: _ => some (readU16BE high low)
  | _ => none

-- The code that hands packets to `Send`.
inductive Sender where
  | sendProto
  | broadcastProto
  | agentStatusReply
  | heartbeatAck
deriving DecidableEq

-- The size check each sender makes before the packet reaches `Send`.
def Sender.admits : Sender → Nat → Bool
  | .sendProto, size => decide (size ≤ maxPacketSize)
  | .broadcastProto, size => decide (size ≤ maxPacketSize)
  -- The reply is serialised into a string and passed to `SendTo` unchecked.
  | .agentStatusReply, _ => true
  | .heartbeatAck, size => decide (size = 0)

structure OutPacket where
  sender : Sender
  packetId : UInt16
  payload : List UInt8
  admitted : sender.admits payload.length = true

def OutPacket.bytesWritten (packet : OutPacket) : Nat := headerSize + packet.payload.length

structure OutPacket.LengthsAgree (packet : OutPacket) : Prop where
  unwrapped : (totalLength packet.payload.length).toNat = packet.bytesWritten
  room : packet.bytesWritten ≤
    (PacketBuffer.acquire (totalLength packet.payload.length)).data.length
  announced : ∃ buffer, send packet.packetId packet.payload = some buffer ∧
    buffer.size.toNat = packet.bytesWritten ∧
    buffer.lengthField.map UInt16.toNat = some packet.bytesWritten

theorem send_steps (packetId : UInt16) (payload : List UInt8) (buffer : PacketBuffer)
    (sent : send packetId payload = some buffer) :
    ∃ first second, overwrite (PacketBuffer.acquire (totalLength payload.length)).data 0
        (writeU16BE (totalLength payload.length)) = some first ∧
      overwrite first 2 (writeU16BE packetId) = some second ∧
      (payload = [] ∧ buffer.data = second ∨
        payload ≠ [] ∧ overwrite second headerSize payload = some buffer.data) ∧
      buffer.size = (totalLength payload.length).toUInt32 := by
  simp only [send, Option.bind_eq_bind, Option.bind_eq_some_iff] at sent
  obtain ⟨one, first, two, second, last⟩ := sent
  obtain ⟨first, firstSize⟩ := PacketBuffer.memcpy_some _ _ _ _ first
  obtain ⟨second, secondSize⟩ := PacketBuffer.memcpy_some _ _ _ _ second
  rw [PacketBuffer.acquire_size] at firstSize
  refine ⟨one.data, two.data, first, second, ?_⟩
  cases payload with
  | nil =>
    obtain rfl := Option.some.inj last
    exact ⟨.inl ⟨rfl, rfl⟩, secondSize.trans firstSize⟩
  | cons byte rest =>
    obtain ⟨third, thirdSize⟩ := PacketBuffer.memcpy_some _ _ _ _ last
    exact ⟨.inr ⟨List.cons_ne_nil _ _, third⟩, thirdSize.trans (secondSize.trans firstSize)⟩

theorem PacketBuffer.memcpy_fits (buffer : PacketBuffer) (offset : Nat) (source : List UInt8)
    (fits : offset + source.length ≤ buffer.data.length) :
    ∃ written, buffer.memcpy offset source = some written ∧
      written.data.length = buffer.data.length := by
  obtain ⟨written, copied⟩ := Option.isSome_iff_exists.mp ((buffer.memcpy_isSome offset source).mpr fits)
  exact ⟨written, copied, overwrite_length _ _ _ _ (buffer.memcpy_some _ _ _ copied).1⟩

theorem send_isSome (packetId : UInt16) (payload : List UInt8) :
    (send packetId payload).isSome ↔
      headerSize + payload.length ≤
        (PacketBuffer.acquire (totalLength payload.length)).data.length := by
  constructor
  next =>
    intro defined
    obtain ⟨buffer, sent⟩ := Option.isSome_iff_exists.mp defined
    obtain ⟨first, second, lengthWritten, idWritten, last, -⟩ := send_steps packetId payload buffer sent
    have secondSize := overwrite_length _ _ _ _ idWritten
    rw [← overwrite_length _ _ _ _ lengthWritten, ← secondSize]
    rcases last with ⟨rfl, -⟩ | ⟨-, copied⟩
    next =>
      have fits := (overwrite_isSome first 2 (writeU16BE packetId)).mp (by simp [idWritten])
      simpa [secondSize, headerSize] using fits
    next => exact (overwrite_isSome second headerSize payload).mp (by simp [copied])
  next =>
    intro fits
    unfold headerSize at fits
    obtain ⟨one, lengthWritten, oneSize⟩ := PacketBuffer.memcpy_fits
      (PacketBuffer.acquire (totalLength payload.length)) 0 (writeU16BE (totalLength payload.length))
      (by rw [writeU16BE_length]; omega)
    obtain ⟨two, idWritten, twoSize⟩ := one.memcpy_fits 2 (writeU16BE packetId)
      (by rw [writeU16BE_length]; omega)
    simp only [send, Option.bind_eq_bind, lengthWritten, idWritten, Option.bind_some]
    split
    next => rfl
    next => exact (two.memcpy_isSome headerSize payload).mpr (by unfold headerSize; omega)

theorem send_contents (packetId : UInt16) (payload : List UInt8) (buffer : PacketBuffer)
    (sent : send packetId payload = some buffer) :
    buffer.data.take (headerSize + payload.length) =
      writeU16BE (totalLength payload.length) ++ writeU16BE packetId ++ payload := by
  obtain ⟨first, second, lengthWritten, idWritten, last, -⟩ := send_steps packetId payload buffer sent
  have one := overwrite_extends _ [] first _ 0 lengthWritten rfl rfl
  have two := overwrite_extends first _ second _ 2 idWritten one rfl
  rcases last with ⟨rfl, data⟩ | ⟨-, copied⟩
  next => simpa [data, headerSize] using two
  next => exact overwrite_extends second _ buffer.data _ headerSize copied two rfl

theorem PacketBuffer.lengthField_of_prefix (buffer : PacketBuffer) (size : Nat) (value : UInt16)
    (rest : List UInt8) (contents : buffer.data.take size = writeU16BE value ++ rest) :
    buffer.lengthField = some value := by
  unfold PacketBuffer.lengthField
  match buffer.data, contents with
  | [], contents => simp [writeU16BE] at contents
  | [byte], contents =>
    have short := congrArg List.length contents
    simp [writeU16BE] at short
    omega
  | high :: low :: tail, contents =>
    match size with
    | 0 => simp [writeU16BE] at contents
    | 1 => simp [writeU16BE] at contents
    | size + 2 =>
      simp only [List.take_succ_cons, writeU16BE, List.cons_append, List.nil_append,
        List.cons.injEq] at contents
      obtain ⟨rfl, rfl, -⟩ := contents
      exact congrArg some (readU16BE_writeU16BE value)

theorem send_frame (packetId : UInt16) (payload : List UInt8)
    (fits : headerSize + payload.length ≤ maxPacketSize) :
    ∃ buffer, send packetId payload = some buffer ∧
      buffer.size.toNat = headerSize + payload.length ∧
      buffer.frame = writeU16BE (totalLength payload.length) ++ writeU16BE packetId ++ payload := by
  unfold maxPacketSize at fits
  have unwrapped : (totalLength payload.length).toNat = headerSize + payload.length := by
    rw [totalLength_toNat, Nat.mod_eq_of_lt (by omega)]
  have room : headerSize + payload.length ≤
      (PacketBuffer.acquire (totalLength payload.length)).data.length := by
    rw [PacketBuffer.acquire_capacity, unwrapped]
    split <;> omega
  obtain ⟨buffer, sent⟩ := Option.isSome_iff_exists.mp ((send_isSome packetId payload).mpr room)
  obtain ⟨-, -, -, -, -, size⟩ := send_steps packetId payload buffer sent
  have size : buffer.size.toNat = headerSize + payload.length := by
    rw [size, UInt16.toNat_toUInt32, unwrapped]
  refine ⟨buffer, sent, size, ?_⟩
  rw [PacketBuffer.frame, size]
  exact send_contents packetId payload buffer sent

/-- Lengths and buffer agree exactly for packets that fit the 16-bit length field. -/
theorem lengths_agree_iff (packet : OutPacket) :
    packet.LengthsAgree ↔ packet.payload.length ≤ maxPacketSize - headerSize := by
  constructor
  next =>
    intro agree
    have unwrapped := agree.unwrapped
    rw [totalLength_toNat] at unwrapped
    unfold OutPacket.bytesWritten at unwrapped
    have bound := Nat.mod_lt (headerSize + packet.payload.length) (show 0 < 65536 by decide)
    unfold maxPacketSize headerSize at *
    omega
  next =>
    intro short
    have fits : headerSize + packet.payload.length ≤ maxPacketSize := by
      unfold maxPacketSize headerSize at *
      omega
    obtain ⟨buffer, sent, size, -⟩ := send_frame packet.packetId packet.payload fits
    have unwrapped : (totalLength packet.payload.length).toNat = packet.bytesWritten := by
      rw [totalLength_toNat]
      exact Nat.mod_eq_of_lt (by unfold maxPacketSize at fits; omega)
    refine ⟨unwrapped, ?_, buffer, sent, size, ?_⟩
    next => exact (send_isSome packet.packetId packet.payload).mp (by simp [sent])
    next =>
      have field := buffer.lengthField_of_prefix _ _ _
        ((send_contents packet.packetId packet.payload buffer sent).trans (List.append_assoc _ _ _))
      simp [field, unwrapped]

-- A payload `SendProto` admits, four bytes too long for the length field.
def oversizedPacket : OutPacket where
  sender := .sendProto
  packetId := 0x1002
  payload := List.replicate 65532 0
  admitted := by rw [List.length_replicate]; decide

-- The header announces 0 bytes and `Send` copies 65536 into the 256 inline ones.
theorem oversizedPacket_disagrees :
    ¬ oversizedPacket.LengthsAgree ∧
      (totalLength oversizedPacket.payload.length).toNat = 0 ∧
      send oversizedPacket.packetId oversizedPacket.payload = none := by
  have size : oversizedPacket.payload.length = 65532 := List.length_replicate
  refine ⟨?_, ?_, ?_⟩
  next =>
    intro agree
    have unwrapped := agree.unwrapped
    rw [totalLength_toNat, OutPacket.bytesWritten, size] at unwrapped
    exact absurd unwrapped (by decide)
  next => rw [totalLength_toNat, size]; decide
  next =>
    apply Option.not_isSome_iff_eq_none.mp
    rw [send_isSome, PacketBuffer.acquire_capacity, totalLength_toNat, size]
    decide

end MundusVivens.Network
