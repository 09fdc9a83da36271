import Brickd.Pearson
import Brickd.Slave

/-!
One exchange on the SPI bus, `red_stack_spi_transceive_message`: the frame it clocks
out, the `SPI_IOC_MESSAGE` transfer, and the checks on the frame clocked in, with the
return value as the bit field of `RED_STACK_TRANSCEIVE_*` flags the callers test.
The bus is the environment: a `Transfer` is any ioctl result and any 84 received bytes.

Against it stand the frame codec the function implements: `CarriesPayload` says which
frame carries a payload, `sendPlan` which payload is sent, `FrameAccepted` which received
frames deliver a packet and `decodeFrame` what is made of them. The spec lemmas below say what the function does on every input, and that it
never reads or writes outside its arrays.
-/
namespace Brickd.RedStack

/-- `RED_STACK_SPI_PACKET_SIZE`. -/
def spiPacketSize : Nat := 84

/-- `RED_STACK_SPI_PACKET_EMPTY_SIZE`. -/
def spiPacketEmptySize : Nat := 4

/-- `RED_STACK_SPI_PREAMBLE_VALUE`. -/
def spiPreambleValue : UInt8 := 0xAA

/-- `RED_STACK_SPI_PREAMBLE`. -/
@[simp] def spiPreamble : Nat := 0

/-- `RED_STACK_SPI_LENGTH`. -/
@[simp] def spiLength : Nat := 1

/-- `RED_STACK_SPI_INFO(length)`. -/
@[simp] def spiInfo (length : Nat) : Nat := length - 2

/-- `RED_STACK_SPI_CHECKSUM(length)`. -/
@[simp] def spiChecksum (length : Nat) : Nat := length - 1

/-- `RED_STACK_SPI_INFO_BUSY`. -/
@[simp] def spiInfoBusy : UInt8 := (1 : UInt8) <<< 0

/-- `RED_STACK_TRANSCEIVE_DATA_SEND`. -/
def transceiveDataSend : Nat := 1 <<< 8

/-- `RED_STACK_TRANSCEIVE_DATA_RECEIVED`. -/
def transceiveDataReceived : Nat := 1 <<< 7

/-- `RED_STACK_TRANSCEIVE_RESULT_SEND_ERROR`. -/
def transceiveResultSendError : Nat := 1 <<< 0

/-- `RED_STACK_TRANSCEIVE_RESULT_SEND_NONE`. -/
def transceiveResultSendNone : Nat := 3 <<< 0

/-- `RED_STACK_TRANSCEIVE_RESULT_SEND_OK`. -/
def transceiveResultSendOk : Nat := 4 <<< 0

/-- `RED_STACK_TRANSCEIVE_RESULT_READ_ERROR`. -/
def transceiveResultReadError : Nat := 1 <<< 3

/-- `RED_STACK_TRANSCEIVE_RESULT_READ_NONE`. -/
def transceiveResultReadNone : Nat := 2 <<< 3

/-- `RED_STACK_TRANSCEIVE_RESULT_READ_OK`. -/
def transceiveResultReadOk : Nat := 3 <<< 3

/-- One `SPI_IOC_MESSAGE(1)` ioctl as the bus answers it: the ioctl's return value and
the 84 bytes clocked into `rx`. -/
structure Transfer where
  ret : Int
  rx : Buf 84

/-- `length_send`, the ioctl's return value stored in a `uint8_t`. -/
def Transfer.lengthSend (x : Transfer) : Nat := (x.ret % 256).toNat

/-- What one call leaves behind: the return value, `*packet_recv`, `slave->status`,
and the frame clocked out (`none` when the call returned before selecting the slave). -/
structure Transceived where
  retval : Nat
  packetRecv : Packet
  status : REDStackSlaveStatus
  tx : Option (Buf 84)

/-- Lines 245–266: the length byte and payload of the frame, and the send half of the
return value. `none` stands for the two `goto ret` branches, an oversized request and a
request for an absent slave, which return `SEND_ERROR` before the exchange. -/
def spiTxHead : Option Packet → REDStackSlaveStatus → Buf 84 → Mem (Nat × Option (Buf 84))
  | some p, .available, tx =>
    if p.headerLength.toNat > sizeofPacket then pure (transceiveResultSendError, none)
    else do
      let tx ← tx.write spiLength (p.headerLength + spiPacketEmptySize.toUInt8)
      let tx ← tx.copy 2 p 0 p.headerLength.toNat
      pure (transceiveDataSend ||| transceiveResultSendOk, some tx)
  | some _, .absent, _ => pure (transceiveResultSendError, none)
  | _, _, tx => do
    let tx ← tx.write spiLength 4
    pure (transceiveResultSendNone, some tx)

/-- Lines 268–273: the info byte (the master is never busy) and the checksum. -/
def spiTxTail (tx : Buf 84) : Mem (Buf 84) := do
  let length ← tx.read spiLength
  let tx ← tx.write (spiInfo length.toNat) 0
  let checksum ← spiCalculatePearsonHash tx (length.toNat - 1)
  tx.write (spiChecksum length.toNat) checksum

/-- `slave->status` after a frame with info byte `info` passed the checks. -/
def statusOfInfo (info : UInt8) : REDStackSlaveStatus :=
  if info &&& spiInfoBusy ≠ 0 then .availableBusy else .available

/-- Lines 293–342: the checks on the frame clocked in, given the return value so far;
the new return value, `*packet_recv` and `slave->status`. -/
def spiRxFrame (rx : Buf 84) (retval : Nat) (packetRecv : Packet)
    (status : REDStackSlaveStatus) : Mem (Nat × Packet × REDStackSlaveStatus) := do
  let preamble ← rx.read spiPreamble
  if preamble ≠ spiPreambleValue then
    if preamble = 0 then pure (retval ||| transceiveResultReadNone, packetRecv, status)
    else pure (retval ||| transceiveResultReadError, packetRecv, status)
  else do
    let length ← rx.read spiLength
    if length.toNat < spiPacketEmptySize + sizeofPacketHeader ∨ length.toNat > spiPacketSize then
      pure (retval ||| transceiveResultReadError, packetRecv, status)
    else do
      let checksum ← spiCalculatePearsonHash rx (length.toNat - 1)
      let expected ← rx.read (spiChecksum length.toNat)
      if checksum ≠ expected then pure (retval ||| transceiveResultReadError, packetRecv, status)
      else do
        let info ← rx.read (spiInfo length.toNat)
        let status := statusOfInfo info
        if length.toNat = spiPacketEmptySize then
          pure (retval ||| transceiveResultReadNone, packetRecv, status)
        else do
          let packetRecv ← packetRecv.copy 0 rx 2 (length.toNat - spiPacketEmptySize)
          pure (retval ||| transceiveResultReadOk ||| transceiveDataReceived, packetRecv, status)

/-- Lines 242–273: the frame to clock out and the send half of the return value;
`none` when the call returns `SEND_ERROR` before the exchange. -/
def spiTxFrame (packetSend : Option Packet) (status : REDStackSlaveStatus) :
    Mem (Nat × Option (Buf 84)) := do
  let tx ← (Buf.zero spiPacketSize).write spiPreamble spiPreambleValue
  let head ← spiTxHead packetSend status tx
  match head.2 with
  | none => pure (head.1, none)
  | some tx => do
    let tx ← spiTxTail tx
    pure (head.1, some tx)

/-- `red_stack_spi_transceive_message(packet_send, packet_recv, slave)` with the slave's
status `status`, on a bus that answers the transfer with `xfer`. -/
def spiTransceiveMessage (packetSend : Option Packet) (packetRecv : Packet)
    (status : REDStackSlaveStatus) (xfer : Transfer) : Mem Transceived := do
  let packetRecv := packetRecv.setHeaderLength 0
  let frame ← spiTxFrame packetSend status
  match frame.2 with
  | none => pure ⟨frame.1, packetRecv, status, none⟩
  | some tx =>
    if xfer.lengthSend ≠ spiPacketSize then
      pure ⟨transceiveResultSendError ||| transceiveResultReadError, packetRecv, status, some tx⟩
    else do
      let rx ← spiRxFrame xfer.rx frame.1 packetRecv status
      pure ⟨rx.1, rx.2.1, rx.2.2, some tx⟩

/-! ### The frame codec -/

/-- A frame the function takes a packet from: the preamble, a length from 12 to 84, and
the Pearson hash of the bytes before the checksum. -/
def FrameAccepted (rx : Buf 84) : Prop :=
  rx.get 0 = spiPreambleValue ∧ 12 ≤ (rx.get 1).toNat ∧ (rx.get 1).toNat ≤ 84 ∧
    rx.get ((rx.get 1).toNat - 1) = pearsonHash (rx.slice 0 ((rx.get 1).toNat - 1))

instance (rx : Buf 84) : Decidable (FrameAccepted rx) :=
  inferInstanceAs (Decidable (_ ∧ _ ∧ _ ∧ _))

/-- What `spiRxFrame` makes of a frame. -/
def decodeFrame (rx : Buf 84) (retval : Nat) (recv : Packet) (status : REDStackSlaveStatus) :
    Nat × Packet × REDStackSlaveStatus :=
  if FrameAccepted rx then
    (retval ||| transceiveResultReadOk ||| transceiveDataReceived,
      (recv.copy 0 rx 2 ((rx.get 1).toNat - 4)).val, statusOfInfo (rx.get ((rx.get 1).toNat - 2)))
  else
    (retval ||| if rx.get 0 = 0 then transceiveResultReadNone else transceiveResultReadError,
      recv, status)

/-- The checks on the frame clocked in compute `decodeFrame` and stay inside `rx`: the
length check bounds every index read from the length byte. -/
theorem spiRxFrame_eq (rx : Buf 84) (retval : Nat) (recv : Packet) (status : REDStackSlaveStatus) :
    spiRxFrame rx retval recv status = ⟨decodeFrame rx retval recv status, false⟩ := by
  rw [Mem.eq_mk_iff]
  unfold spiRxFrame decodeFrame FrameAccepted
  simp only [Mem.val_bind, Mem.outside_bind, Mem.val_ite, Mem.outside_ite, Mem.val_pure,
    Mem.outside_pure, Buf.val_read, Buf.outside_read, Buf.outside_copy,
    spiCalculatePearsonHash_val, spiCalculatePearsonHash_outside, spiPreamble, spiLength,
    spiChecksum, spiInfo, spiPreambleValue, spiPacketEmptySize, sizeofPacketHeader, spiPacketSize]
  by_cases hp : rx.get 0 = 0xAA
  · by_cases hl : 12 ≤ (rx.get 1).toNat ∧ (rx.get 1).toNat ≤ 84
    · have h4 : (rx.get 1).toNat ≠ 4 := by omega
      have hl' : ¬((rx.get 1).toNat < 12 ∨ 84 < (rx.get 1).toNat) := by omega
      by_cases hc : rx.get ((rx.get 1).toNat - 1) = pearsonHash (rx.slice 0 ((rx.get 1).toNat - 1))
      · simp [hp, hl, hl', hc, h4]
        omega
      · simp [hp, hl, hl', hc, Ne.symm hc]
        omega
    · have : (rx.get 1).toNat < 12 ∨ 84 < (rx.get 1).toNat := by omega
      simp [hp, this, if_neg (fun h : _ ∧ _ ∧ _ => hl ⟨h.1, h.2.1⟩)]
  · by_cases hz : rx.get 0 = 0 <;> simp [hp, hz]

theorem spiRxFrame_val (rx : Buf 84) (retval : Nat) (recv : Packet) (status : REDStackSlaveStatus) :
    (spiRxFrame rx retval recv status).val = decodeFrame rx retval recv status := by
  rw [spiRxFrame_eq]

theorem spiRxFrame_outside (rx : Buf 84) (retval : Nat) (recv : Packet)
    (status : REDStackSlaveStatus) : (spiRxFrame rx retval recv status).outside = false := by
  rw [spiRxFrame_eq]

/-- `tx` is the frame that carries `payload`: the preamble, the length `payload.length + 4`,
the payload, info byte 0, the Pearson hash of the bytes before it, and zeros after it.
The frame that carries `[]` is the poll-only frame. -/
structure CarriesPayload (tx : Buf 84) (payload : List UInt8) : Prop where
  preamble : tx.get 0 = spiPreambleValue
  length : (tx.get 1).toNat = payload.length + 4
  body : tx.slice 2 payload.length = payload
  info : tx.get (payload.length + 2) = 0
  checksum : tx.get (payload.length + 3) = pearsonHash (tx.slice 0 (payload.length + 3))
  zeros : ∀ i, payload.length + 4 ≤ i → tx.get i = 0

/-- The send decision: the send half of the return value, and the payload of the frame
clocked out (`[]` for a poll-only frame), or `none` when the request is refused. -/
def sendPlan : Option Packet → REDStackSlaveStatus → Nat × Option (List UInt8)
  | some p, .available =>
    if p.headerLength.toNat > sizeofPacket then (transceiveResultSendError, none)
    else (transceiveDataSend ||| transceiveResultSendOk, some (p.slice 0 p.headerLength.toNat))
  | some _, .absent => (transceiveResultSendError, none)
  | _, _ => (transceiveResultSendNone, some [])

/-- The info byte and checksum written by `spiTxTail` complete a frame whose preamble,
length and payload are in place and whose other bytes are zero. -/
theorem spiTxTail_carries (tx : Buf 84) (payload : List UInt8) (hlen : payload.length ≤ 80)
    (h0 : tx.get 0 = spiPreambleValue) (h1 : (tx.get 1).toNat = payload.length + 4)
    (hbody : tx.slice 2 payload.length = payload)
    (hz : ∀ i, payload.length + 2 ≤ i → tx.get i = 0) :
    CarriesPayload (spiTxTail tx).val payload ∧ (spiTxTail tx).outside = false := by
  set L := payload.length
  have hL3 : (tx.get 1).toNat - 1 = L + 3 := by omega
  have hL2 : (tx.get 1).toNat - 2 = L + 2 := by omega
  simp only [spiTxTail, Mem.val_bind, Mem.outside_bind, Buf.val_read, Buf.outside_read,
    Buf.val_write, Buf.outside_write, spiCalculatePearsonHash_outside, spiCalculatePearsonHash_val,
    spiInfo, spiChecksum, spiLength, hL3, hL2]
  set tx3 := tx.set (L + 2) 0
  have h3 : ∀ i, i ≠ L + 3 → (tx3.set (L + 3) (pearsonHash (tx3.slice 0 (L + 3)))).get i =
      tx3.get i := fun i hi => Buf.get_set_ne _ _ (Ne.symm hi)
  refine ⟨⟨?_, ?_, ?_, ?_, ?_, ?_⟩, by simp; omega⟩
  · rw [h3 0 (by omega), Buf.get_set_ne _ _ (by omega), h0]
  · rw [h3 1 (by omega), Buf.get_set_ne _ _ (by omega), h1]
  · refine Eq.trans (Buf.slice_congr fun k hk => ?_) hbody
    rw [h3 _ (by omega), Buf.get_set_ne _ _ (by omega)]
  · rw [h3 _ (by omega), Buf.get_set_self _ _ (by omega)]
  · rw [Buf.get_set_self _ _ (by omega)]
    refine congrArg pearsonHash (Buf.slice_congr fun k hk => ?_)
    exact (h3 _ (by omega)).symm
  · intro i hi
    rw [h3 i (by omega), Buf.get_set_ne _ _ (by omega), hz i (by omega)]

private theorem head_poll_carries :
    let tx := ((Buf.zero 84).set 0 spiPreambleValue).set 1 4
    tx.get 0 = spiPreambleValue ∧ (tx.get 1).toNat = ([] : List UInt8).length + 4 ∧
      tx.slice 2 ([] : List UInt8).length = [] ∧
      ∀ i, ([] : List UInt8).length + 2 ≤ i → tx.get i = 0 := by
  refine ⟨by decide, by decide, rfl, fun i hi => ?_⟩
  simp only [List.length_nil] at hi
  rw [Buf.get_set_ne _ _ (by omega), Buf.get_set_ne _ _ (by omega), Buf.get_zero]

private theorem head_data_carries (p : Packet) (h : p.headerLength.toNat ≤ 80) :
    let tx := (((Buf.zero 84).set 0 spiPreambleValue).set 1
      (p.headerLength + spiPacketEmptySize.toUInt8)).copy 2 p 0 p.headerLength.toNat
    tx.val.get 0 = spiPreambleValue ∧
      (tx.val.get 1).toNat = (p.slice 0 p.headerLength.toNat).length + 4 ∧
      tx.val.slice 2 (p.slice 0 p.headerLength.toNat).length = p.slice 0 p.headerLength.toNat ∧
      (∀ i, (p.slice 0 p.headerLength.toNat).length + 2 ≤ i → tx.val.get i = 0) ∧
      tx.outside = false := by
  simp only [Buf.length_slice]
  refine ⟨?_, ?_, Buf.slice_congr fun k hk => ?_, fun i hi => ?_, by simp; omega⟩
  · rw [Buf.get_copy _ _ _ _ _ _ (by omega), if_neg (by omega), Buf.get_set_ne _ _ (by omega),
      Buf.get_set_self _ _ (by omega)]
  · rw [Buf.get_copy _ _ _ _ _ _ (by omega), if_neg (by omega), Buf.get_set_self _ _ (by omega),
      uint8_toNat_add]
    have h4 : (Nat.toUInt8 4).toNat = 4 := rfl
    simp only [spiPacketEmptySize, h4, Buf.length_slice]
    omega
  · rw [Buf.get_copy _ _ _ _ _ _ (by omega), if_pos (by omega)]
    congr 1
    omega
  · by_cases hi' : i < 84
    · rw [Buf.get_copy _ _ _ _ _ _ hi', if_neg (by omega), Buf.get_set_ne _ _ (by omega),
        Buf.get_set_ne _ _ (by omega), Buf.get_zero]
    · simp only [Buf.get, List.getD_eq_getElem?_getD]
      rw [List.getElem?_eq_none (by simpa [Buf.length_eq] using hi')]
      rfl

/-- What the call clocks out: nothing when it refuses the request, else the frame that
carries the payload `sendPlan` names; the send half of the return value is the plan's,
and no access leaves its array. -/
theorem spiTxFrame_spec (packetSend : Option Packet) (status : REDStackSlaveStatus) :
    (spiTxFrame packetSend status).val.1 = (sendPlan packetSend status).1 ∧
      Option.Rel CarriesPayload (spiTxFrame packetSend status).val.2
        (sendPlan packetSend status).2 ∧
      (spiTxFrame packetSend status).outside = false := by
  obtain ⟨h0, h1, hb, hz⟩ := head_poll_carries
  obtain ⟨hc, ho⟩ := spiTxTail_carries _ [] (by simp) h0 h1 hb hz
  have poll := And.intro (Option.Rel.some hc) ho
  rcases packetSend with _ | p
  · cases status <;> simpa [spiTxFrame, spiTxHead, sendPlan, spiPacketSize] using poll
  · cases status with
    | absent => simp [spiTxFrame, spiTxHead, sendPlan, Option.Rel.none, spiPacketSize]
    | availableBusy => simpa [spiTxFrame, spiTxHead, sendPlan, spiPacketSize] using poll
    | available =>
      by_cases hL : p.headerLength.toNat > 80
      · simp [spiTxFrame, spiTxHead, sendPlan, hL, Option.Rel.none, sizeofPacket, spiPacketSize]
      · obtain ⟨d0, d1, db, dz, dout⟩ := head_data_carries p (by omega)
        obtain ⟨dc, dout'⟩ := spiTxTail_carries _ _ (by simp; omega) d0 d1 db dz
        have data := And.intro (Option.Rel.some dc) (And.intro dout dout')
        simpa [spiTxFrame, spiTxHead, sendPlan, hL, sizeofPacket, spiPacketSize] using data

/-- The read half of the return value for the frame clocked in. -/
def readHalf (rx : Buf 84) : Nat :=
  if FrameAccepted rx then transceiveResultReadOk ||| transceiveDataReceived
  else if rx.get 0 = 0 then transceiveResultReadNone else transceiveResultReadError

/-- The call took a packet from the bus: it clocked a frame out, the transfer moved 84
bytes, and the frame clocked in passed the checks. -/
def Delivers (packetSend : Option Packet) (status : REDStackSlaveStatus) (x : Transfer) : Prop :=
  (sendPlan packetSend status).2.isSome ∧ x.lengthSend = spiPacketSize ∧ FrameAccepted x.rx

instance (packetSend : Option Packet) (status : REDStackSlaveStatus) (x : Transfer) :
    Decidable (Delivers packetSend status x) := inferInstanceAs (Decidable (_ ∧ _ ∧ _))

theorem decodeFrame_fst (rx : Buf 84) (retval : Nat) (recv : Packet)
    (status : REDStackSlaveStatus) : (decodeFrame rx retval recv status).1 = retval ||| readHalf rx := by
  unfold decodeFrame readHalf
  split_ifs <;> simp [Nat.or_assoc]

section Call

variable (packetSend : Option Packet) (recv : Packet) (status : REDStackSlaveStatus) (x : Transfer)

theorem spiTxFrame_isSome :
    (spiTxFrame packetSend status).val.2.isSome = (sendPlan packetSend status).2.isSome := by
  obtain ⟨-, h2, -⟩ := spiTxFrame_spec packetSend status
  generalize (sendPlan packetSend status).2 = a at h2 ⊢
  generalize (spiTxFrame packetSend status).val.2 = b at h2 ⊢
  cases h2 <;> rfl

theorem spiTransceiveMessage_val :
    (spiTransceiveMessage packetSend recv status x).val =
      match (spiTxFrame packetSend status).val.2 with
      | none => ⟨(sendPlan packetSend status).1, recv.setHeaderLength 0, status, none⟩
      | some tx =>
        if x.lengthSend ≠ spiPacketSize then
          ⟨transceiveResultSendError ||| transceiveResultReadError, recv.setHeaderLength 0, status,
            some tx⟩
        else
          let d := decodeFrame x.rx (sendPlan packetSend status).1 (recv.setHeaderLength 0) status
          ⟨d.1, d.2.1, d.2.2, some tx⟩ := by
  obtain ⟨h1, -, -⟩ := spiTxFrame_spec packetSend status
  simp only [spiTransceiveMessage, Mem.val_bind, ← h1]
  split <;> simp [spiRxFrame_val]

/-- The call never reads or writes outside its arrays. -/
theorem spiTransceiveMessage_outside :
    (spiTransceiveMessage packetSend recv status x).outside = false := by
  obtain ⟨-, -, h3⟩ := spiTxFrame_spec packetSend status
  simp only [spiTransceiveMessage, Mem.outside_bind, h3, Bool.false_or]
  split
  · rfl
  · split
    · rfl
    · simp [spiRxFrame_outside]

theorem spiTransceiveMessage_tx_isSome :
    (spiTransceiveMessage packetSend recv status x).val.tx.isSome =
      (sendPlan packetSend status).2.isSome := by
  rw [spiTransceiveMessage_val, ← spiTxFrame_isSome]
  rcases (spiTxFrame packetSend status).val.2 with _ | tx
  · rfl
  · dsimp only; split <;> rfl

theorem spiTransceiveMessage_tx :
    (spiTransceiveMessage packetSend recv status x).val.tx = (spiTxFrame packetSend status).val.2 := by
  rw [spiTransceiveMessage_val]
  rcases (spiTxFrame packetSend status).val.2 with _ | tx
  · rfl
  · dsimp only; split <;> rfl

theorem spiTransceiveMessage_retval :
    (spiTransceiveMessage packetSend recv status x).val.retval =
      if (sendPlan packetSend status).2.isSome then
        if x.lengthSend = spiPacketSize then (sendPlan packetSend status).1 ||| readHalf x.rx
        else transceiveResultSendError ||| transceiveResultReadError
      else (sendPlan packetSend status).1 := by
  rw [spiTransceiveMessage_val, ← spiTxFrame_isSome]
  rcases (spiTxFrame packetSend status).val.2 with _ | tx
  · rfl
  · by_cases h : x.lengthSend = spiPacketSize <;> simp [h, decodeFrame_fst]

theorem spiTransceiveMessage_status :
    (spiTransceiveMessage packetSend recv status x).val.status =
      if Delivers packetSend status x then statusOfInfo (x.rx.get ((x.rx.get 1).toNat - 2))
      else status := by
  simp only [spiTransceiveMessage_val, Delivers, ← spiTxFrame_isSome]
  rcases (spiTxFrame packetSend status).val.2 with _ | tx
  · simp
  · by_cases h : x.lengthSend = spiPacketSize <;> by_cases ha : FrameAccepted x.rx <;>
      simp [h, ha, decodeFrame]

/-- A present slave stays present: a frame that passes the checks reports AVAILABLE or
AVAILABLE_BUSY. -/
theorem spiTransceiveMessage_status_ne_absent (h : status ≠ .absent) :
    (spiTransceiveMessage packetSend recv status x).val.status ≠ .absent := by
  rw [spiTransceiveMessage_status]
  split
  · unfold statusOfInfo
    split <;> decide
  · exact h

theorem spiTransceiveMessage_packetRecv :
    (spiTransceiveMessage packetSend recv status x).val.packetRecv =
      if Delivers packetSend status x then
        ((recv.setHeaderLength 0).copy 0 x.rx 2 ((x.rx.get 1).toNat - 4)).val
      else recv.setHeaderLength 0 := by
  simp only [spiTransceiveMessage_val, Delivers, ← spiTxFrame_isSome]
  rcases (spiTxFrame packetSend status).val.2 with _ | tx
  · simp
  · by_cases h : x.lengthSend = spiPacketSize <;> by_cases ha : FrameAccepted x.rx <;>
      simp [h, ha, decodeFrame]

end Call

theorem sendPlan_cases (packetSend : Option Packet) (status : REDStackSlaveStatus) :
    ((sendPlan packetSend status).2 = none ∧
        (sendPlan packetSend status).1 = transceiveResultSendError) ∨
      ((sendPlan packetSend status).2.isSome ∧
        ((sendPlan packetSend status).1 = transceiveResultSendNone ∨
          (sendPlan packetSend status).1 = transceiveDataSend ||| transceiveResultSendOk)) := by
  rcases packetSend with _ | p
  · cases status <;> simp [sendPlan]
  · cases status with
    | available => simp only [sendPlan]; split_ifs <;> simp
    | _ => simp [sendPlan]

/-- To a slave that is present the send half clocks a frame out, unless the request is
too long for a packet. -/
theorem sendPlan_isSome_of_ne_absent {packetSend : Option Packet} {status : REDStackSlaveStatus}
    (h : status ≠ .absent) :
    (sendPlan packetSend status).2.isSome ∨
      ∃ p, packetSend = some p ∧ sizeofPacket < p.headerLength.toNat := by
  rcases packetSend with _ | p
  · cases status <;> simp [sendPlan]
  · cases status with
    | absent => exact absurd rfl h
    | available =>
      simp only [sendPlan]
      split_ifs with hl
      · exact .inr ⟨p, rfl, hl⟩
      · simp
    | availableBusy => simp [sendPlan]

theorem sendPlan_dataSend (packetSend : Option Packet) (status : REDStackSlaveStatus) :
    (sendPlan packetSend status).1 = transceiveDataSend ||| transceiveResultSendOk ↔
      ∃ p, packetSend = some p ∧ status = .available ∧ p.headerLength.toNat ≤ sizeofPacket := by
  rcases packetSend with _ | p
  · cases status <;> simp [sendPlan] <;> decide
  · cases status with
    | available =>
      simp only [sendPlan, sizeofPacket]
      split_ifs with h
      · simp only [Option.some.injEq, exists_eq_left', true_and]
        exact ⟨fun h' => absurd h' (by decide), by omega⟩
      · simp only [Option.some.injEq, exists_eq_left', true_and, true_iff]; omega
    | _ => simp only [sendPlan, Option.some.injEq, reduceCtorEq, false_and, and_false,
        exists_false, iff_false]; decide

theorem readHalf_cases (rx : Buf 84) :
    readHalf rx = transceiveResultReadOk ||| transceiveDataReceived ∨
      readHalf rx = transceiveResultReadNone ∨ readHalf rx = transceiveResultReadError := by
  unfold readHalf
  split_ifs <;> simp

theorem readHalf_dataReceived (rx : Buf 84) :
    readHalf rx &&& transceiveDataReceived ≠ 0 ↔ FrameAccepted rx := by
  unfold readHalf
  split_ifs with ha hz <;> simp only [ha, iff_true, iff_false] <;> decide

section Bits

variable (packetSend : Option Packet) (recv : Packet) (status : REDStackSlaveStatus) (x : Transfer)

/-- `DATA_SEND` is set exactly when a request within 80 bytes went to an available slave
and the transfer moved the whole frame. -/
theorem spiTransceiveMessage_dataSend :
    (spiTransceiveMessage packetSend recv status x).val.retval &&& transceiveDataSend ≠ 0 ↔
      (∃ p, packetSend = some p ∧ status = .available ∧ p.headerLength.toNat ≤ sizeofPacket) ∧
        x.lengthSend = spiPacketSize := by
  rw [spiTransceiveMessage_retval, ← sendPlan_dataSend]
  rcases sendPlan_cases packetSend status with ⟨h2, h1⟩ | ⟨h2, h1 | h1⟩ <;>
    rcases readHalf_cases x.rx with hr | hr | hr <;>
    by_cases hx : x.lengthSend = spiPacketSize <;>
    simp only [h2, h1, hr, hx, Option.isSome_none, Bool.false_eq_true, if_true, if_false,
      and_true, and_false] <;> decide

/-- `DATA_RECEIVED` is set exactly when the call took a packet from the bus. -/
theorem spiTransceiveMessage_dataReceived :
    (spiTransceiveMessage packetSend recv status x).val.retval &&& transceiveDataReceived ≠ 0 ↔
      Delivers packetSend status x := by
  rw [spiTransceiveMessage_retval, Delivers, ← readHalf_dataReceived]
  rcases sendPlan_cases packetSend status with ⟨h2, h1⟩ | ⟨h2, h1 | h1⟩ <;>
    rcases readHalf_cases x.rx with hr | hr | hr <;>
    by_cases hx : x.lengthSend = spiPacketSize <;>
    simp only [h2, h1, hr, hx, Option.isSome_none, Bool.false_eq_true, if_true, if_false,
      true_and, false_and, and_false] <;> decide

end Bits

end Brickd.RedStack
