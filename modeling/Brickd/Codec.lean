import Brickd.Transceive

/-!
The SPI frame codec as `red_stack_spi_transceive_message` implements it. On the
receive side a packet is delivered exactly for the frames of `FrameAccepted`, copied
byte for byte, and the slave's status moves only on such a frame. Frames that carry
8 to 80 bytes decode back to their payload. The poll-only frame of four bytes does
not: the length guard `length < 4 + sizeof(PacketHeader)` rejects it before the busy
bit is read, so the `length == RED_STACK_SPI_PACKET_EMPTY_SIZE` branch after the
checksum is dead, and a well-formed empty frame from a slave neither sets nor clears
its busy state. The Pearson checksum catches every change of a single byte of an
accepted frame below its length, the length byte aside.
-/
namespace Brickd.RedStack

/-- Frame decoding on every input: with the exchange performed and 84 bytes moved,
`DATA_RECEIVED` is set exactly for an accepted frame, whose payload then fills
`packet_recv` from its start; otherwise only `header.length` is cleared; the status
changes only on an accepted frame; and no access leaves its array. -/
theorem spiTransceiveMessage_decodes (packetSend : Option Packet) (recv : Packet)
    (status : REDStackSlaveStatus) (x : Transfer)
    (hex : (spiTransceiveMessage packetSend recv status x).val.tx.isSome)
    (h84 : x.lengthSend = spiPacketSize) :
    ((spiTransceiveMessage packetSend recv status x).val.retval &&& transceiveDataReceived ≠ 0 ↔
        FrameAccepted x.rx) ∧
      (FrameAccepted x.rx → ∀ i < 80,
        (spiTransceiveMessage packetSend recv status x).val.packetRecv.get i =
          if i < (x.rx.get 1).toNat - 4 then x.rx.get (2 + i) else recv.get i) ∧
      (¬ FrameAccepted x.rx →
        (spiTransceiveMessage packetSend recv status x).val.packetRecv = recv.setHeaderLength 0) ∧
      ((spiTransceiveMessage packetSend recv status x).val.status ≠ status → FrameAccepted x.rx) ∧
      (spiTransceiveMessage packetSend recv status x).outside = false := by
  rw [spiTransceiveMessage_tx_isSome] at hex
  have hd : Delivers packetSend status x ↔ FrameAccepted x.rx :=
    ⟨fun h => h.2.2, fun h => ⟨hex, h84, h⟩⟩
  refine ⟨(spiTransceiveMessage_dataReceived ..).trans hd, fun ha i hi => ?_, fun ha => ?_,
    fun hs => ?_, spiTransceiveMessage_outside ..⟩
  · have hL := ha.2.1
    rw [spiTransceiveMessage_packetRecv, if_pos (hd.mpr ha), Buf.get_copy _ _ _ _ _ _ hi]
    by_cases h : i < (x.rx.get 1).toNat - 4
    · simp [h]
    · rw [if_neg (by omega), if_neg h, Packet.setHeaderLength, Buf.get_set_ne _ _ (by omega)]
  · rw [spiTransceiveMessage_packetRecv, if_neg (mt hd.mp ha)]
  · by_contra ha
    rw [spiTransceiveMessage_status, if_neg (mt hd.mp ha)] at hs
    exact hs rfl

/-- An accepted frame fails the checks once one of its bytes below the length changes,
the length byte aside: a hashed byte changes the hash, and the checksum byte no longer
matches the unchanged hash. -/
theorem FrameAccepted.single_byte_change {rx rx' : Buf 84} (ha : FrameAccepted rx) {p : Nat}
    (hp : p < (rx.get 1).toNat) (hp1 : p ≠ 1) (hdiff : rx'.get p ≠ rx.get p)
    (hsame : ∀ i, i ≠ p → rx'.get i = rx.get i) : ¬ FrameAccepted rx' := by
  rintro ⟨-, -, -, hc'⟩
  obtain ⟨-, -, -, hc⟩ := ha
  rw [hsame 1 (Ne.symm hp1)] at hc'
  by_cases hpL : p = (rx.get 1).toNat - 1
  · -- the checksum byte itself
    have hs : rx'.slice 0 ((rx.get 1).toNat - 1) = rx.slice 0 ((rx.get 1).toNat - 1) :=
      Buf.slice_congr fun k hk => hsame _ (by omega)
    rw [hs, ← hc, ← hpL] at hc'
    exact hdiff hc'
  · -- a hashed byte
    have hne : pearsonHash (rx'.slice 0 ((rx.get 1).toNat - 1)) ≠
        pearsonHash (rx.slice 0 ((rx.get 1).toNat - 1)) := by
      rw [pearsonHash_eq_foldl, pearsonHash_eq_foldl]
      exact foldl_pearsonStep_ne (by simp) (p := p)
        (by rw [Buf.getElem?_slice, Buf.getElem?_slice, if_pos (by omega), if_pos (by omega)]
            simpa using hdiff)
        (fun i hi => by simp only [Buf.getElem?_slice, Nat.zero_add, hsame i hi]) 0
    rw [hsame _ (Ne.symm hpL)] at hc'
    exact hne (hc'.symm.trans hc)

/-- A single-byte error in an accepted frame is always caught: whatever was sent and
whatever the transfer returned, the call on the corrupted frame reports no
`DATA_RECEIVED`, copies no payload and leaves the slave's status as it was. -/
theorem spiTransceiveMessage_rejects_single_byte_error {rx rx' : Buf 84} (ha : FrameAccepted rx)
    (p : Nat) (hp : p < (rx.get 1).toNat) (hp1 : p ≠ 1) (hdiff : rx'.get p ≠ rx.get p)
    (hsame : ∀ i, i ≠ p → rx'.get i = rx.get i) (packetSend : Option Packet) (recv : Packet)
    (status : REDStackSlaveStatus) (ret : Int) :
    (spiTransceiveMessage packetSend recv status ⟨ret, rx'⟩).val.retval &&&
        transceiveDataReceived = 0 ∧
      (spiTransceiveMessage packetSend recv status ⟨ret, rx'⟩).val.packetRecv =
        recv.setHeaderLength 0 ∧
      (spiTransceiveMessage packetSend recv status ⟨ret, rx'⟩).val.status = status := by
  have hd : ¬ Delivers packetSend status ⟨ret, rx'⟩ := fun h =>
    ha.single_byte_change hp hp1 hdiff hsame h.2.2
  refine ⟨?_, by rw [spiTransceiveMessage_packetRecv, if_neg hd],
    by rw [spiTransceiveMessage_status, if_neg hd]⟩
  by_contra h
  exact hd ((spiTransceiveMessage_dataReceived ..).mp h)

/-- An accepted frame: a 12-byte frame carrying an 8-byte header of zeros. -/
def acceptedHeaderFrame : Buf 84 :=
  ⟨[0xAA, 12, 0, 0, 0, 0, 0, 0, 0, 0, 0, pearsonHash [0xAA, 12, 0, 0, 0, 0, 0, 0, 0, 0, 0]] ++
    List.replicate 72 0, by simp⟩

theorem spiTransceiveMessage_decodes_header_frame :
    (spiTransceiveMessage none (Buf.zero 80) .available ⟨84, acceptedHeaderFrame⟩).val.tx.isSome ∧
      Transfer.lengthSend ⟨84, acceptedHeaderFrame⟩ = spiPacketSize ∧
      ((spiTransceiveMessage none (Buf.zero 80) .available
          ⟨84, acceptedHeaderFrame⟩).val.retval &&& transceiveDataReceived ≠ 0 ↔
        FrameAccepted acceptedHeaderFrame) :=
  ⟨by decide, by decide,
    (spiTransceiveMessage_decodes none (Buf.zero 80) .available ⟨84, acceptedHeaderFrame⟩
      (by decide) (by decide)).1⟩

/-! ### Round trip -/

/-- A frame that carries 8 to 80 bytes passes the receive checks, and reports the slave
available (the master's info byte is 0). -/
theorem CarriesPayload.accepted {tx : Buf 84} {payload : List UInt8}
    (h : CarriesPayload tx payload) (h8 : 8 ≤ payload.length) (h80 : payload.length ≤ 80) :
    FrameAccepted tx ∧ statusOfInfo (tx.get ((tx.get 1).toNat - 2)) = .available := by
  have hL := h.length
  refine ⟨⟨h.preamble, by omega, by omega, ?_⟩, ?_⟩
  · rw [show (tx.get 1).toNat - 1 = payload.length + 3 by omega]
    exact h.checksum
  · rw [show (tx.get 1).toNat - 2 = payload.length + 2 by omega, h.info]
    decide

/-- Decoding a frame that carries 8 to 80 bytes gives back the payload. -/
theorem CarriesPayload.decode {tx : Buf 84} {payload : List UInt8}
    (h : CarriesPayload tx payload) (h8 : 8 ≤ payload.length) (h80 : payload.length ≤ 80)
    (retval : Nat) (recv : Packet) (status : REDStackSlaveStatus) :
    (decodeFrame tx retval recv status).2.1.slice 0 payload.length = payload ∧
      (decodeFrame tx retval recv status).2.2 = .available := by
  obtain ⟨ha, hs⟩ := h.accepted h8 h80
  have hL := h.length
  simp only [decodeFrame, if_pos ha, hs, and_true]
  refine Eq.trans (Buf.slice_congr fun k hk => ?_) h.body
  rw [Buf.get_copy _ _ _ _ _ _ (by omega), if_pos (by omega)]
  congr 1
  omega

/-- The frame that carries a payload closes with info byte 0 and the checksum of the
bytes before it, and is zero from its length on. -/
theorem CarriesPayload.well_formed {tx : Buf 84} {payload : List UInt8}
    (h : CarriesPayload tx payload) :
    tx.get ((tx.get 1).toNat - 2) = 0 ∧
      tx.get ((tx.get 1).toNat - 1) = pearsonHash (tx.slice 0 ((tx.get 1).toNat - 1)) ∧
      ∀ i, (tx.get 1).toNat ≤ i → tx.get i = 0 := by
  have hL := h.length
  refine ⟨?_, ?_, fun i hi => h.zeros i (by omega)⟩
  · rw [show (tx.get 1).toNat - 2 = payload.length + 2 by omega]
    exact h.info
  · rw [show (tx.get 1).toNat - 1 = payload.length + 3 by omega]
    exact h.checksum

/-- A request of 8 bytes: a header with `length = 8` and nothing else. -/
def headerOnlyRequest : Packet := (Buf.zero 80).set 4 8

/-- Every frame the call clocks out is well formed and built inside its array, for every
request length byte and every slave status: the preamble; the length `header.length + 4`
of at most 84 with the request's first `header.length` bytes after it when a request
goes to an available slave, and 4 otherwise; info byte 0; the Pearson hash of the bytes
before the checksum; zeros after the frame; and no access outside an array. -/
theorem spiTransceiveMessage_tx_well_formed (packetSend : Option Packet) (recv : Packet)
    (status : REDStackSlaveStatus) (x : Transfer) {tx : Buf 84}
    (h : (spiTransceiveMessage packetSend recv status x).val.tx = some tx) :
    tx.get 0 = spiPreambleValue ∧
      (∀ p, packetSend = some p → status = .available →
        (tx.get 1).toNat = p.headerLength.toNat + 4 ∧ (tx.get 1).toNat ≤ 84 ∧
          tx.slice 2 p.headerLength.toNat = p.slice 0 p.headerLength.toNat) ∧
      (packetSend = none ∨ status ≠ .available → tx.get 1 = 4) ∧
      tx.get ((tx.get 1).toNat - 2) = 0 ∧
      tx.get ((tx.get 1).toNat - 1) = pearsonHash (tx.slice 0 ((tx.get 1).toNat - 1)) ∧
      (∀ i, (tx.get 1).toNat ≤ i → tx.get i = 0) ∧
      (spiTransceiveMessage packetSend recv status x).outside = false := by
  have hr := (spiTxFrame_spec packetSend status).2.1
  rw [← spiTransceiveMessage_tx packetSend recv status x, h] at hr
  obtain ⟨payload, hplan, hc⟩ : ∃ payload, (sendPlan packetSend status).2 = some payload ∧
      CarriesPayload tx payload := by
    generalize (sendPlan packetSend status).2 = plan at hr
    cases hr with
    | some hc => exact ⟨_, rfl, hc⟩
  have hL := hc.length
  have hpoll : packetSend = none ∨ status ≠ .available → payload = [] := by
    rintro (rfl | hs)
    · simpa [sendPlan] using hplan.symm
    · rcases packetSend with _ | p
      · simpa [sendPlan] using hplan.symm
      · cases status <;> simp_all [sendPlan]
  refine ⟨hc.preamble, fun p hp hs => ?_, fun hn => ?_, hc.well_formed.1, hc.well_formed.2.1,
    hc.well_formed.2.2, spiTransceiveMessage_outside ..⟩
  · subst hp hs
    simp only [sendPlan] at hplan
    split_ifs at hplan with h80
    cases hplan
    have := hc.body
    simp only [Buf.length_slice] at hL this
    exact ⟨hL, by simp only [sizeofPacket] at h80; omega, this⟩
  · rw [hpoll hn, List.length_nil] at hL
    exact UInt8.toNat.inj hL

theorem spiTransceiveMessage_tx_well_formed_header :
    ∃ tx, (spiTransceiveMessage (some headerOnlyRequest) (Buf.zero 80) .available
        ⟨84, Buf.zero 84⟩).val.tx = some tx ∧
      (tx.get 1).toNat = headerOnlyRequest.headerLength.toNat + 4 ∧
      tx.get ((tx.get 1).toNat - 1) = pearsonHash (tx.slice 0 ((tx.get 1).toNat - 1)) := by
  obtain ⟨tx, h⟩ : ∃ tx, (spiTransceiveMessage (some headerOnlyRequest) (Buf.zero 80) .available
      ⟨84, Buf.zero 84⟩).val.tx = some tx := ⟨_, rfl⟩
  have hw := spiTransceiveMessage_tx_well_formed (some headerOnlyRequest) (Buf.zero 80) .available
    ⟨84, Buf.zero 84⟩ h
  exact ⟨tx, h, (hw.2.1 _ rfl rfl).1, hw.2.2.2.2.1⟩

theorem spiTransceiveMessage_rejects_corrupted_header_frame :
    FrameAccepted acceptedHeaderFrame ∧ 5 < (acceptedHeaderFrame.get 1).toNat ∧
      (acceptedHeaderFrame.set 5 1).get 5 ≠ acceptedHeaderFrame.get 5 ∧
      (spiTransceiveMessage none (Buf.zero 80) .available
          ⟨84, acceptedHeaderFrame.set 5 1⟩).val.retval &&& transceiveDataReceived = 0 ∧
      (spiTransceiveMessage none (Buf.zero 80) .available
          ⟨84, acceptedHeaderFrame.set 5 1⟩).val.packetRecv = Packet.setHeaderLength (Buf.zero 80) 0 ∧
      (spiTransceiveMessage none (Buf.zero 80) .available
          ⟨84, acceptedHeaderFrame.set 5 1⟩).val.status = .available :=
  ⟨by decide, by decide, by decide,
    spiTransceiveMessage_rejects_single_byte_error (by decide) 5 (by decide) (by decide)
      (by decide) (fun _ hi => Buf.get_set_ne _ _ (Ne.symm hi)) none (Buf.zero 80) .available 84⟩

/-- The four-byte frame `[0xAA, 4, info, checksum]`: well formed, with info byte `info`
and no payload. `emptyFrame 0` is the poll-only frame the master sends. -/
def emptyFrame (info : UInt8) : Buf 84 :=
  ⟨[0xAA, 4, info, pearsonHash [0xAA, 4, info]] ++ List.replicate 80 0, by simp⟩

/-- A slave that answers with a well-formed empty frame reporting BUSY stays AVAILABLE,
and the next call hands it the queued request. -/
theorem spiTransceiveMessage_ignores_busy_empty_frame :
    (emptyFrame 1).get 0 = spiPreambleValue ∧ (emptyFrame 1).get 1 = 4 ∧
      (emptyFrame 1).get 3 = pearsonHash ((emptyFrame 1).slice 0 3) ∧
      (emptyFrame 1).get 2 &&& spiInfoBusy ≠ 0 ∧
      (spiTransceiveMessage none (Buf.zero 80) .available ⟨84, emptyFrame 1⟩).val.status =
        .available ∧
      (spiTransceiveMessage (some headerOnlyRequest) (Buf.zero 80)
        (spiTransceiveMessage none (Buf.zero 80) .available ⟨84, emptyFrame 1⟩).val.status
        ⟨84, Buf.zero 84⟩).val.retval &&& transceiveDataSend ≠ 0 := by
  decide

/-- The poll-only frame a BUSY slave is sent, clocked back in, is refused with
`READ_ERROR`, and the slave stays BUSY. -/
theorem spiTransceiveMessage_rejects_poll_frame :
    (spiTransceiveMessage none (Buf.zero 80) .availableBusy ⟨84, Buf.zero 84⟩).val.tx =
        some (emptyFrame 0) ∧
      (spiTransceiveMessage none (Buf.zero 80) .availableBusy ⟨84, emptyFrame 0⟩).val.retval =
        transceiveResultSendNone ||| transceiveResultReadError ∧
      (spiTransceiveMessage none (Buf.zero 80) .availableBusy ⟨84, emptyFrame 0⟩).val.status =
        .availableBusy := by
  decide

/-- Round trip of a request: the frame sent for a request of 8 to 80 bytes to an
available slave, clocked back in by any exchange, delivers the request's bytes and
leaves the slave available. -/
theorem spiTransceiveMessage_round_trip (p recv recv' : Packet) (x : Transfer)
    (h8 : 8 ≤ p.headerLength.toNat) (h80 : p.headerLength.toNat ≤ 80)
    (packetSend : Option Packet) (status : REDStackSlaveStatus)
    (hsend : (sendPlan packetSend status).2.isSome) :
    ∀ tx, (spiTransceiveMessage (some p) recv .available x).val.tx = some tx →
      let r := (spiTransceiveMessage packetSend recv' status ⟨84, tx⟩).val
      r.retval &&& transceiveDataReceived ≠ 0 ∧
        r.packetRecv.slice 0 p.headerLength.toNat = p.slice 0 p.headerLength.toNat ∧
        r.status = .available := by
  intro tx htx
  have hc : CarriesPayload tx (p.slice 0 p.headerLength.toNat) := by
    have h2 := (spiTxFrame_spec (some p) .available).2.1
    rw [← spiTransceiveMessage_tx (some p) recv .available x, htx] at h2
    simp only [sendPlan, sizeofPacket, gt_iff_lt, if_neg (show ¬ 80 < p.headerLength.toNat by omega)] at h2
    cases h2 with
    | some h => exact h
  have hlen : (p.slice 0 p.headerLength.toNat).length = p.headerLength.toNat := Buf.length_slice ..
  have hd : Delivers packetSend status ⟨84, tx⟩ :=
    ⟨hsend, rfl, (hc.accepted (by omega) (by omega)).1⟩
  obtain ⟨hb, hs⟩ := hc.decode (by omega) (by omega) 0 (recv'.setHeaderLength 0) status
  refine ⟨(spiTransceiveMessage_dataReceived ..).mpr hd, ?_, ?_⟩
  · rw [hlen] at hb
    rw [spiTransceiveMessage_packetRecv, if_pos hd]
    simpa only [decodeFrame, if_pos hd.2.2] using hb
  · rw [spiTransceiveMessage_status, if_pos hd]
    simpa only [decodeFrame, if_pos hd.2.2] using hs

theorem spiTransceiveMessage_round_trip_header :
    ∃ tx, (spiTransceiveMessage (some headerOnlyRequest) (Buf.zero 80) .available
        ⟨84, Buf.zero 84⟩).val.tx = some tx ∧
      let r := (spiTransceiveMessage none (Buf.zero 80) .available ⟨84, tx⟩).val
      r.retval &&& transceiveDataReceived ≠ 0 ∧
        r.packetRecv.slice 0 headerOnlyRequest.headerLength.toNat =
          headerOnlyRequest.slice 0 headerOnlyRequest.headerLength.toNat ∧
        r.status = .available :=
  ⟨_, rfl, spiTransceiveMessage_round_trip headerOnlyRequest (Buf.zero 80) (Buf.zero 80)
    ⟨84, Buf.zero 84⟩ (by decide) (by decide) none .available (by decide) _ rfl⟩

end Brickd.RedStack
