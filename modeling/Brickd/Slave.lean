import Brickd.Buffer

/-!
The data of the SPI stack of `red_stack.c`: the packets of the daemon's protocol,
the slave table of eight slots, and the `REDStack` record the SPI thread and the
event thread share. The slave table has exactly `RED_STACK_SPI_MAX_SLAVES` entries
and every UID array has `PACKET_STACK_ENUMERATE_MAX_UIDS` entries, by construction.
`spiGetSlaveForUid` is the lookup of a slot by UID, with its two loops.
-/
namespace Brickd.RedStack

/-- Modelled from the spec: `sizeof(Packet)`. The daemon's packet header file is not
under src/; the spec gives a packet of at most 80 bytes. -/
def sizeofPacket : Nat := 80

/-- Modelled from the spec: `sizeof(PacketHeader)`, the 8-byte header
uid:u32-le, length, function, options, flags. -/
def sizeofPacketHeader : Nat := 8

/-- Modelled from the spec: `PACKET_STACK_ENUMERATE_MAX_UIDS`, N = 16. -/
def packetStackEnumerateMaxUids : Nat := 16

/-- `RED_STACK_SPI_MAX_SLAVES`. -/
def spiMaxSlaves : Nat := 8

/-- A `Packet` as the SPI code handles it: 80 bytes, the header first. -/
abbrev Packet := Buf 80

namespace Packet

/-- `header.uid`. -/
def uid (p : Packet) : UInt32 := p.word32 0

/-- `header.length`, the declared length of the packet including its header. -/
def headerLength (p : Packet) : UInt8 := p.get 4

/-- `header.length = v`. -/
def setHeaderLength (p : Packet) (v : UInt8) : Packet := p.set 4 v

end Packet

/-- `REDStackSlaveStatus`. -/
inductive REDStackSlaveStatus
  | absent
  | available
  | availableBusy
  deriving DecidableEq, Repr

/-- `REDStackSlave`. The select pin is `_red_stack_slave_select_pins[stack_address]`,
so the model names a slave's pin by its stack address. -/
structure REDStackSlave where
  stackAddress : Nat
  status : REDStackSlaveStatus
  uids : List UInt32
  uids_length : uids.length = packetStackEnumerateMaxUids
  uidsNum : Nat
  deriving DecidableEq

/-- The slot `i` as `red_stack_init_spi` leaves it: absent, no UIDs, deselected. -/
def REDStackSlave.initial (i : Nat) : REDStackSlave :=
  ⟨i, .absent, List.replicate packetStackEnumerateMaxUids 0, List.length_replicate _ _, 0⟩

instance : Inhabited REDStackSlave := ⟨REDStackSlave.initial 0⟩

/-- The UIDs the slave has registered: `uids[0 .. uids_num)`. -/
def REDStackSlave.knownUids (slave : REDStackSlave) : List UInt32 :=
  slave.uids.take slave.uidsNum

/-- `REDStackPacket`: a queued request and the slave it goes to, named by its index in
`_red_stack.slaves`. -/
structure REDStackPacket where
  slave : Nat
  packet : Packet
  deriving DecidableEq

/-- `REDStack`. The timing field `spi_deadline` only feeds `clock_nanosleep` and is
left out. -/
structure REDStack where
  slaves : List REDStackSlave
  slaves_length : slaves.length = spiMaxSlaves
  slaveNum : Nat
  packetFromSpi : Packet
  packetToSpiQueue : List REDStackPacket

namespace REDStack

/-- `_red_stack.slaves[i]`. -/
def slave (st : REDStack) (i : Nat) : REDStackSlave := st.slaves.getD i default

/-- `_red_stack.slaves[i].status`. -/
def status (st : REDStack) (i : Nat) : REDStackSlaveStatus := (st.slave i).status

/-- Replaces `_red_stack.slaves[i]`. -/
def setSlave (st : REDStack) (i : Nat) (slave : REDStackSlave) : REDStack :=
  { st with
    slaves := st.slaves.set i slave
    slaves_length := by rw [List.length_set, st.slaves_length] }

/-- `_red_stack.slaves[i].status = status`. -/
def setStatus (st : REDStack) (i : Nat) (status : REDStackSlaveStatus) : REDStack :=
  st.setSlave i { st.slave i with status }

theorem slave_setSlave (st : REDStack) (i j : Nat) (s : REDStackSlave) :
    (st.setSlave i s).slave j = if i = j ∧ j < spiMaxSlaves then s else st.slave j := by
  simp only [slave, setSlave, List.getD_eq_getElem?_getD, List.getElem?_set, st.slaves_length,
    spiMaxSlaves]
  by_cases hij : i = j
  · subst hij
    by_cases hi : i < 8
    · simp [hi]
    · have hlen : st.slaves.length ≤ i := by rw [st.slaves_length]; simpa using hi
      simp [hi, List.getElem?_eq_none hlen]
  · simp [hij]

theorem status_setStatus (st : REDStack) (i j : Nat) (v : REDStackSlaveStatus) :
    (st.setStatus i v).status j = if i = j ∧ j < spiMaxSlaves then v else st.status j := by
  rw [status, setStatus, slave_setSlave]
  split <;> rfl

theorem status_setSlave (st : REDStack) (i j : Nat) (slave : REDStackSlave)
    (h : slave.status = st.status i) : (st.setSlave i slave).status j = st.status j := by
  rw [status, slave_setSlave]
  split
  · next hij => rw [h, hij.1]
  · rfl

@[simp] theorem slaveNum_setSlave (st : REDStack) (i : Nat) (s : REDStackSlave) :
    (st.setSlave i s).slaveNum = st.slaveNum := rfl

@[simp] theorem packetFromSpi_setSlave (st : REDStack) (i : Nat) (s : REDStackSlave) :
    (st.setSlave i s).packetFromSpi = st.packetFromSpi := rfl

@[simp] theorem packetToSpiQueue_setSlave (st : REDStack) (i : Nat) (s : REDStackSlave) :
    (st.setSlave i s).packetToSpiQueue = st.packetToSpiQueue := rfl

@[simp] theorem slaveNum_setStatus (st : REDStack) (i : Nat) (v : REDStackSlaveStatus) :
    (st.setStatus i v).slaveNum = st.slaveNum := rfl

@[simp] theorem packetFromSpi_setStatus (st : REDStack) (i : Nat) (v : REDStackSlaveStatus) :
    (st.setStatus i v).packetFromSpi = st.packetFromSpi := rfl

@[simp] theorem packetToSpiQueue_setStatus (st : REDStack) (i : Nat) (v : REDStackSlaveStatus) :
    (st.setStatus i v).packetToSpiQueue = st.packetToSpiQueue := rfl

end REDStack

/-- `red_stack_spi_get_slave_for_uid`: the first slave below `slave_num` whose
registered UIDs hold `uid`. -/
def spiGetSlaveForUid (st : REDStack) (uid : UInt32) : Option Nat :=
  (List.range st.slaveNum).find? fun is => (st.slave is).knownUids.contains uid

theorem spiGetSlaveForUid_lt {st : REDStack} {uid : UInt32} {i : Nat}
    (h : spiGetSlaveForUid st uid = some i) : i < st.slaveNum :=
  List.mem_range.mp (List.mem_of_find?_eq_some h)

/-- The lookup finds the lowest slot below `slave_num` that registered the UID. -/
theorem spiGetSlaveForUid_eq_some_iff {st : REDStack} {uid : UInt32} {i : Nat} :
    spiGetSlaveForUid st uid = some i ↔
      i < st.slaveNum ∧ uid ∈ (st.slave i).knownUids ∧ ∀ j < i, uid ∉ (st.slave j).knownUids := by
  simp only [spiGetSlaveForUid, List.find?_range_eq_some, List.mem_range, List.elem_eq_mem,
    decide_eq_true_eq, Bool.not_eq_true', decide_eq_false_iff_not]
  exact and_left_comm

theorem spiGetSlaveForUid_eq_none_iff {st : REDStack} {uid : UInt32} :
    spiGetSlaveForUid st uid = none ↔ ∀ i < st.slaveNum, uid ∉ (st.slave i).knownUids := by
  simp [spiGetSlaveForUid]

theorem spiGetSlaveForUid_eq_none_of_slaveNum {st : REDStack} (uid : UInt32)
    (h : st.slaveNum = 0) : spiGetSlaveForUid st uid = none := by
  simp [spiGetSlaveForUid, h]

end Brickd.RedStack
