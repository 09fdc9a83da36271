import Brickd.Transceive
import Mathlib.Logic.Relation

/-!
The two threads of the RED Brick's SPI stack over the state they share. The SPI thread
runs `red_stack_spi_create_routing_table` and then the tick loop of
`red_stack_spi_thread`; the event thread runs `red_stack_dispatch_to_spi`,
`red_stack_dispatch_from_spi` and `red_stack_exit`. A step is one atomic action of one
thread: an exchange on the bus, one `queue_push`, `queue_peek` or `queue_pop` under the
queue mutex, the notification byte, a semaphore operation, a write of
`_red_stack_spi_thread_running`, the `close` of the SPI device. The bus's answers, the
outcomes of `pipe_write` and `pipe_read` and the contents of uninitialised memory are
inputs of the steps. The sleeps only delay a
thread and are left out, with the deadline arithmetic they use.

A unicast `red_stack_dispatch_to_spi` is one step: its lookup can only succeed once
`slave_num` is set, and from then on the slave table does not change, so the lookup and
the push it guards see the same table. The broadcast loop reads `slave_num` anew at
every iteration and is one step per iteration.
-/
namespace Brickd.RedStack

/-- `RED_STACK_SPI_ROUTING_TRIES`. -/
def spiRoutingTries : Nat := 10

/-- Where the SPI thread is: in the routing table setup at `stack_address` (`probe` at
the top of its loop, `sending` and `receiving` in the attempts of its two phases,
`registering` at the UID loop, `routed` at the assignment of `slave_num`), `starting`
before `_red_stack_spi_thread_running = 1`, in a tick (`loopTop` at the loop test,
`peeked` after `queue_peek`, `popping` before `queue_pop`, `notifying` before the pipe
byte, `waiting` in `semaphore_acquire`), or `returned`. -/
inductive PollPc
  | probe (stackAddress : Nat)
  | sending (stackAddress tries : Nat)
  | receiving (stackAddress tries : Nat)
  | registering (stackAddress : Nat)
  | routed (stackAddress : Nat)
  | starting
  | loopTop
  | peeked (packetToSpi : Option REDStackPacket)
  | popping (packetToSpi : REDStackPacket) (ret : Nat)
  | notifying
  | waiting
  | returned
  deriving DecidableEq

/-- Where the event thread is: free to run a handler, in the broadcast loop of
`red_stack_dispatch_to_spi` at slave `is`, in the `thread_join` of `red_stack_exit`,
or past the return of `red_stack_exit`. -/
inductive EventPc
  | idle
  | broadcasting (request : Packet) (is : Nat)
  | joining
  | exited
  deriving DecidableEq

/-- The shared state, the locals of the SPI thread, and the history of what the two
threads did. `functionStackEnumerate` is `FUNCTION_STACK_ENUMERATE`, declared outside
src/ and fixed for a run; `spiFdOpen` says whether `_red_stack_spi_fd` is still open;
`outside` records an access that left its array. -/
structure Sys where
  stack : REDStack
  threadRunning : Bool
  permits : Nat
  pipe : Nat
  pc : PollPc
  cycle : Nat
  packet : Packet
  functionStackEnumerate : UInt8
  event : EventPc
  spiFdOpen : Bool
  outside : Bool
  uidsAdded : List UInt32
  pushed : List REDStackPacket
  sent : List REDStackPacket
  received : List Packet
  delivered : List Packet
  selected : List Nat

/-- The slave table `red_stack_init_spi` leaves: every slot absent, deselected, with no
UIDs. -/
def initialStack : REDStack :=
  ⟨(List.range spiMaxSlaves).map REDStackSlave.initial, by simp [spiMaxSlaves], 0, Buf.zero 80, []⟩

/-- The state after `red_stack_init`: the SPI thread starts the routing table setup with
its `Packet packet` holding `packet`. -/
def Sys.init (functionStackEnumerate : UInt8) (packet : Packet) : Sys where
  stack := initialStack
  threadRunning := false
  permits := 0
  pipe := 0
  pc := .probe 0
  cycle := 0
  packet := packet
  functionStackEnumerate := functionStackEnumerate
  event := .idle
  spiFdOpen := true
  outside := false
  uidsAdded := []
  pushed := []
  sent := []
  received := []
  delivered := []
  selected := []

/-- Modelled from the spec: the `StackEnumerateRequest` is a bare header, "a fixed request
identifying UID=0, the enumerate function, response expected": UID 0, length
`sizeof(StackEnumerateRequest)` = 8, the function, options `0x08`. -/
def stackEnumerateRequest (functionStackEnumerate : UInt8) : Packet :=
  (((Buf.zero 80).set 4 sizeofPacketHeader.toUInt8).set 5 functionStackEnumerate).set 6 0x08

/-- `response->uids[i]` of the `StackEnumerateResponse` laid over the routing table's packet. -/
def responseUid (response : Packet) (i : Nat) : UInt32 :=
  response.word32 (sizeofPacketHeader + 4 * i)

/-- The UID loop of the routing table setup: the UIDs of the response before the first 0. -/
def enumerateUids (response : Packet) : List UInt32 :=
  ((List.range packetStackEnumerateMaxUids).map (responseUid response)).takeWhile (· ≠ 0)

theorem length_enumerateUids (response : Packet) :
    (enumerateUids response).length ≤ packetStackEnumerateMaxUids := by
  unfold enumerateUids
  calc _ ≤ ((List.range packetStackEnumerateMaxUids).map (responseUid response)).length :=
        (List.takeWhile_sublist _).length_le
    _ = packetStackEnumerateMaxUids := by simp

/-- The slave after the UID loop: `uids[i]` for the found UIDs, `uids_num` their number. -/
def REDStackSlave.register (slave : REDStackSlave) (uids : List UInt32)
    (h : uids.length ≤ packetStackEnumerateMaxUids) : REDStackSlave :=
  { slave with
    uids := uids ++ slave.uids.drop uids.length
    uids_length := by simp [slave.uids_length]; omega
    uidsNum := uids.length }

/-- The slave of a tick: the peeked request's, or else the cursor's. -/
def tickSlot (cycle : Nat) : Option REDStackPacket → Nat
  | none => cycle
  | some it => it.slave

namespace Sys

/-- One call of `red_stack_spi_transceive_message` for slave `slot`: the slave's status,
the bus log and the `outside` flag take its effect. -/
def transceive (s : Sys) (slot : Nat) (request : Option Packet) (recv : Packet) (x : Transfer) :
    Transceived × Sys :=
  let r := spiTransceiveMessage request recv (s.stack.status slot) x
  (r.val, { s with
    stack := s.stack.setStatus slot r.val.status
    selected := if r.val.tx.isSome then s.selected ++ [slot] else s.selected
    outside := s.outside || r.outside })

theorem transceive_snd (s : Sys) (slot : Nat) (request : Option Packet) (recv : Packet)
    (x : Transfer) :
    (s.transceive slot request recv x).2 = { s with
      stack := s.stack.setStatus slot (s.transceive slot request recv x).1.status
      selected := if (s.transceive slot request recv x).1.tx.isSome then s.selected ++ [slot]
        else s.selected
      outside := s.outside || (spiTransceiveMessage request recv (s.stack.status slot) x).outside } :=
  rfl

/-- `queue_push` and the `memcpy` of `request->header.length` bytes into the new item,
whose packet held `memory` before. -/
def pushRequest (s : Sys) (slot : Nat) (request memory : Packet) : Sys :=
  let copy := memory.copy 0 request 0 request.headerLength.toNat
  let item : REDStackPacket := ⟨slot, copy.val⟩
  { s with
    stack := { s.stack with packetToSpiQueue := s.stack.packetToSpiQueue ++ [item] }
    pushed := s.pushed ++ [item]
    outside := s.outside || copy.outside }

/-- Top of the routing loop: `slave->status = AVAILABLE` for a slot below 8, else the
end of the loop. -/
def probeStep (s : Sys) (a : Nat) : Sys :=
  if a < spiMaxSlaves then { s with stack := s.stack.setStatus a .available, pc := .sending a 0 }
  else { s with pc := .routed a }

/-- Attempt `t` of a phase of the routing table setup with slave `a`: an exchange of
`request` into the local packet, then `break` to `done` when `flag` is set, the next
attempt `retry`, or, after the last attempt, the slave is absent and the setup ends. The
send and the receive phase are the same loop over different values. -/
def setupAttempt (s : Sys) (a t : Nat) (request : Option Packet) (flag : Nat)
    (retry done : PollPc) (x : Transfer) : Sys :=
  let e := s.transceive a request s.packet x
  let s' := { e.2 with packet := e.1.packetRecv }
  if e.1.retval &&& flag ≠ 0 then { s' with pc := done }
  else if t + 1 < spiRoutingTries then { s' with pc := retry }
  else { s' with stack := s'.stack.setStatus a .absent, pc := .routed a }

/-- Attempt `t` of the send phase: `STACK_ENUMERATE` to slave `a`, until `DATA_SEND`. -/
def sendingStep (s : Sys) (a t : Nat) (x : Transfer) : Sys :=
  s.setupAttempt a t (some (stackEnumerateRequest s.functionStackEnumerate)) transceiveDataSend
    (.sending a (t + 1)) (.receiving a 0) x

/-- Attempt `t` of the receive phase: a poll of slave `a`, until `DATA_RECEIVED`. -/
def receivingStep (s : Sys) (a t : Nat) (x : Transfer) : Sys :=
  s.setupAttempt a t none transceiveDataReceived (.receiving a (t + 1)) (.registering a) x

/-- The UID loop: the UIDs of the response go to slave `a` and to `stack_add_uid`. -/
def registerStep (s : Sys) (a : Nat) : Sys :=
  { s with
    stack := s.stack.setSlave a
      ((s.stack.slave a).register (enumerateUids s.packet) (length_enumerateUids s.packet))
    uidsAdded := s.uidsAdded ++ enumerateUids s.packet
    pc := .probe (a + 1) }

/-- `_red_stack.slave_num = stack_address`, then the thread's test for no slaves. -/
def routedStep (s : Sys) (a : Nat) : Sys :=
  { s with stack := { s.stack with slaveNum := a }, pc := if a = 0 then .returned else .starting }

/-- `_red_stack_spi_thread_running = 1`. -/
def startStep (s : Sys) : Sys := { s with threadRunning := true, pc := .loopTop }

/-- The loop test, the `memset` of `packet_from_spi` and `queue_peek`. -/
def loopTopStep (s : Sys) : Sys :=
  if s.threadRunning then
    { s with
      stack := { s.stack with packetFromSpi := Buf.zero 80 }
      pc := .peeked s.stack.packetToSpiQueue.head? }
  else { s with pc := .returned }

/-- The exchange of a tick: the peeked request to its slave, or else a poll of slave
`stack_address_cycle`, which then moves on modulo `slave_num`. -/
def peekedStep (s : Sys) (item : Option REDStackPacket) (x : Transfer) : Sys :=
  let slot := tickSlot s.cycle item
  let cycle := match item with
    | none => if s.cycle + 1 ≥ s.stack.slaveNum then 0 else s.cycle + 1
    | some _ => s.cycle
  let e := s.transceive slot (item.map (·.packet)) s.stack.packetFromSpi x
  let received := e.1.retval &&& transceiveDataReceived ≠ 0
  let s' := { e.2 with
    stack := { e.2.stack with packetFromSpi := e.1.packetRecv }
    cycle := cycle
    received := if received then e.2.received ++ [e.1.packetRecv] else e.2.received }
  match item with
  | some it =>
    if e.1.retval &&& transceiveDataSend ≠ 0 then
      { s' with sent := s'.sent ++ [it], pc := .popping it e.1.retval }
    else { s' with pc := if received then .notifying else .loopTop }
  | none => { s' with pc := if received then .notifying else .loopTop }

/-- The tick as one update of the state by the outcome `m` of its exchange: each field
the tick writes, as the outcome's flags decide it. -/
theorem peekedStep_eq (s : Sys) (item : Option REDStackPacket) (x : Transfer) :
    ∃ m, m = spiTransceiveMessage (item.map (·.packet)) s.stack.packetFromSpi
        (s.stack.status (tickSlot s.cycle item)) x ∧
      s.peekedStep item x = { s with
        stack := { s.stack.setStatus (tickSlot s.cycle item) m.val.status with
          packetFromSpi := m.val.packetRecv }
        selected := if m.val.tx.isSome then s.selected ++ [tickSlot s.cycle item] else s.selected
        outside := s.outside || m.outside
        cycle := match item with
          | none => if s.cycle + 1 ≥ s.stack.slaveNum then 0 else s.cycle + 1
          | some _ => s.cycle
        received := if m.val.retval &&& transceiveDataReceived ≠ 0 then
          s.received ++ [m.val.packetRecv] else s.received
        sent := match item with
          | some it => if m.val.retval &&& transceiveDataSend ≠ 0 then s.sent ++ [it] else s.sent
          | none => s.sent
        pc := match item with
          | some it => if m.val.retval &&& transceiveDataSend ≠ 0 then .popping it m.val.retval
            else if m.val.retval &&& transceiveDataReceived ≠ 0 then .notifying else .loopTop
          | none => if m.val.retval &&& transceiveDataReceived ≠ 0 then .notifying else .loopTop } := by
  refine ⟨_, rfl, ?_⟩
  cases item with
  | none => rfl
  | some it =>
    simp only [peekedStep, transceive]
    split_ifs <;> rfl

/-- The tick ends at the pop after `DATA_SEND`, at the notification after
`DATA_RECEIVED`, or back at the loop test. -/
theorem peekedStep_pc (s : Sys) (item : Option REDStackPacket) (x : Transfer) :
    (∃ it r, (s.peekedStep item x).pc = .popping it r) ∨ (s.peekedStep item x).pc = .notifying ∨
      (s.peekedStep item x).pc = .loopTop := by
  obtain ⟨m, -, heq⟩ := s.peekedStep_eq item x
  rw [heq]
  cases item <;> dsimp only <;> split_ifs <;> simp

/-- `queue_pop` after `DATA_SEND`. -/
def popStep (s : Sys) (ret : Nat) : Sys :=
  { s with
    stack := { s.stack with packetToSpiQueue := s.stack.packetToSpiQueue.tail }
    pc := if ret &&& transceiveDataReceived ≠ 0 then .notifying else .loopTop }

/-- `red_stack_spi_request_dispatch_response_event`: one byte into the pipe, if
`pipe_write` succeeds; its result is ignored. -/
def notifyStep (s : Sys) (pipeOk : Bool) : Sys :=
  { s with pipe := if pipeOk then s.pipe + 1 else s.pipe, pc := .waiting }

end Sys

/-- Whether the SPI thread is past the assignment of `slave_num`. -/
def PollPc.routingDone : PollPc → Bool
  | .probe _ | .sending _ _ | .receiving _ _ | .registering _ | .routed _ => false
  | _ => true

/-- Whether the bus can give the answer `x` to an exchange: once `red_stack_exit` has
closed `_red_stack_spi_fd`, every `ioctl` on it returns -1. -/
def Sys.canAnswer (s : Sys) (x : Transfer) : Bool := s.spiFdOpen || x.ret == -1

/-- One step of the SPI thread, given the bus's answer and the outcome of `pipe_write`;
`none` while it blocks in `semaphore_acquire`, once it has returned, and at an exchange
for an answer the bus cannot give. -/
def pollStep (s : Sys) (x : Transfer) (pipeOk : Bool) : Option Sys :=
  match s.pc with
  | .probe a => some (s.probeStep a)
  | .sending a t => if s.canAnswer x then some (s.sendingStep a t x) else none
  | .receiving a t => if s.canAnswer x then some (s.receivingStep a t x) else none
  | .registering a => some (s.registerStep a)
  | .routed a => some (s.routedStep a)
  | .starting => some s.startStep
  | .loopTop => some s.loopTopStep
  | .peeked item => if s.canAnswer x then some (s.peekedStep item x) else none
  | .popping _ ret => some (s.popStep ret)
  | .notifying => some (s.notifyStep pipeOk)
  | .waiting =>
    if 0 < s.permits then some { s with permits := s.permits - 1, pc := .loopTop } else none
  | .returned => none

/-- The steps of the SPI thread, one constructor per point of its code. -/
inductive PollStep (s : Sys) (x : Transfer) (ok : Bool) : Sys → Prop
  | probe (a : Nat) : s.pc = .probe a → PollStep s x ok (s.probeStep a)
  | sending (a t : Nat) : s.pc = .sending a t → PollStep s x ok (s.sendingStep a t x)
  | receiving (a t : Nat) : s.pc = .receiving a t → PollStep s x ok (s.receivingStep a t x)
  | registering (a : Nat) : s.pc = .registering a → PollStep s x ok (s.registerStep a)
  | routed (a : Nat) : s.pc = .routed a → PollStep s x ok (s.routedStep a)
  | starting : s.pc = .starting → PollStep s x ok s.startStep
  | loopTop : s.pc = .loopTop → PollStep s x ok s.loopTopStep
  | peeked (item : Option REDStackPacket) : s.pc = .peeked item →
      PollStep s x ok (s.peekedStep item x)
  | popping (it : REDStackPacket) (r : Nat) : s.pc = .popping it r → PollStep s x ok (s.popStep r)
  | notifying : s.pc = .notifying → PollStep s x ok (s.notifyStep ok)
  | waiting : s.pc = .waiting → 0 < s.permits →
      PollStep s x ok { s with permits := s.permits - 1, pc := .loopTop }

theorem pollStep_inv {s s' : Sys} {x : Transfer} {ok : Bool} (h : pollStep s x ok = some s') :
    PollStep s x ok s' := by
  unfold pollStep at h
  split at h <;> (try split_ifs at h) <;> cases h
  · exact .probe _ ‹_›
  · exact .sending _ _ ‹_›
  · exact .receiving _ _ ‹_›
  · exact .registering _ ‹_›
  · exact .routed _ ‹_›
  · exact .starting ‹_›
  · exact .loopTop ‹_›
  · exact .peeked _ ‹_›
  · exact .popping _ _ ‹_›
  · exact .notifying ‹_›
  · exact .waiting ‹_› ‹_›

/-- A step from a tick's peek is the tick's exchange. -/
theorem pollStep_peeked {s s' : Sys} {item : Option REDStackPacket} {x : Transfer} {ok : Bool}
    (hp : s.pc = .peeked item) (h : pollStep s x ok = some s') : s' = s.peekedStep item x := by
  cases pollStep_inv h <;> simp_all

/-- What starts a step of the event thread: a call of `red_stack_dispatch_to_spi` (with
the memory its `queue_push` hands out), the next iteration of a broadcast, a readable
notification pipe (with whether its `pipe_read` succeeds), a call of `red_stack_exit`,
or the return of its `thread_join`. -/
inductive EventInput
  | dispatchToSpi (request memory : Packet)
  | broadcast (memory : Packet)
  | dispatchFromSpi (readOk : Bool)
  | exit
  | join

/-- One step of the event thread; `none` when it cannot take this step. A failed
`pipe_read` in `red_stack_dispatch_from_spi` returns before the delivery and the
`semaphore_release`, and leaves the byte in the pipe. `red_stack_exit` closes
`_red_stack_spi_fd` on both of its paths: at once when the flag is clear, after the join
otherwise. -/
def eventStep (s : Sys) : EventInput → Option Sys
  | .dispatchToSpi request memory =>
    if s.event ≠ .idle then none
    else if request.uid = 0 then some { s with event := .broadcasting request 0 }
    else match spiGetSlaveForUid s.stack request.uid with
      | none => some s
      | some slot => some (s.pushRequest slot request memory)
  | .broadcast memory =>
    match s.event with
    | .broadcasting request is =>
      if is < s.stack.slaveNum then
        some { s.pushRequest is request memory with event := .broadcasting request (is + 1) }
      else some { s with event := .idle }
    | _ => none
  | .dispatchFromSpi readOk =>
    if s.event = .idle ∧ 0 < s.pipe then
      if readOk then
        some { s with
          pipe := s.pipe - 1
          delivered := s.delivered ++ [s.stack.packetFromSpi]
          permits := s.permits + 1 }
      else some s
    else none
  | .exit =>
    if s.event ≠ .idle then none
    else if s.threadRunning then some { s with threadRunning := false, event := .joining }
    else some { s with event := .exited, spiFdOpen := false }
  | .join =>
    if s.event = .joining ∧ s.pc = .returned then some { s with event := .exited, spiFdOpen := false }
    else none

/-- What a step of the event thread can change: it appends to the queue only items for
slots below `slave_num`, takes at most one notification byte for one delivery and one
semaphore release, and clears `_red_stack_spi_thread_running` at most; the SPI thread's
locals, the slave table and the SPI thread's history stay as they are. -/
structure EventEffect (s s' : Sys) : Prop where
  pc : s'.pc = s.pc
  cycle : s'.cycle = s.cycle
  packet : s'.packet = s.packet
  slaves : s'.stack.slaves = s.stack.slaves
  slaveNum : s'.stack.slaveNum = s.stack.slaveNum
  packetFromSpi : s'.stack.packetFromSpi = s.stack.packetFromSpi
  sent : s'.sent = s.sent
  received : s'.received = s.received
  selected : s'.selected = s.selected
  uidsAdded : s'.uidsAdded = s.uidsAdded
  queue : ∃ new, s'.stack.packetToSpiQueue = s.stack.packetToSpiQueue ++ new ∧
    s'.pushed = s.pushed ++ new ∧ ∀ it ∈ new, it.slave < s.stack.slaveNum
  handoff : s'.pipe = s.pipe ∧ s'.permits = s.permits ∧ s'.delivered = s.delivered ∨
    0 < s.pipe ∧ s'.pipe = s.pipe - 1 ∧ s'.permits = s.permits + 1 ∧
      s'.delivered = s.delivered ++ [s.stack.packetFromSpi]
  running : s'.threadRunning = true → s.threadRunning = true

namespace EventEffect

variable {s : Sys}

theorem setEvent (e : EventPc) (running fd : Bool) (h : running = true → s.threadRunning = true) :
    EventEffect s { s with event := e, threadRunning := running, spiFdOpen := fd } :=
  ⟨rfl, rfl, rfl, rfl, rfl, rfl, rfl, rfl, rfl, rfl, ⟨[], by simp, by simp, by simp⟩,
    .inl ⟨rfl, rfl, rfl⟩, h⟩

theorem push {slot : Nat} (request memory : Packet) (e : EventPc)
    (h : slot < s.stack.slaveNum) : EventEffect s { s.pushRequest slot request memory with event := e } :=
  ⟨rfl, rfl, rfl, rfl, rfl, rfl, rfl, rfl, rfl, rfl, ⟨_, rfl, rfl, by simpa using h⟩,
    .inl ⟨rfl, rfl, rfl⟩, id⟩

end EventEffect

theorem eventStep_effect {s s' : Sys} {e : EventInput} (h : eventStep s e = some s') :
    EventEffect s s' := by
  cases e with
  | dispatchToSpi request memory =>
    simp only [eventStep] at h
    split_ifs at h
    · cases h; exact .setEvent _ s.threadRunning s.spiFdOpen id
    · split at h
      · cases h; exact .setEvent s.event s.threadRunning s.spiFdOpen id
      · cases h; exact .push request memory s.event (spiGetSlaveForUid_lt ‹_›)
  | broadcast memory =>
    simp only [eventStep] at h
    split at h
    · split_ifs at h with hlt
      · cases h; exact .push _ memory _ hlt
      · cases h; exact .setEvent _ s.threadRunning s.spiFdOpen id
    · cases h
  | dispatchFromSpi readOk =>
    simp only [eventStep] at h
    split_ifs at h with hp
    · cases h
      exact ⟨rfl, rfl, rfl, rfl, rfl, rfl, rfl, rfl, rfl, rfl, ⟨[], by simp, by simp, by simp⟩,
        .inr ⟨hp.2, rfl, rfl, rfl⟩, id⟩
    · cases h; exact .setEvent s.event s.threadRunning s.spiFdOpen id
  | exit =>
    simp only [eventStep] at h
    split_ifs at h with _ hr
    · cases h; exact .setEvent _ false s.spiFdOpen (by simp)
    · cases h; exact .setEvent _ s.threadRunning false id
  | join =>
    simp only [eventStep] at h
    split_ifs at h
    · cases h; exact .setEvent _ s.threadRunning false id

/-- What a step of the SPI thread leaves alone: the event thread's point, the SPI
device, the items pushed and delivered, and a set `_red_stack_spi_thread_running`. -/
structure PollEffect (s s' : Sys) : Prop where
  event : s'.event = s.event
  spiFdOpen : s'.spiFdOpen = s.spiFdOpen
  pushed : s'.pushed = s.pushed
  delivered : s'.delivered = s.delivered
  running : s.threadRunning = true → s'.threadRunning = true

theorem pollStep_effect {s s' : Sys} {x : Transfer} {ok : Bool} (h : pollStep s x ok = some s') :
    PollEffect s s' := by
  cases pollStep_inv h with
  | peeked item _ =>
    obtain ⟨m, -, heq⟩ := s.peekedStep_eq item x
    rw [heq]
    exact ⟨rfl, rfl, rfl, rfl, id⟩
  | waiting _ _ => exact ⟨rfl, rfl, rfl, rfl, id⟩
  | _ =>
    simp only [Sys.probeStep, Sys.sendingStep, Sys.receivingStep, Sys.setupAttempt,
      Sys.registerStep, Sys.routedStep, Sys.startStep, Sys.loopTopStep, Sys.popStep, Sys.notifyStep]
    (try split_ifs) <;> exact ⟨rfl, rfl, rfl, rfl, by simp [Sys.transceive]⟩

/-- A step of either thread. -/
inductive Step (s : Sys) : Sys → Prop
  | poll {s' : Sys} (x : Transfer) (pipeOk : Bool) : pollStep s x pipeOk = some s' → Step s s'
  | event {s' : Sys} (e : EventInput) : eventStep s e = some s' → Step s s'

/-- The states of all interleavings of the two threads from `red_stack_init` on. -/
inductive Reachable : Sys → Prop
  | init (functionStackEnumerate : UInt8) (packet : Packet) :
      Reachable (Sys.init functionStackEnumerate packet)
  | step {s s' : Sys} : Reachable s → Step s s' → Reachable s'

/-- An invariant of the initial states that every step of either thread keeps holds in
every reachable state. -/
theorem Reachable.induction {P : Sys → Prop} (hinit : ∀ f p, P (Sys.init f p))
    (hpoll : ∀ s s' x ok, Reachable s → P s → pollStep s x ok = some s' → P s')
    (hevent : ∀ s s' e, Reachable s → P s → eventStep s e = some s' → P s') :
    ∀ {s}, Reachable s → P s := by
  intro s hs
  induction hs with
  | init f p => exact hinit f p
  | step hs hstep ih =>
    cases hstep with
    | poll x ok h => exact hpoll _ _ x ok hs ih h
    | event e h => exact hevent _ _ e hs ih h

/-- A scheduled step: which thread moves, and with what input. -/
inductive Action
  | poll (x : Transfer) (pipeOk : Bool)
  | event (e : EventInput)

/-- Runs a schedule; `none` when one of its steps cannot be taken. -/
def Sys.run (s : Sys) : List Action → Option Sys
  | [] => some s
  | .poll x ok :: as => (pollStep s x ok).bind (·.run as)
  | .event e :: as => (eventStep s e).bind (·.run as)

theorem Sys.reflTransGen_of_run {s s' : Sys} :
    ∀ {as : List Action}, s.run as = some s' → Relation.ReflTransGen Step s s'
  | [], h => by cases h; exact .refl
  | .poll x ok :: as, h => by
    cases hp : pollStep s x ok with
    | none => simp [Sys.run, hp] at h
    | some s1 =>
      exact .head (.poll x ok hp) (Sys.reflTransGen_of_run (by simpa [Sys.run, hp] using h))
  | .event e :: as, h => by
    cases he : eventStep s e with
    | none => simp [Sys.run, he] at h
    | some s1 =>
      exact .head (.event e he) (Sys.reflTransGen_of_run (by simpa [Sys.run, he] using h))

/-- A property that every step of a schedule keeps holds at the end of the schedule. -/
theorem Sys.run_induction {P : Sys → Prop} {s s' : Sys} {as : List Action} (h : s.run as = some s')
    (hs : P s) (hpoll : ∀ t t' x ok, Action.poll x ok ∈ as → P t → pollStep t x ok = some t' → P t')
    (hevent : ∀ t t' e, Action.event e ∈ as → P t → eventStep t e = some t' → P t') : P s' := by
  induction as generalizing s with
  | nil => cases h; exact hs
  | cons a as ih =>
    have hpoll' := fun t t' x ok (hm : Action.poll x ok ∈ as) => hpoll t t' x ok (List.mem_cons_of_mem _ hm)
    have hevent' := fun t t' e (hm : Action.event e ∈ as) => hevent t t' e (List.mem_cons_of_mem _ hm)
    cases a with
    | poll x ok =>
      cases hp : pollStep s x ok with
      | none => simp [Sys.run, hp] at h
      | some s₁ =>
        exact ih (by simpa [Sys.run, hp] using h) (hpoll s s₁ x ok (List.mem_cons_self _ _) hs hp)
          hpoll' hevent'
    | event e =>
      cases he : eventStep s e with
      | none => simp [Sys.run, he] at h
      | some s₁ =>
        exact ih (by simpa [Sys.run, he] using h) (hevent s s₁ e (List.mem_cons_self _ _) hs he)
          hpoll' hevent'

theorem Reachable.reflTransGen {s s' : Sys} (hs : Reachable s)
    (h : Relation.ReflTransGen Step s s') : Reachable s' := by
  induction h with
  | refl => exact hs
  | tail _ hstep ih => exact ih.step hstep

/-- A schedule whose last state satisfies `P` exhibits a state reachable from `s` that
satisfies `P`; `decide` runs the schedule. -/
theorem Sys.exists_of_run {P : Sys → Prop} [DecidablePred P] (s : Sys) (as : List Action)
    (h : (s.run as).any (fun s' => decide (P s')) = true) :
    ∃ s', Relation.ReflTransGen Step s s' ∧ P s' := by
  cases hr : s.run as with
  | none => simp [hr] at h
  | some s' => exact ⟨s', Sys.reflTransGen_of_run hr, by simpa [hr] using h⟩

/-- Two schedules run one after the other: the state the first reaches satisfies `P`,
and the one the second reaches from there is related to it by `Q`. -/
theorem Sys.exists_of_two_runs {P : Sys → Prop} {Q : Sys → Sys → Prop} [DecidablePred P]
    [∀ s, DecidablePred (Q s)] (s : Sys) (as bs : List Action)
    (h : (s.run as).any (fun s₁ => decide (P s₁) && (s₁.run bs).any fun s₂ => decide (Q s₁ s₂)) = true) :
    ∃ s₁ s₂, Relation.ReflTransGen Step s s₁ ∧ P s₁ ∧ Relation.ReflTransGen Step s₁ s₂ ∧ Q s₁ s₂ := by
  cases hr : s.run as with
  | none => simp [hr] at h
  | some s₁ =>
    simp only [hr, Option.any_some, Bool.and_eq_true, decide_eq_true_eq] at h
    obtain ⟨s₂, h₂, hq⟩ := Sys.exists_of_run s₁ bs (by simpa using h.2)
    exact ⟨s₁, s₂, Sys.reflTransGen_of_run hr, h.1, h₂, hq⟩

/-! ### Schedules -/

/-- A step of the SPI thread on which the transfer returns `ret` and clocks in `rx`. -/
def Action.bus (ret : Int) (rx : Buf 84) : Action := .poll ⟨ret, rx⟩ true

/-- A step of the SPI thread on which nothing moves over the bus: the transfer fails,
as every `ioctl` does once `_red_stack_spi_fd` is closed. -/
def Action.quiet : Action := .bus (-1) (Buf.zero 84)

/-- A slave's answer to the enumerate request: a 12-byte `StackEnumerateResponse` whose
first UID is `uid` and whose other UID bytes are 0, with info byte 0. -/
def enumerateResponseFrame (uid : UInt8) : Buf 84 :=
  ⟨[0xAA, 16, 0, 0, 0, 0, 12, 0, 0, 0, uid, 0, 0, 0, 0,
    pearsonHash [0xAA, 16, 0, 0, 0, 0, 12, 0, 0, 0, uid, 0, 0, 0, 0]] ++ List.replicate 68 0,
    by simp⟩

/-- A request for UID `uid` of `length` bytes: a header and zeros. -/
def requestFor (uid length : UInt8) : Packet := ((Buf.zero 80).set 0 uid).set 4 length

/-- The setup's round with slot 0: it takes the enumerate request, answers with UID
`uid`, and the UID is registered. It ends at the probe of slot 1. -/
def enumerateSlotZero (uid : UInt8) : List Action :=
  [.quiet, .bus 84 (Buf.zero 84), .bus 84 (enumerateResponseFrame uid), .quiet]

/-- The routing table setup with one slave: slot 0 answers with UID `uid`, slot 1 stays
silent for all its attempts. It ends before `_red_stack_spi_thread_running = 1`. -/
def discoverOneSlave (uid : UInt8) : List Action :=
  enumerateSlotZero uid ++ .quiet :: List.replicate spiRoutingTries .quiet ++ [.quiet]

end Brickd.RedStack
