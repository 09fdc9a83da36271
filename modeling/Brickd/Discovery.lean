import Brickd.Targeting

/-!
UID registration during the routing table setup. `stack_add_uid` publishes the UIDs of a
slave as soon as it answers, but `red_stack_spi_get_slave_for_uid` searches only the
first `slave_num` slots, and `slave_num` is assigned once, after the last slave. Until
then a request for a published UID is discarded as unknown. From then on every UID
published is found, in a slot that registered it, and the request is queued for it.
-/
namespace Brickd.RedStack

/-- The UIDs registered in the slots below `n`, slot by slot. -/
def REDStack.registered (st : REDStack) (n : Nat) : List UInt32 :=
  (List.range n).flatMap fun i => (st.slave i).knownUids

namespace REDStack

variable (st : REDStack)

@[simp] theorem registered_setStatus (j n : Nat) (v : REDStackSlaveStatus) :
    (st.setStatus j v).registered n = st.registered n := by
  simp only [registered, setStatus, slave_setSlave]
  congr 1
  funext i
  split
  · next h => rw [h.1]; rfl
  · rfl

theorem registered_register {a : Nat} (ha : a < spiMaxSlaves) (uids : List UInt32)
    (h : uids.length ≤ packetStackEnumerateMaxUids) :
    (st.setSlave a ((st.slave a).register uids h)).registered (a + 1) = st.registered a ++ uids := by
  simp only [registered, List.range_succ, List.flatMap_append, slave_setSlave]
  congr 1
  · refine List.flatMap_congr fun i hi => ?_
    rw [if_neg fun h' => by simp only [List.mem_range] at hi; omega]
  · simp [ha, REDStackSlave.knownUids, REDStackSlave.register]

@[simp] theorem registered_mk (h : st.slaves.length = spiMaxSlaves) (k : Nat) (p : Packet)
    (q : List REDStackPacket) (n : Nat) : (REDStack.mk st.slaves h k p q).registered n = st.registered n :=
  rfl

end REDStack

/-- The UIDs published so far are those registered in the slots the setup has finished:
the slots below the one it works on, and the slots below `slave_num` once it is set. -/
def RegisteredAt (s : Sys) : PollPc → Prop
  | .probe a | .routed a => s.uidsAdded = s.stack.registered a
  | .sending a _ | .receiving a _ | .registering a =>
    a < spiMaxSlaves ∧ s.uidsAdded = s.stack.registered a
  | _ => s.uidsAdded = s.stack.registered s.stack.slaveNum

theorem registeredAt_init (f : UInt8) (p : Packet) :
    RegisteredAt (Sys.init f p) (Sys.init f p).pc := rfl

theorem RegisteredAt.poll {s s' : Sys} {x : Transfer} {ok : Bool} (hs : RegisteredAt s s.pc)
    (h : pollStep s x ok = some s') : RegisteredAt s' s'.pc := by
  cases pollStep_inv h with
  | probe a hp =>
    rw [hp] at hs
    unfold Sys.probeStep
    split_ifs with ha
    · exact ⟨ha, by simpa using hs⟩
    · exact hs
  | sending a t hp | receiving a t hp =>
    rw [hp] at hs
    obtain ⟨ha, hs⟩ := hs
    simp only [Sys.sendingStep, Sys.receivingStep, Sys.setupAttempt]
    split_ifs
    · exact ⟨ha, by simpa [Sys.transceive_snd] using hs⟩
    · exact ⟨ha, by simpa [Sys.transceive_snd] using hs⟩
    · simpa [RegisteredAt, Sys.transceive_snd] using hs
  | registering a hp =>
    rw [hp] at hs
    obtain ⟨ha, hs⟩ := hs
    show s.uidsAdded ++ enumerateUids s.packet = (s.stack.setSlave a _).registered (a + 1)
    rw [REDStack.registered_register _ ha, hs]
  | peeked item hp =>
    rw [hp] at hs
    obtain ⟨m, -, heq⟩ := s.peekedStep_eq item x
    have hreg : (s.peekedStep item x).uidsAdded =
        (s.peekedStep item x).stack.registered (s.peekedStep item x).stack.slaveNum := by
      rw [heq]
      simpa using hs
    rcases s.peekedStep_pc item x with ⟨_, _, hpc⟩ | hpc | hpc <;> rw [hpc] <;> exact hreg
  | waiting hp _ =>
    rw [hp] at hs
    exact hs
  | routed a hp | starting hp | loopTop hp | popping it r hp | notifying hp =>
    rw [hp] at hs
    simp only [Sys.routedStep, Sys.startStep, Sys.loopTopStep, Sys.popStep, Sys.notifyStep]
    (try split_ifs) <;> exact hs

theorem RegisteredAt.event {s s' : Sys} {e : EventInput} (hs : RegisteredAt s s.pc)
    (h : eventStep s e = some s') : RegisteredAt s' s'.pc := by
  have he := eventStep_effect h
  have hr : s'.stack.registered = s.stack.registered := by
    funext n
    simp only [REDStack.registered, REDStack.slave, he.slaves]
  rw [he.pc]
  cases hp : s.pc <;> rw [hp] at hs <;> simpa [RegisteredAt, hr, he.uidsAdded, he.slaveNum] using hs

theorem reachable_registeredAt {s : Sys} (hs : Reachable s) : RegisteredAt s s.pc :=
  @Reachable.induction (fun s => RegisteredAt s s.pc) registeredAt_init
    (fun _ _ _ _ _ hi h => hi.poll h) (fun _ _ _ _ hi h => hi.event h) s hs

/-- Before `slave_num` is set, `red_stack_dispatch_to_spi` discards every unicast
request: the lookup fails and nothing is queued. -/
theorem dispatchToSpi_discarded {s : Sys} (he : s.event = .idle) (hn : s.stack.slaveNum = 0)
    {request : Packet} (hu : request.uid ≠ 0) (memory : Packet) :
    eventStep s (.dispatchToSpi request memory) = some s := by
  simp [eventStep, he, hu, spiGetSlaveForUid_eq_none_of_slaveNum _ hn]

set_option maxRecDepth 4000 in
/-- Slot 0 has answered the enumerate request and its UID 1 was published with
`stack_add_uid`, yet a request for UID 1 is discarded. -/
theorem registered_uid_discarded :
    ∃ s, Reachable s ∧ s.uidsAdded = [1] ∧ (s.stack.slave 0).knownUids = [1] ∧
      ∀ request memory, request.uid = 1 → eventStep s (.dispatchToSpi request memory) = some s := by
  obtain ⟨s, hrun, hu, hk, he, hn⟩ := @Sys.exists_of_run
    (fun s => s.uidsAdded = [1] ∧ (s.stack.slave 0).knownUids = [1] ∧ s.event = .idle ∧
      s.stack.slaveNum = 0) _ (Sys.init 0 (Buf.zero 80)) (enumerateSlotZero 1) (by decide)
  exact ⟨s, (Reachable.init 0 (Buf.zero 80)).reflTransGen hrun, hu, hk,
    fun request memory h => dispatchToSpi_discarded he hn (by simp [h]) memory⟩

/-- Once the routing table is set up, a request for any UID published by
`stack_add_uid` is queued for a slot that registered that UID. -/
theorem dispatchToSpi_after_setup {s : Sys} (hs : Reachable s) (hd : s.pc.routingDone)
    (he : s.event = .idle) {request : Packet} (hu : request.uid ∈ s.uidsAdded)
    (h0 : request.uid ≠ 0) (memory : Packet) :
    ∃ slot, request.uid ∈ (s.stack.slave slot).knownUids ∧
      eventStep s (.dispatchToSpi request memory) = some (s.pushRequest slot request memory) := by
  have hr := reachable_registeredAt hs
  have hreg : s.uidsAdded = s.stack.registered s.stack.slaveNum := by
    revert hr hd
    cases s.pc <;> simp [RegisteredAt, PollPc.routingDone]
  rw [hreg, REDStack.registered, List.mem_flatMap] at hu
  obtain ⟨i, hi, hui⟩ := hu
  obtain ⟨slot, hslot⟩ : ∃ slot, spiGetSlaveForUid s.stack request.uid = some slot :=
    Option.isSome_iff_exists.mp (List.find?_isSome.mpr ⟨i, hi, by simpa using hui⟩)
  refine ⟨slot, by simpa using List.find?_some hslot, ?_⟩
  simp [eventStep, he, h0, hslot]

set_option maxRecDepth 4000 in
theorem dispatchToSpi_after_setup_uid_one :
    ∃ s slot, Reachable s ∧ (requestFor 1 8).uid ∈ (s.stack.slave slot).knownUids ∧
      eventStep s (.dispatchToSpi (requestFor 1 8) (Buf.zero 80)) =
        some (s.pushRequest slot (requestFor 1 8) (Buf.zero 80)) := by
  obtain ⟨s, hrun, hd, he, hu⟩ := @Sys.exists_of_run
    (fun s => s.pc.routingDone ∧ s.event = .idle ∧ (requestFor 1 8).uid ∈ s.uidsAdded) _
    (Sys.init 0 (Buf.zero 80)) (discoverOneSlave 1 ++ [.quiet]) (by decide)
  have hs := (Reachable.init 0 (Buf.zero 80)).reflTransGen hrun
  obtain ⟨slot, hk, hstep⟩ := dispatchToSpi_after_setup hs hd he hu (by decide) (Buf.zero 80)
  exact ⟨s, slot, hs, hk, hstep⟩

/-! ### The routing table on return -/

theorem zero_not_mem_enumerateUids (response : Packet) : 0 ∉ enumerateUids response :=
  fun h => absurd (List.mem_takeWhile_imp h) (by decide)

/-- The UIDs of the slave table: each slot below `n` holds at most
`PACKET_STACK_ENUMERATE_MAX_UIDS` of them, none 0, and every other slot holds none. -/
def UidsBelow (st : REDStack) (n : Nat) : Prop :=
  ∀ i, (i < n → (st.slave i).uidsNum ≤ packetStackEnumerateMaxUids ∧
      ∀ u ∈ (st.slave i).knownUids, u ≠ 0) ∧
    (n ≤ i → (st.slave i).uidsNum = 0)

namespace UidsBelow

variable {st : REDStack} {n : Nat}

theorem congr {st' : REDStack} (h : UidsBelow st n) (hs : st'.slaves = st.slaves) :
    UidsBelow st' n := by
  simpa only [UidsBelow, REDStack.slave, hs] using h

theorem setStatus (h : UidsBelow st n) (j : Nat) (v : REDStackSlaveStatus) :
    UidsBelow (st.setStatus j v) n := by
  intro i
  rw [REDStack.setStatus, REDStack.slave_setSlave]
  split
  · next hij => rw [← hij.1]; exact h j
  · exact h i

theorem register {a : Nat} (h : UidsBelow st a) (ha : a < spiMaxSlaves) (uids : List UInt32)
    (hl : uids.length ≤ packetStackEnumerateMaxUids) (h0 : 0 ∉ uids) :
    UidsBelow (st.setSlave a ((st.slave a).register uids hl)) (a + 1) := by
  intro i
  rw [REDStack.slave_setSlave]
  split
  · next hi =>
    have hk : ((st.slave a).register uids hl).knownUids = uids := by
      simp [REDStackSlave.knownUids, REDStackSlave.register]
    refine ⟨fun _ => ⟨hl, fun u hu h' => h0 (h' ▸ hk ▸ hu)⟩, fun _ => by omega⟩
  · next hi =>
    have hia : i ≠ a := fun h' => hi ⟨h'.symm, h' ▸ ha⟩
    exact ⟨fun hlt => (h i).1 (by omega), fun hle => (h i).2 (by omega)⟩

end UidsBelow

/-- The UID facts at each point of the SPI thread: during the setup the slots below the
one it works on hold their UIDs, after it the slots below `slave_num`. -/
def UidsAt (s : Sys) : PollPc → Prop
  | .probe a | .sending a _ | .receiving a _ | .registering a | .routed a => UidsBelow s.stack a
  | _ => UidsBelow s.stack s.stack.slaveNum

theorem UidsAt.poll {s s' : Sys} {x : Transfer} {ok : Bool} (hs : UidsAt s s.pc)
    (hr : RegisteredAt s s.pc) (h : pollStep s x ok = some s') : UidsAt s' s'.pc := by
  cases pollStep_inv h with
  | probe a hp =>
    rw [hp] at hs
    unfold Sys.probeStep
    split_ifs
    · exact hs.setStatus a .available
    · exact hs
  | sending a t hp | receiving a t hp =>
    rw [hp] at hs
    simp only [Sys.sendingStep, Sys.receivingStep, Sys.setupAttempt]
    split_ifs
    · exact hs.setStatus _ _
    · exact hs.setStatus _ _
    · exact (hs.setStatus _ _).setStatus _ _
  | registering a hp =>
    rw [hp] at hs hr
    exact hs.register hr.1 _ _ (zero_not_mem_enumerateUids s.packet)
  | peeked item hp =>
    rw [hp] at hs
    obtain ⟨m, -, heq⟩ := s.peekedStep_eq item x
    have hu : UidsBelow (s.peekedStep item x).stack (s.peekedStep item x).stack.slaveNum := by
      rw [heq]
      exact hs.setStatus _ _
    rcases s.peekedStep_pc item x with ⟨_, _, hpc⟩ | hpc | hpc <;> rw [hpc] <;> exact hu
  | routed a hp =>
    rw [hp] at hs
    unfold Sys.routedStep
    split_ifs <;> exact hs
  | waiting hp _ | starting hp | loopTop hp | popping it r hp | notifying hp =>
    rw [hp] at hs
    simp only [Sys.startStep, Sys.loopTopStep, Sys.popStep, Sys.notifyStep]
    (try split_ifs) <;> exact hs

theorem UidsAt.event {s s' : Sys} {e : EventInput} (hs : UidsAt s s.pc)
    (h : eventStep s e = some s') : UidsAt s' s'.pc := by
  have he := eventStep_effect h
  rw [he.pc]
  cases hp : s.pc <;> rw [hp] at hs <;> simp only [UidsAt, he.slaveNum] <;> exact hs.congr he.slaves

/-- The attempt counters of the setup's phases stay below `RED_STACK_SPI_ROUTING_TRIES`. -/
def TriesAt : PollPc → Prop
  | .sending _ t | .receiving _ t => t < spiRoutingTries
  | _ => True

/-- A step of the SPI thread leaves its counter below the limit: a retry is taken only
while one is left. -/
theorem triesAt_pollStep {s s' : Sys} {x : Transfer} {ok : Bool} (h : pollStep s x ok = some s') :
    TriesAt s'.pc := by
  cases pollStep_inv h with
  | probe a _ =>
    unfold Sys.probeStep
    split_ifs <;> simp [TriesAt, spiRoutingTries]
  | sending a t _ | receiving a t _ =>
    simp only [Sys.sendingStep, Sys.receivingStep, Sys.setupAttempt]
    split_ifs <;> dsimp only [TriesAt] <;> first | decide | assumption
  | peeked item _ =>
    rcases s.peekedStep_pc item x with ⟨_, _, hpc⟩ | hpc | hpc <;> rw [hpc] <;> trivial
  | _ =>
    simp only [Sys.registerStep, Sys.routedStep, Sys.startStep, Sys.loopTopStep, Sys.popStep,
      Sys.notifyStep]
    (try split_ifs) <;> trivial

theorem reachable_triesAt {s : Sys} (hs : Reachable s) : TriesAt s.pc :=
  @Reachable.induction (fun s => TriesAt s.pc) (fun _ _ => trivial)
    (fun _ _ _ _ _ _ h => triesAt_pollStep h)
    (fun _ s' _ _ hi h => show TriesAt s'.pc by rw [(eventStep_effect h).pc]; exact hi) s hs

/-- A packet whose bytes 12 to 15 hold the word 7, the place of `uids[1]` in a
`StackEnumerateResponse`. -/
def stalePacket : Packet := (Buf.zero 80).set 12 7

set_option maxRecDepth 4000 in
/-- Two setups with the same traffic on the bus that differ only in what the SPI thread's
local packet held before: slot 0 answers with a 12-byte response whose only UID is 1.
The copy of the response leaves the bytes after it as they were, and the UID loop reads
on into them: the second setup registers and publishes the stale word 7 as a UID. -/
theorem enumerate_uids_read_stale_packet :
    ((Sys.init 0 (Buf.zero 80)).run (enumerateSlotZero 1)).map
        (fun s => ((s.stack.slave 0).knownUids, s.uidsAdded)) = some ([1], [1]) ∧
      ((Sys.init 0 stalePacket).run (enumerateSlotZero 1)).map
        (fun s => ((s.stack.slave 0).knownUids, s.uidsAdded)) = some ([1, 7], [1, 7]) := by
  decide

end Brickd.RedStack
