import Brickd.Engine

/-!
Which slaves the SPI thread talks to. The routing table setup marks the slots it finds
present one after another and the first silent slot absent; `slave_num` is then the
number found. From there on every queued item and the round-robin cursor name a slot
below `slave_num`, and a frame that passes the checks never makes a slot absent, so the
slots below `slave_num` stay present and all others stay absent. Every slave the tick
loop exchanges with is present: the `not present in stack` branch of
`red_stack_spi_transceive_message` is never taken from the loop.
-/
namespace Brickd.RedStack

/-- Slots below `n` are present (AVAILABLE or AVAILABLE_BUSY), all others ABSENT. -/
def PresentBelow (st : REDStack) (n : Nat) : Prop := ∀ i, st.status i ≠ .absent ↔ i < n

namespace PresentBelow

variable {st : REDStack} {n : Nat}

theorem setStatus_next {a : Nat} (h : PresentBelow st a) (ha : a < spiMaxSlaves)
    {v : REDStackSlaveStatus} (hv : v ≠ .absent) : PresentBelow (st.setStatus a v) (a + 1) := by
  intro i
  rw [REDStack.status_setStatus]
  by_cases hi : i = a
  · simp [hi, ha, hv]
  · rw [if_neg (fun h' => hi h'.1.symm), h i]
    omega

theorem setStatus_absent {a : Nat} (h : PresentBelow st (a + 1)) (ha : a < spiMaxSlaves) :
    PresentBelow (st.setStatus a .absent) a := by
  intro i
  rw [REDStack.status_setStatus]
  by_cases hi : i = a
  · simp [hi, ha]
  · rw [if_neg (fun h' => hi h'.1.symm), h i]
    omega

theorem setStatus_present {j : Nat} (h : PresentBelow st n) (hj : j < n)
    {v : REDStackSlaveStatus} (hv : v ≠ .absent) : PresentBelow (st.setStatus j v) n := by
  intro i
  rw [REDStack.status_setStatus]
  split
  · next hij => simp only [ne_eq, hv, not_false_eq_true, true_iff]; omega
  · exact h i

theorem transceive {s : Sys} {slot : Nat} (h : PresentBelow s.stack n) (hslot : slot < n)
    (request : Option Packet) (recv : Packet) (x : Transfer) :
    PresentBelow (s.transceive slot request recv x).2.stack n :=
  h.setStatus_present hslot (spiTransceiveMessage_status_ne_absent _ _ _ _ ((h slot).mpr hslot))

end PresentBelow

/-- The facts of the setup while it works on slot `a`: `slave_num` and the cursor are
still 0, and exactly the slots up to `a` are present. -/
def SetupAt (s : Sys) (a : Nat) : Prop :=
  s.stack.slaveNum = 0 ∧ s.cycle = 0 ∧ a < spiMaxSlaves ∧ PresentBelow s.stack (a + 1)

/-- The targeting facts at each point of the SPI thread: during the setup `slave_num` is
still 0 and the slots below the one being probed are present; after it, the cursor and
the peeked item name present slots. -/
def TargetAt (s : Sys) : PollPc → Prop
  | .probe a | .routed a =>
    s.stack.slaveNum = 0 ∧ s.cycle = 0 ∧ a ≤ spiMaxSlaves ∧ PresentBelow s.stack a
  | .sending a _ | .receiving a _ | .registering a => SetupAt s a
  | .peeked item =>
    PresentBelow s.stack s.stack.slaveNum ∧ s.cycle < s.stack.slaveNum ∧
      ∀ it ∈ item, it.slave < s.stack.slaveNum
  | .returned =>
    PresentBelow s.stack s.stack.slaveNum ∧ (0 < s.stack.slaveNum → s.cycle < s.stack.slaveNum)
  | _ => PresentBelow s.stack s.stack.slaveNum ∧ s.cycle < s.stack.slaveNum

/-- The targeting invariant: queued items name slots below `slave_num`, and the facts of
the SPI thread's current point. -/
structure Targeting (s : Sys) : Prop where
  queue : ∀ it ∈ s.stack.packetToSpiQueue, it.slave < s.stack.slaveNum
  at_pc : TargetAt s s.pc

theorem targeting_init (f : UInt8) (p : Packet) : Targeting (Sys.init f p) := by
  refine ⟨by simp [Sys.init, initialStack], rfl, rfl, by decide, fun i => ?_⟩
  simp only [Sys.init, initialStack, REDStack.status, REDStack.slave, spiMaxSlaves]
  by_cases hi : i < 8
  · simp [List.getD_eq_getElem?_getD, hi, REDStackSlave.initial]
  · have h8 : (List.range 8).length ≤ i := by simp only [List.length_range]; omega
    simp [List.getD_eq_getElem?_getD, List.getElem?_eq_none h8]
    rfl

/-- An attempt of either phase of the setup keeps the targeting facts, whatever the
exchange gives: the slot stays present, or it is absent once the attempts run out. -/
theorem Targeting.setupAttempt {s : Sys} {a t flag : Nat} {request : Option Packet}
    {retry done : PollPc} (x : Transfer) (hq : ∀ it ∈ s.stack.packetToSpiQueue, it.slave < s.stack.slaveNum)
    (hs : SetupAt s a) (hretry : ∀ s', SetupAt s' a → TargetAt s' retry)
    (hdone : ∀ s', SetupAt s' a → TargetAt s' done) :
    Targeting (s.setupAttempt a t request flag retry done x) := by
  obtain ⟨hn, hc, ha, hb⟩ := hs
  have hb' := hb.transceive (Nat.lt_succ_self a) request s.packet x
  have hq' : ∀ it ∈ (s.transceive a request s.packet x).2.stack.packetToSpiQueue,
      it.slave < (s.transceive a request s.packet x).2.stack.slaveNum := by
    simpa [Sys.transceive_snd] using hq
  have hn' : (s.transceive a request s.packet x).2.stack.slaveNum = 0 := by
    simpa [Sys.transceive_snd] using hn
  simp only [Sys.setupAttempt]
  split_ifs
  · exact ⟨hq', hdone _ ⟨hn', hc, ha, hb'⟩⟩
  · exact ⟨hq', hretry _ ⟨hn', hc, ha, hb'⟩⟩
  · exact ⟨by simpa using hq', by simpa using hn', hc, ha.le, hb'.setStatus_absent ha⟩

theorem Targeting.poll {s s' : Sys} {x : Transfer} {ok : Bool} (hs : Targeting s)
    (h : pollStep s x ok = some s') : Targeting s' := by
  obtain ⟨hq, hpc⟩ := hs
  cases pollStep_inv h with
  | probe a hp =>
    rw [hp] at hpc
    obtain ⟨hn, hc, ha, hb⟩ := hpc
    unfold Sys.probeStep
    split_ifs with hlt
    · exact ⟨by simpa using hq, by simpa using hn, hc, hlt, hb.setStatus_next hlt (by decide)⟩
    · exact ⟨hq, hn, hc, ha, hb⟩
  | sending a t hp | receiving a t hp =>
    rw [hp] at hpc
    exact Targeting.setupAttempt x hq hpc (fun _ h => h) (fun _ h => h)
  | registering a hp =>
    rw [hp] at hpc
    obtain ⟨hn, hc, ha, hb⟩ := hpc
    refine ⟨by simpa [Sys.registerStep] using hq, by simpa [Sys.registerStep] using hn, hc, ha,
      fun i => ?_⟩
    have := REDStack.status_setSlave s.stack a i
      ((s.stack.slave a).register (enumerateUids s.packet) (length_enumerateUids s.packet)) rfl
    simpa only [Sys.registerStep, this] using hb i
  | routed a hp =>
    rw [hp] at hpc
    obtain ⟨hn, hc, ha, hb⟩ := hpc
    have hq0 : s.stack.packetToSpiQueue = [] :=
      List.eq_nil_iff_forall_not_mem.mpr fun it hit => by simpa [hn] using hq it hit
    refine ⟨by simp [Sys.routedStep, hq0], ?_⟩
    unfold Sys.routedStep
    split_ifs with ha0
    · exact ⟨hb, fun h0 => absurd h0 (by simp [ha0])⟩
    · exact ⟨hb, by simp only [hc]; omega⟩
  | loopTop hp =>
    rw [hp] at hpc
    obtain ⟨hb, hc⟩ := hpc
    unfold Sys.loopTopStep
    split_ifs
    · exact ⟨hq, hb, hc, fun it hit => hq it (List.mem_of_mem_head? hit)⟩
    · exact ⟨hq, hb, fun _ => hc⟩
  | peeked item hp =>
    rw [hp] at hpc
    obtain ⟨hb, hc, hit⟩ := hpc
    obtain ⟨m, hm, heq⟩ := s.peekedStep_eq item x
    have hslot : tickSlot s.cycle item < s.stack.slaveNum := by
      cases item with
      | none => exact hc
      | some it => exact hit it rfl
    have hb' := hb.setStatus_present hslot (v := m.val.status)
      (hm ▸ spiTransceiveMessage_status_ne_absent _ _ _ _ ((hb _).mpr hslot))
    have hq' : ∀ it ∈ (s.peekedStep item x).stack.packetToSpiQueue,
        it.slave < (s.peekedStep item x).stack.slaveNum := by
      rw [heq]
      simpa using hq
    have hb'' : PresentBelow (s.peekedStep item x).stack (s.peekedStep item x).stack.slaveNum := by
      rw [heq]
      exact hb'
    have hc' : (s.peekedStep item x).cycle < (s.peekedStep item x).stack.slaveNum := by
      rw [heq]
      cases item <;> dsimp only [REDStack.slaveNum_setStatus] <;> (try split_ifs) <;> omega
    refine ⟨hq', ?_⟩
    rcases s.peekedStep_pc item x with ⟨_, _, hpc⟩ | hpc | hpc <;> rw [hpc] <;> exact ⟨hb'', hc'⟩
  | popping it r hp =>
    rw [hp] at hpc
    refine ⟨fun it' h' => hq it' (List.mem_of_mem_tail h'), ?_⟩
    unfold Sys.popStep
    split_ifs <;> exact hpc
  | starting hp | notifying hp | waiting hp _ =>
    rw [hp] at hpc
    exact ⟨hq, hpc⟩

theorem TargetAt.congr {s s' : Sys} {p : PollPc} (h : TargetAt s p)
    (hsl : s'.stack.slaves = s.stack.slaves) (hn : s'.stack.slaveNum = s.stack.slaveNum)
    (hc : s'.cycle = s.cycle) : TargetAt s' p := by
  have hpb : PresentBelow s'.stack = PresentBelow s.stack :=
    funext fun n => by simp only [PresentBelow, REDStack.status, REDStack.slave, hsl]
  cases p <;> simpa only [TargetAt, SetupAt, hpb, hn, hc] using h

theorem Targeting.event {s s' : Sys} {e : EventInput} (hs : Targeting s)
    (h : eventStep s e = some s') : Targeting s' := by
  have he := eventStep_effect h
  obtain ⟨new, hq, -, hnew⟩ := he.queue
  refine ⟨fun it hit => ?_, he.pc ▸ hs.at_pc.congr he.slaves he.slaveNum he.cycle⟩
  rw [he.slaveNum]
  rw [hq, List.mem_append] at hit
  exact hit.elim (hs.queue it) (hnew it)

theorem reachable_targeting {s : Sys} (hs : Reachable s) : Targeting s :=
  Reachable.induction targeting_init (fun _ _ _ _ _ hi h => hi.poll h)
    (fun _ _ _ _ hi h => hi.event h) hs

/-- A tick whose slave is present selects that slave on the bus, unless it refuses a
request too long for a packet. -/
theorem peekedStep_selected {s : Sys} {item : Option REDStackPacket} (x : Transfer)
    (h : s.stack.status (tickSlot s.cycle item) ≠ .absent) :
    (s.peekedStep item x).selected = s.selected ++ [tickSlot s.cycle item] ∨
      ∃ it, item = some it ∧ sizeofPacket < it.packet.headerLength.toNat ∧
        (s.peekedStep item x).selected = s.selected := by
  obtain ⟨m, hm, heq⟩ := s.peekedStep_eq item x
  rw [heq]
  dsimp only
  by_cases htx : m.val.tx.isSome
  · exact .inl (if_pos htx)
  · rw [hm, spiTransceiveMessage_tx_isSome] at htx
    obtain ⟨p, hp, hlen⟩ := (sendPlan_isSome_of_ne_absent h).resolve_left htx
    obtain ⟨it, rfl, rfl⟩ := Option.map_eq_some'.mp hp
    refine .inr ⟨it, rfl, hlen, if_neg ?_⟩
    rwa [hm, spiTransceiveMessage_tx_isSome]

theorem TargetAt.routed {s : Sys} {p : PollPc} (h : TargetAt s p) (hd : p.routingDone) :
    PresentBelow s.stack s.stack.slaveNum ∧ (0 < s.stack.slaveNum → s.cycle < s.stack.slaveNum) := by
  cases p <;> simp only [PollPc.routingDone, Bool.false_eq_true] at hd <;>
    first | exact h | exact ⟨h.1, fun _ => h.2⟩ | exact ⟨h.1, fun _ => h.2.1⟩

/-- Every queued item names a slot below `slave_num`; once the routing table is set up,
exactly the slots below `slave_num` are present and the cursor is below `slave_num`; and
every tick selects on the bus one present slave below `slave_num`, unless it refuses a
request too long for a packet, whose slave is present as well: the `not present in
stack` branch is never taken. -/
theorem spi_targets_present {s : Sys} (hs : Reachable s) :
    (∀ it ∈ s.stack.packetToSpiQueue, it.slave < s.stack.slaveNum) ∧
      (s.pc.routingDone →
        (∀ i, s.stack.status i ≠ .absent ↔ i < s.stack.slaveNum) ∧
          (0 < s.stack.slaveNum → s.cycle < s.stack.slaveNum)) ∧
      ∀ item x ok s', s.pc = .peeked item → pollStep s x ok = some s' →
        ∃ slot, slot < s.stack.slaveNum ∧ s.stack.status slot ≠ .absent ∧
          (s'.selected = s.selected ++ [slot] ∨
            ∃ it, item = some it ∧ it.slave = slot ∧ sizeofPacket < it.packet.headerLength.toNat ∧
              s'.selected = s.selected) := by
  obtain ⟨hq, hpc⟩ := reachable_targeting hs
  refine ⟨hq, hpc.routed, fun item x ok s' hp h => ?_⟩
  rw [hp] at hpc
  obtain ⟨hb, hc, hit⟩ := hpc
  have hslot : tickSlot s.cycle item < s.stack.slaveNum := by
    cases item with
    | none => exact hc
    | some it => exact hit it rfl
  have hpres := (hb _).mpr hslot
  refine ⟨_, hslot, hpres, ?_⟩
  rw [pollStep_peeked hp h]
  exact (peekedStep_selected x hpres).imp_right fun ⟨it, hit, hlen, hsel⟩ =>
    ⟨it, hit, by rw [hit]; rfl, hlen, hsel⟩

set_option maxRecDepth 4000 in
theorem spi_targets_present_after_setup :
    ∃ s, Reachable s ∧ s.pc = .loopTop ∧ s.stack.slaveNum = 1 ∧
      ∀ i, s.stack.status i ≠ .absent ↔ i < 1 := by
  obtain ⟨s, hrun, hpc, hn⟩ := @Sys.exists_of_run
    (fun s => s.pc = .loopTop ∧ s.stack.slaveNum = 1) _ (Sys.init 0 (Buf.zero 80))
    (discoverOneSlave 1 ++ [.quiet]) (by decide)
  have hs := (Reachable.init 0 (Buf.zero 80)).reflTransGen hrun
  refine ⟨s, hs, hpc, hn, ?_⟩
  simpa [hn] using ((spi_targets_present hs).2.1 (by rw [hpc]; rfl)).1

end Brickd.RedStack
