import Brickd.Dispatch
import Brickd.Fifo
import Brickd.RoundRobin

/-!
Routing from end to end. Once `red_stack_spi_create_routing_table` has assigned
`slave_num`, the routing table is frozen: no later step of either thread changes
`slave_num` or the UIDs a slot registered, so `red_stack_spi_get_slave_for_uid` gives
every UID the same slot from then on. This is what lets the unicast path of
`red_stack_dispatch_to_spi` look the slot up outside the queue mutex. Before that point
`slave_num` is 0 and nothing is queued. So in every run whose requests carry a whole
`PacketHeader`, every item the SPI thread sends or still holds in its queue names a slot
below `slave_num` and is a broadcast, for UID 0, or carries a UID that its slot registered.
-/
namespace Brickd.RedStack

theorem REDStack.knownUids_setStatus (st : REDStack) (i j : Nat) (v : REDStackSlaveStatus) :
    ((st.setStatus i v).slave j).knownUids = (st.slave j).knownUids := by
  rw [REDStack.setStatus, REDStack.slave_setSlave]
  split
  · next h => rw [h.1]; rfl
  · rfl

theorem spiGetSlaveForUid_congr {st st' : REDStack} (hn : st'.slaveNum = st.slaveNum)
    (hk : ∀ j, (st'.slave j).knownUids = (st.slave j).knownUids) (uid : UInt32) :
    spiGetSlaveForUid st' uid = spiGetSlaveForUid st uid := by
  simp only [spiGetSlaveForUid, hn, hk]

/-! ### The frozen table -/

/-- After the setup no step of the SPI thread changes the UIDs of a slot: a tick only
sets statuses, `packet_from_spi` and the queue. -/
theorem pollStep_knownUids {s s' : Sys} {x : Transfer} {ok : Bool} (hd : s.pc.routingDone)
    (h : pollStep s x ok = some s') (j : Nat) :
    (s'.stack.slave j).knownUids = (s.stack.slave j).knownUids := by
  cases pollStep_inv h with
  | peeked item _ =>
    obtain ⟨m, -, heq⟩ := s.peekedStep_eq item x
    rw [heq]
    exact REDStack.knownUids_setStatus ..
  | probe _ hp | sending _ _ hp | receiving _ _ hp | registering _ hp | routed _ hp =>
    simp [hp, PollPc.routingDone] at hd
  | loopTop _ =>
    unfold Sys.loopTopStep
    split_ifs <;> rfl
  | starting _ | popping _ _ _ | notifying _ | waiting _ _ => rfl

/-- A step of either thread after the setup keeps it over, and keeps `slave_num` and the
UIDs of every slot. -/
theorem Step.table {s s' : Sys} (h : Step s s') (hd : s.pc.routingDone) :
    s'.pc.routingDone ∧ s'.stack.slaveNum = s.stack.slaveNum ∧
      ∀ j, (s'.stack.slave j).knownUids = (s.stack.slave j).knownUids := by
  cases h with
  | poll x ok h => exact ⟨(pollStep_routingDone hd h).1, (pollStep_routingDone hd h).2,
      pollStep_knownUids hd h⟩
  | event e h =>
    have he := eventStep_effect h
    exact ⟨he.pc ▸ hd, he.slaveNum, fun j => by simp only [REDStack.slave, he.slaves]⟩

/-- Once `slave_num` is assigned the routing table is frozen: in every later state of
every interleaving, `slave_num` and the UIDs of every slot are as they were, and
`red_stack_spi_get_slave_for_uid` gives every UID the slot it gave before. -/
theorem routing_table_frozen {s s' : Sys} (hd : s.pc.routingDone)
    (h : Relation.ReflTransGen Step s s') :
    s'.stack.slaveNum = s.stack.slaveNum ∧
      (∀ j, (s'.stack.slave j).knownUids = (s.stack.slave j).knownUids) ∧
      ∀ uid, spiGetSlaveForUid s'.stack uid = spiGetSlaveForUid s.stack uid := by
  suffices hs : s'.pc.routingDone ∧ s'.stack.slaveNum = s.stack.slaveNum ∧
      ∀ j, (s'.stack.slave j).knownUids = (s.stack.slave j).knownUids from
    ⟨hs.2.1, hs.2.2, spiGetSlaveForUid_congr hs.2.1 hs.2.2⟩
  induction h with
  | refl => exact ⟨hd, rfl, fun _ => rfl⟩
  | tail _ hstep ih =>
    obtain ⟨hd', hn', hk'⟩ := hstep.table ih.1
    exact ⟨hd', hn'.trans ih.2.1, fun j => (hk' j).trans (ih.2.2 j)⟩

set_option maxRecDepth 4000 in
/-- The table after the setup found one slave, and after a request for its UID 1 was
queued and sent: still one slot, and UID 1 still found at slot 0. -/
theorem routing_table_frozen_after_send :
    ∃ s s', Reachable s ∧ s.pc.routingDone ∧ Relation.ReflTransGen Step s s' ∧ s'.sent ≠ [] ∧
      s'.stack.slaveNum = s.stack.slaveNum ∧
      spiGetSlaveForUid s'.stack 1 = spiGetSlaveForUid s.stack 1 := by
  obtain ⟨s, s', hrun, hd, hrun', hsent⟩ := @Sys.exists_of_two_runs
    (fun s => s.pc.routingDone) (fun _ s' => s'.sent ≠ []) _ _ (Sys.init 0 (Buf.zero 80))
    (discoverOneSlave 1 ++ [.quiet])
    [.event (.dispatchToSpi (requestFor 1 8) (Buf.zero 80)), .quiet, .bus 84 (Buf.zero 84)]
    (by decide)
  obtain ⟨hn, -, hl⟩ := routing_table_frozen hd hrun'
  exact ⟨s, s', (Reachable.init 0 (Buf.zero 80)).reflTransGen hrun, hd, hrun', hsent, hn, hl 1⟩

/-! ### Every item is routed -/

/-- During the setup `slave_num` is still 0. -/
theorem routingDone_of_slaveNum_pos {s : Sys} (hs : Reachable s) (h : 0 < s.stack.slaveNum) :
    s.pc.routingDone := by
  have ht := (reachable_targeting hs).at_pc
  cases hp : s.pc <;> rw [hp] at ht <;> first | rfl | exact absurd ht.1 (by omega)

/-- The items pushed hold every item sent and every item still queued. -/
theorem mem_pushed_of_sent_or_queued {s : Sys} (hs : Reachable s) {it : REDStackPacket}
    (h : it ∈ s.sent ∨ it ∈ s.stack.packetToSpiQueue) : it ∈ s.pushed := by
  have hf := reachable_fifoAt hs
  revert hf
  cases s.pc with
  | peeked item =>
    cases item with
    | none => intro hf; rw [hf]; exact List.mem_append.mpr h
    | some _ => intro hf; rw [hf.2]; exact List.mem_append.mpr h
  | popping head r =>
    rintro ⟨hh, hl, -, hf⟩
    rw [hf]
    obtain ⟨q, hq⟩ : ∃ q, s.stack.packetToSpiQueue = head :: q :=
      ⟨_, (List.cons_head?_tail hh).symm⟩
    rcases h with h | h
    · exact List.mem_append_left _ h
    · rw [hq] at h ⊢
      rcases List.mem_cons.mp h with rfl | h
      · exact List.mem_append_left _ (List.mem_of_getLast?_eq_some hl)
      · exact List.mem_append_right _ h
  | _ => intro hf; rw [hf]; exact List.mem_append.mpr h

/-- The `memcpy` of at least four bytes gives the item the request's UID. -/
theorem uid_copy_request (request memory : Packet) (hlen : 4 ≤ request.headerLength.toNat) :
    Packet.uid (memory.copy 0 request 0 request.headerLength.toNat).val = request.uid := by
  have h : ∀ k < 4, (memory.copy 0 request 0 request.headerLength.toNat).val.get k = request.get k :=
    fun k hk => by
      rw [Buf.get_copy _ _ _ _ _ _ (by omega), if_pos ⟨Nat.zero_le _, by omega⟩]
      simp
  simp only [Packet.uid, Buf.word32, h 0 (by omega), h 1 (by omega), h 2 (by omega),
    h 3 (by omega)]

/-- An item is routed: it names a slot below `slave_num`, and it is a broadcast or carries
a UID that its slot registered. -/
def RoutedItem (st : REDStack) (it : REDStackPacket) : Prop :=
  it.slave < st.slaveNum ∧ (it.packet.uid = 0 ∨ it.packet.uid ∈ (st.slave it.slave).knownUids)

/-- The routing invariant: every item pushed is routed, and a broadcast in progress is for
UID 0 with a whole header. -/
structure Routed (s : Sys) : Prop where
  pushed : ∀ it ∈ s.pushed, RoutedItem s.stack it
  broadcast : ∀ request is, s.event = .broadcasting request is →
    request.uid = 0 ∧ sizeofPacketHeader ≤ request.headerLength.toNat

namespace Routed

variable {s : Sys}

theorem init (f : UInt8) (p : Packet) : Routed (Sys.init f p) :=
  ⟨fun _ h => absurd h (List.not_mem_nil _), fun _ _ h => absurd h (by simp [Sys.init])⟩

/-- A push of a request with a whole header for a slot below `slave_num` that is a
broadcast or registered the request's UID keeps every item routed. -/
theorem push (hr : Routed s) {slot : Nat} {request : Packet} (memory : Packet) (e : EventPc)
    (hslot : slot < s.stack.slaveNum)
    (huid : request.uid = 0 ∨ request.uid ∈ (s.stack.slave slot).knownUids)
    (hlen : sizeofPacketHeader ≤ request.headerLength.toNat)
    (he : ∀ request is, e = .broadcasting request is →
      request.uid = 0 ∧ sizeofPacketHeader ≤ request.headerLength.toNat) :
    Routed { s.pushRequest slot request memory with event := e } := by
  refine ⟨fun it hit => ?_, he⟩
  simp only [Sys.pushRequest, List.mem_append, List.mem_singleton] at hit
  rcases hit with hit | rfl
  · exact hr.pushed it hit
  · exact ⟨hslot, by
      rw [uid_copy_request _ _ (by unfold sizeofPacketHeader at hlen; omega)]
      exact huid⟩

theorem poll {s' : Sys} {x : Transfer} {ok : Bool} (hs : Reachable s) (hr : Routed s)
    (h : pollStep s x ok = some s') : Routed s' := by
  have he := pollStep_effect h
  refine ⟨fun it hit => ?_, fun request is hb => hr.broadcast request is (he.event ▸ hb)⟩
  obtain ⟨hlt, hu⟩ := hr.pushed it (he.pushed ▸ hit)
  have hd := routingDone_of_slaveNum_pos hs (by omega)
  exact ⟨(pollStep_routingDone hd h).2 ▸ hlt, by rwa [pollStep_knownUids hd h]⟩

theorem event {s' : Sys} {e : EventInput} (hr : Routed s) (h : eventStep s e = some s')
    (hreq : ∀ request memory, e = .dispatchToSpi request memory →
      sizeofPacketHeader ≤ request.headerLength.toNat) : Routed s' := by
  cases e with
  | dispatchToSpi request memory =>
    have hlen := hreq request memory rfl
    simp only [eventStep] at h
    split_ifs at h with _ hu
    · cases h
      exact ⟨hr.pushed, fun _ _ hb => by cases hb; exact ⟨hu, hlen⟩⟩
    · split at h
      · cases h; exact hr
      · next slot hl =>
        cases h
        obtain ⟨hlt, hmem, -⟩ := spiGetSlaveForUid_eq_some_iff.mp hl
        exact hr.push memory s.event hlt (.inr hmem) hlen hr.broadcast
  | broadcast memory =>
    simp only [eventStep] at h
    split at h
    · next request is hb =>
      obtain ⟨hu, hlen⟩ := hr.broadcast request is hb
      split_ifs at h with hlt
      · cases h
        exact hr.push memory _ hlt (.inl hu) hlen fun _ _ h => by cases h; exact ⟨hu, hlen⟩
      · cases h
        exact ⟨hr.pushed, fun _ _ h => by cases h⟩
    · cases h
  | dispatchFromSpi readOk =>
    simp only [eventStep] at h
    split_ifs at h <;> cases h <;> exact ⟨hr.pushed, hr.broadcast⟩
  | exit =>
    simp only [eventStep] at h
    split_ifs at h <;> cases h <;> exact ⟨hr.pushed, fun _ _ h => by cases h⟩
  | join =>
    simp only [eventStep] at h
    split_ifs at h
    cases h
    exact ⟨hr.pushed, fun _ _ h => by cases h⟩

end Routed

/-- Along a run whose requests carry a whole header, every reachable state keeps the
routing invariant. -/
theorem run_routed {s s' : Sys} (hs : Reachable s) (hr : Routed s) {as : List Action}
    (h : s.run as = some s')
    (hreq : ∀ request memory, Action.event (.dispatchToSpi request memory) ∈ as →
      sizeofPacketHeader ≤ request.headerLength.toNat) : Reachable s' ∧ Routed s' :=
  @Sys.run_induction (fun t => Reachable t ∧ Routed t) _ _ _ h ⟨hs, hr⟩
    (fun _ _ x ok _ hi hp => ⟨hi.1.step (.poll x ok hp), hi.2.poll hi.1 hp⟩)
    fun _ _ e hm hi he => ⟨hi.1.step (.event e he),
      hi.2.event he fun request memory h => hreq request memory (h ▸ hm)⟩

/-- In every interleaving of the two threads from `red_stack_init` in which each request
handed to `red_stack_dispatch_to_spi` carries a whole `PacketHeader`, every item the SPI
thread has sent and every item still queued names a slot below `slave_num`, and is either
a broadcast, with UID 0, or carries a UID that its slot registered during the setup. -/
theorem dispatched_items_routed (f : UInt8) (p : Packet) {as : List Action} {s' : Sys}
    (h : (Sys.init f p).run as = some s')
    (hreq : ∀ request memory, Action.event (.dispatchToSpi request memory) ∈ as →
      sizeofPacketHeader ≤ request.headerLength.toNat) :
    ∀ it, it ∈ s'.sent ∨ it ∈ s'.stack.packetToSpiQueue →
      it.slave < s'.stack.slaveNum ∧
        (it.packet.uid = 0 ∨ it.packet.uid ∈ (s'.stack.slave it.slave).knownUids) := by
  obtain ⟨hs, hr⟩ := run_routed (.init f p) (.init f p) h hreq
  exact fun it hit => hr.pushed it (mem_pushed_of_sent_or_queued hs hit)

/-- The setup finds one slave with UID 1, then an 8-byte request for UID 1 and a broadcast
of 8 bytes are dispatched, and the next tick sends the first. -/
def dispatchUnicastAndBroadcast : List Action :=
  discoverOneSlave 1 ++
    [.quiet, .event (.dispatchToSpi (requestFor 1 8) (Buf.zero 80)),
      .event (.dispatchToSpi (requestFor 0 8) (Buf.zero 80)), .event (.broadcast (Buf.zero 80)),
      .event (.broadcast (Buf.zero 80)), .quiet, .bus 84 (Buf.zero 84)]

set_option maxRecDepth 4000 in
theorem dispatched_items_routed_one_slave :
    ∃ s', (Sys.init 0 (Buf.zero 80)).run dispatchUnicastAndBroadcast = some s' ∧
      ∀ it, it ∈ s'.sent ∨ it ∈ s'.stack.packetToSpiQueue →
        it.slave < s'.stack.slaveNum ∧
          (it.packet.uid = 0 ∨ it.packet.uid ∈ (s'.stack.slave it.slave).knownUids) := by
  obtain ⟨s', h⟩ := Option.isSome_iff_exists.mp
    (show ((Sys.init 0 (Buf.zero 80)).run dispatchUnicastAndBroadcast).isSome by decide)
  refine ⟨s', h, dispatched_items_routed 0 (Buf.zero 80) h fun request memory hm => ?_⟩
  simp [dispatchUnicastAndBroadcast, discoverOneSlave, enumerateSlotZero, Action.quiet, Action.bus] at hm
  rcases hm with ⟨rfl, -⟩ | ⟨rfl, -⟩ <;> decide

end Brickd.RedStack
