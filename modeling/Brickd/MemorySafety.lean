import Brickd.Routing

/-!
Memory safety of the two threads. `red_stack_spi_transceive_message` never leaves its
arrays: the checks on the frame clocked in bound every index it reads from the length
byte. The routing table setup and the tick loop only call it and copy whole packets.
The one access that can leave an array is the `memcpy` of `red_stack_dispatch_to_spi`,
which copies `header.length` bytes into an 80-byte packet, for a unicast and for each
item of a broadcast alike. So in every interleaving in which the requests handed to
`red_stack_dispatch_to_spi` fit in a packet, no access of either thread leaves its array.
-/
namespace Brickd.RedStack

/-- A step of the SPI thread never accesses outside an array. -/
theorem pollStep_outside {s s' : Sys} {x : Transfer} {ok : Bool} (h : pollStep s x ok = some s') :
    s'.outside = s.outside := by
  cases pollStep_inv h with
  | peeked item _ =>
    obtain ⟨m, hm, heq⟩ := s.peekedStep_eq item x
    rw [heq, hm, spiTransceiveMessage_outside, Bool.or_false]
  | sending a t _ | receiving a t _ =>
    simp only [Sys.sendingStep, Sys.receivingStep, Sys.setupAttempt]
    split_ifs <;> simp [Sys.transceive, spiTransceiveMessage_outside]
  | waiting _ _ => rfl
  | probe _ _ | registering _ _ | routed _ _ | starting _ | loopTop _ | popping _ _ _ | notifying _ =>
    simp only [Sys.probeStep, Sys.registerStep, Sys.routedStep, Sys.startStep, Sys.loopTopStep,
      Sys.popStep, Sys.notifyStep]
    all_goals split_ifs <;> rfl

/-- No access has left its array, and a broadcast in progress copies a request that fits
in a packet. -/
structure InBounds (s : Sys) : Prop where
  outside : s.outside = false
  broadcast : ∀ request is, s.event = .broadcasting request is →
    request.headerLength.toNat ≤ sizeofPacket

namespace InBounds

variable {s : Sys}

theorem init (f : UInt8) (p : Packet) : InBounds (Sys.init f p) :=
  ⟨rfl, fun _ _ h => absurd h (by simp [Sys.init])⟩

/-- The `memcpy` of a request that fits in a packet stays inside the item's packet. -/
theorem push (hb : InBounds s) {slot : Nat} {request : Packet} (memory : Packet) (e : EventPc)
    (hlen : request.headerLength.toNat ≤ sizeofPacket)
    (he : ∀ request is, e = .broadcasting request is → request.headerLength.toNat ≤ sizeofPacket) :
    InBounds { s.pushRequest slot request memory with event := e } :=
  ⟨by simpa [Sys.pushRequest, sizeofPacket, hb.outside] using hlen, he⟩

theorem poll {s' : Sys} {x : Transfer} {ok : Bool} (hb : InBounds s)
    (h : pollStep s x ok = some s') : InBounds s' :=
  ⟨(pollStep_outside h).trans hb.outside,
    fun request is he => hb.broadcast request is ((pollStep_effect h).event ▸ he)⟩

theorem event {s' : Sys} {e : EventInput} (hb : InBounds s) (h : eventStep s e = some s')
    (hreq : ∀ request memory, e = .dispatchToSpi request memory →
      request.headerLength.toNat ≤ sizeofPacket) : InBounds s' := by
  cases e with
  | dispatchToSpi request memory =>
    have hlen := hreq request memory rfl
    simp only [eventStep] at h
    split_ifs at h
    · cases h
      exact ⟨hb.outside, fun _ _ he => by cases he; exact hlen⟩
    · split at h <;> cases h
      · exact hb
      · exact hb.push memory s.event hlen hb.broadcast
  | broadcast memory =>
    simp only [eventStep] at h
    split at h
    · next request is he =>
      have hlen := hb.broadcast request is he
      split_ifs at h <;> cases h
      · exact hb.push memory _ hlen fun _ _ h => by cases h; exact hlen
      · exact ⟨hb.outside, fun _ _ h => by cases h⟩
    · cases h
  | dispatchFromSpi readOk =>
    simp only [eventStep] at h
    split_ifs at h <;> cases h <;> exact ⟨hb.outside, hb.broadcast⟩
  | exit =>
    simp only [eventStep] at h
    split_ifs at h <;> cases h <;> exact ⟨hb.outside, fun _ _ h => by cases h⟩
  | join =>
    simp only [eventStep] at h
    split_ifs at h
    cases h
    exact ⟨hb.outside, fun _ _ h => by cases h⟩

end InBounds

/-- Along a run whose requests fit in a packet, every state keeps `InBounds`. -/
theorem run_inBounds {s s' : Sys} (hb : InBounds s) {as : List Action} (h : s.run as = some s')
    (hreq : ∀ request memory, Action.event (.dispatchToSpi request memory) ∈ as →
      request.headerLength.toNat ≤ sizeofPacket) : InBounds s' :=
  Sys.run_induction h hb (fun _ _ _ _ _ hb hp => hb.poll hp)
    fun _ _ _ hm hb he => hb.event he fun request memory h => hreq request memory (h ▸ hm)

/-- In every interleaving of the two threads from `red_stack_init` in which each request
handed to `red_stack_dispatch_to_spi` has `header.length` at most `sizeof(Packet)`, no
access of either thread leaves its array: not the exchanges of the setup and of the
ticks, nor the copies into the queue. -/
theorem accesses_stay_in_bounds (f : UInt8) (p : Packet) {as : List Action} {s' : Sys}
    (h : (Sys.init f p).run as = some s')
    (hreq : ∀ request memory, Action.event (.dispatchToSpi request memory) ∈ as →
      request.headerLength.toNat ≤ sizeofPacket) : s'.outside = false :=
  (run_inBounds (.init f p) h hreq).outside

set_option maxRecDepth 4000 in
/-- The setup with one slave, an 8-byte unicast and an 8-byte broadcast, and a tick that
sends the first stay inside every array. -/
theorem accesses_stay_in_bounds_one_slave :
    ∃ s', (Sys.init 0 (Buf.zero 80)).run dispatchUnicastAndBroadcast = some s' ∧
      s'.outside = false := by
  obtain ⟨s', h⟩ := Option.isSome_iff_exists.mp
    (show ((Sys.init 0 (Buf.zero 80)).run dispatchUnicastAndBroadcast).isSome by decide)
  refine ⟨s', h, accesses_stay_in_bounds 0 (Buf.zero 80) h fun request memory hm => ?_⟩
  simp [dispatchUnicastAndBroadcast, discoverOneSlave, enumerateSlotZero, Action.quiet, Action.bus] at hm
  rcases hm with ⟨rfl, -⟩ | ⟨rfl, -⟩ <;> decide

end Brickd.RedStack
