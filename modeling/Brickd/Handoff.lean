import Brickd.Engine

/-!
The inbound hand-off. A tick that receives a packet leaves it in `packet_from_spi`,
writes one byte into the notification pipe and blocks in `semaphore_acquire`; the event
thread reads the byte, passes `packet_from_spi` to `network_dispatch_response` and
releases the semaphore. Every packet received is delivered at most once and in order,
and the next tick clears `packet_from_spi` only after its packet was delivered. The
hand-off does not survive two things the code allows: a `red_stack_exit` while a packet
is staged joins a thread that waits for the event thread, and a failed `pipe_write`,
whose result is ignored, leaves the SPI thread waiting for a byte that never comes.
-/
namespace Brickd.RedStack

/-- The hand-off at each point of the SPI thread: outside a hand-off every packet
received was delivered and neither a byte nor a permit is outstanding; from the receipt
to the acquire the last packet received is the one staged, until the event thread
delivers it and releases the permit. -/
def HandoffAt (s : Sys) : PollPc → Prop
  | .popping _ r =>
    s.pipe = 0 ∧ s.permits = 0 ∧
      if r &&& transceiveDataReceived ≠ 0 then s.received = s.delivered ++ [s.stack.packetFromSpi]
      else s.received = s.delivered
  | .notifying => s.pipe = 0 ∧ s.permits = 0 ∧ s.received = s.delivered ++ [s.stack.packetFromSpi]
  | .waiting =>
    s.pipe ≤ 1 ∧ s.permits = 0 ∧ s.received = s.delivered ++ [s.stack.packetFromSpi] ∨
      s.pipe = 0 ∧ s.permits = 1 ∧ s.received = s.delivered
  | _ => s.pipe = 0 ∧ s.permits = 0 ∧ s.received = s.delivered

theorem handoffAt_init (f : UInt8) (p : Packet) : HandoffAt (Sys.init f p) (Sys.init f p).pc :=
  ⟨rfl, rfl, rfl⟩

theorem HandoffAt.poll {s s' : Sys} {x : Transfer} {ok : Bool} (hs : HandoffAt s s.pc)
    (h : pollStep s x ok = some s') : HandoffAt s' s'.pc := by
  cases pollStep_inv h with
  | peeked item hp =>
    rw [hp] at hs
    obtain ⟨h1, h2, h3⟩ := hs
    obtain ⟨m, -, heq⟩ := s.peekedStep_eq item x
    rw [heq]
    by_cases hd : m.val.retval &&& transceiveDataSend ≠ 0 <;>
      by_cases hr : m.val.retval &&& transceiveDataReceived ≠ 0 <;>
      cases item <;> simp [HandoffAt, h1, h2, h3, hd, hr]
  | popping it r hp =>
    rw [hp] at hs
    obtain ⟨h1, h2, h3⟩ := hs
    unfold Sys.popStep
    split_ifs with hr <;> simpa [HandoffAt, hr, h1, h2] using h3
  | notifying hp =>
    rw [hp] at hs
    obtain ⟨h1, h2, h3⟩ := hs
    refine .inl ⟨?_, h2, h3⟩
    simp only [Sys.notifyStep, h1]
    split <;> decide
  | waiting hp hpos =>
    rw [hp] at hs
    rcases hs with ⟨-, h2, -⟩ | ⟨h1, h2, h3⟩
    · omega
    · exact ⟨h1, by simp [h2], h3⟩
  | probe a hp | sending a t hp | receiving a t hp | registering a hp | routed a hp | starting hp
  | loopTop hp =>
    rw [hp] at hs
    simp only [Sys.probeStep, Sys.sendingStep, Sys.receivingStep, Sys.setupAttempt,
      Sys.registerStep, Sys.routedStep, Sys.startStep, Sys.loopTopStep]
    (try split_ifs) <;> simpa [HandoffAt, Sys.transceive_snd] using hs

/-- A notification byte is pending only while the SPI thread waits with its packet
staged. -/
theorem HandoffAt.staged {s : Sys} {p : PollPc} (h : HandoffAt s p) (hpos : 0 < s.pipe) :
    p = .waiting ∧ s.permits = 0 ∧ s.received = s.delivered ++ [s.stack.packetFromSpi] := by
  cases p with
  | waiting =>
    rcases h with ⟨-, h2, h3⟩ | ⟨h1, -, -⟩
    · exact ⟨rfl, h2, h3⟩
    · omega
  | _ => exact absurd (show s.pipe = 0 from h.1) (by omega)

theorem HandoffAt.event {s s' : Sys} {e : EventInput} (hs : HandoffAt s s.pc)
    (h : eventStep s e = some s') : HandoffAt s' s'.pc := by
  have he := eventStep_effect h
  rw [he.pc]
  rcases he.handoff with ⟨hp, hq, hd⟩ | ⟨hpos, hp, hq, hd⟩
  · revert hs
    cases s.pc <;> simp [HandoffAt, hp, hq, hd, he.received, he.packetFromSpi]
  · obtain ⟨hw, h2, h3⟩ := hs.staged hpos
    rw [hw] at hs ⊢
    have h1 : s.pipe ≤ 1 := by rcases hs with ⟨h1, -⟩ | ⟨h1, -⟩ <;> omega
    exact .inr ⟨by omega, by omega, by rw [hd, he.received, h3]⟩

theorem reachable_handoffAt {s : Sys} (hs : Reachable s) : HandoffAt s s.pc :=
  @Reachable.induction (fun s => HandoffAt s s.pc) handoffAt_init (fun _ _ _ _ _ hi h => hi.poll h)
    (fun _ _ _ _ hi h => hi.event h) s hs

theorem HandoffAt.delivered_prefix {s : Sys} {p : PollPc} (h : HandoffAt s p) :
    s.delivered = s.received ∨ s.delivered ++ [s.stack.packetFromSpi] = s.received := by
  cases p with
  | popping it r =>
    obtain ⟨-, -, h3⟩ := h
    split at h3
    · exact .inr h3.symm
    · exact .inl h3.symm
  | notifying => exact .inr h.2.2.symm
  | waiting =>
    rcases h with ⟨-, -, h3⟩ | ⟨-, -, h3⟩
    · exact .inr h3.symm
    · exact .inl h3.symm
  | _ => exact .inl h.2.2.symm

/-- In every interleaving the packets passed to `network_dispatch_response` are the
packets received with `DATA_RECEIVED`, in order, but for the last one while it is staged;
and a tick clears or overwrites `packet_from_spi` only once everything received was
delivered. -/
theorem spi_handoff_delivers_once {s : Sys} (hs : Reachable s) :
    (s.delivered = s.received ∨ s.delivered ++ [s.stack.packetFromSpi] = s.received) ∧
      ∀ item, s.pc = .loopTop ∨ s.pc = .peeked item → s.delivered = s.received := by
  have h := reachable_handoffAt hs
  refine ⟨h.delivered_prefix, fun item hp => ?_⟩
  rcases hp with hp | hp <;> rw [hp] at h <;> exact h.2.2.symm

/-- The schedule of one received packet: the first tick after the setup polls slot 0,
which answers with a frame that passes the checks; `pipeOk` is the outcome of the
notification's `pipe_write`. -/
def receiveOnePacket (pipeOk : Bool) : List Action :=
  discoverOneSlave 1 ++
    [.quiet, .quiet, .bus 84 (enumerateResponseFrame 1), .poll ⟨0, Buf.zero 84⟩ pipeOk]

set_option maxRecDepth 4000 in
theorem spi_handoff_delivers_after_dispatch :
    ∃ s, Reachable s ∧ s.delivered.length = 1 ∧ s.delivered = s.received := by
  obtain ⟨s, hrun, hd, hr⟩ := @Sys.exists_of_run
    (fun s => s.delivered.length = 1 ∧ s.received.length = 1) _ (Sys.init 0 (Buf.zero 80))
    (receiveOnePacket true ++ [.event (.dispatchFromSpi true)]) (by decide)
  have hs := (Reachable.init 0 (Buf.zero 80)).reflTransGen hrun
  rcases (spi_handoff_delivers_once hs).1 with h | h
  · exact ⟨s, hs, hd, h⟩
  · have := congrArg List.length h
    simp only [List.length_append, List.length_singleton] at this
    omega

/-! ### Where the hand-off blocks -/

/-- The SPI thread waiting for its permit while `red_stack_exit` joins it: neither thread
can take a step any more. -/
theorem stuck_of_joining {s : Sys} (hp : s.pc = .waiting) (hpermits : s.permits = 0)
    (he : s.event = .joining) : (∀ x ok, pollStep s x ok = none) ∧ ∀ e, eventStep s e = none := by
  refine ⟨fun x ok => by simp [pollStep, hp, hpermits], fun e => ?_⟩
  cases e <;> simp [eventStep, he, hp]

/-- The SPI thread waiting for its permit with no notification byte pending waits for
good, whatever the event thread does. -/
theorem waiting_without_byte_forever {s s' : Sys} (hp : s.pc = .waiting) (hpermits : s.permits = 0)
    (hpipe : s.pipe = 0) (h : Relation.ReflTransGen Step s s') :
    s'.pc = .waiting ∧ s'.permits = 0 ∧ s'.pipe = 0 := by
  induction h with
  | refl => exact ⟨hp, hpermits, hpipe⟩
  | tail _ hstep ih =>
    obtain ⟨hp', hpermits', hpipe'⟩ := ih
    cases hstep with
    | poll x ok h => simp [pollStep, hp', hpermits'] at h
    | event e h =>
      have he := eventStep_effect h
      rcases he.handoff with ⟨h1, h2, -⟩ | ⟨hpos, -⟩
      · exact ⟨he.pc.trans hp', h2.trans hpermits', h1.trans hpipe'⟩
      · omega

set_option maxRecDepth 4000 in
/-- Two interleavings in which the SPI thread waits in `semaphore_acquire` for good: a
`red_stack_exit` while a received packet is staged blocks both threads, and a failed
`pipe_write` blocks the SPI thread while the event thread stays free. -/
theorem handoff_deadlocks :
    (∃ s, Reachable s ∧ s.pc = .waiting ∧ s.event = .joining ∧
      (∀ x ok, pollStep s x ok = none) ∧ ∀ e, eventStep s e = none) ∧
    ∃ s, Reachable s ∧ s.event = .idle ∧
      ∀ s', Relation.ReflTransGen Step s s' → s'.pc = .waiting ∧ s'.permits = 0 := by
  constructor
  · obtain ⟨s, hrun, hp, hpermits, he⟩ := @Sys.exists_of_run
      (fun s => s.pc = .waiting ∧ s.permits = 0 ∧ s.event = .joining) _ (Sys.init 0 (Buf.zero 80))
      (receiveOnePacket true ++ [.event .exit]) (by decide)
    exact ⟨s, (Reachable.init 0 (Buf.zero 80)).reflTransGen hrun, hp, he,
      stuck_of_joining hp hpermits he⟩
  · obtain ⟨s, hrun, hp, hpermits, hpipe, he⟩ := @Sys.exists_of_run
      (fun s => s.pc = .waiting ∧ s.permits = 0 ∧ s.pipe = 0 ∧ s.event = .idle) _
      (Sys.init 0 (Buf.zero 80)) (receiveOnePacket false) (by decide)
    exact ⟨s, (Reachable.init 0 (Buf.zero 80)).reflTransGen hrun, he,
      fun s' h => (waiting_without_byte_forever hp hpermits hpipe h).imp_right And.left⟩

end Brickd.RedStack
