import Brickd.Engine

/-!
The outbound queue. Requests enter at the tail from the event thread and leave at the
head from the SPI thread, which pops only after `DATA_SEND` and only the item it peeked
in the same tick. The items sent are therefore a prefix of the items pushed, in push
order. An item whose `header.length` exceeds `sizeof(Packet)` is never sent:
`red_stack_spi_transceive_message` never reports `DATA_SEND` for it (it refuses it while
the slave is AVAILABLE and only polls a busy slave), the loop pops only after
`DATA_SEND`, and the item blocks every item behind it for good. Its `memcpy` in
`red_stack_dispatch_to_spi` already wrote past the item's packet.
-/
namespace Brickd.RedStack

/-- The queue discipline at each point of the SPI thread: the items pushed are the items
sent followed by the queue, except between the send of the head and its pop, where the
head already counts as sent. -/
def FifoAt (s : Sys) : PollPc → Prop
  | .peeked (some it) =>
    s.stack.packetToSpiQueue.head? = some it ∧ s.pushed = s.sent ++ s.stack.packetToSpiQueue
  | .popping it _ =>
    s.stack.packetToSpiQueue.head? = some it ∧ s.sent.getLast? = some it ∧
      it.packet.headerLength.toNat ≤ sizeofPacket ∧
      s.pushed = s.sent ++ s.stack.packetToSpiQueue.tail
  | _ => s.pushed = s.sent ++ s.stack.packetToSpiQueue

theorem fifoAt_init (f : UInt8) (p : Packet) : FifoAt (Sys.init f p) (Sys.init f p).pc := rfl

/-- The tick that peeked `it` leaves the queue as it is. It sends `it` only if `it` fits
in a packet, and then goes on to pop it; otherwise it sends nothing. -/
theorem peekedStep_some (s : Sys) (it : REDStackPacket) (x : Transfer) :
    (s.peekedStep (some it) x).stack.packetToSpiQueue = s.stack.packetToSpiQueue ∧
      (((s.peekedStep (some it) x).sent = s.sent ++ [it] ∧ it.packet.headerLength.toNat ≤ sizeofPacket ∧
          ∃ r, (s.peekedStep (some it) x).pc = .popping it r) ∨
        (s.peekedStep (some it) x).sent = s.sent ∧
          ((s.peekedStep (some it) x).pc = .notifying ∨ (s.peekedStep (some it) x).pc = .loopTop)) := by
  obtain ⟨m, hm, heq⟩ := s.peekedStep_eq (some it) x
  rw [heq]
  dsimp only
  by_cases hsend : m.val.retval &&& transceiveDataSend ≠ 0
  · obtain ⟨⟨p, hp', -, hlen⟩, -⟩ := (spiTransceiveMessage_dataSend ..).mp (hm ▸ hsend)
    cases Option.some.inj hp'
    simp [hsend, hlen]
  · simp only [if_neg hsend, true_and]
    split_ifs <;> simp

theorem FifoAt.poll {s s' : Sys} {x : Transfer} {ok : Bool} (hs : FifoAt s s.pc)
    (h : pollStep s x ok = some s') : FifoAt s' s'.pc := by
  cases pollStep_inv h with
  | loopTop hp =>
    rw [hp] at hs
    unfold Sys.loopTopStep
    split_ifs
    · cases hh : s.stack.packetToSpiQueue.head? with
      | none => simpa [FifoAt, hh] using hs
      | some it => exact ⟨hh, hs⟩
    · simpa [FifoAt] using hs
  | peeked item hp =>
    rw [hp] at hs
    cases item with
    | none =>
      obtain ⟨m, -, heq⟩ := s.peekedStep_eq none x
      rw [heq]
      dsimp only
      split_ifs <;> exact hs
    | some it =>
      obtain ⟨hh, hq⟩ := hs
      obtain ⟨rest, hrest⟩ := List.head?_eq_some_iff.mp hh
      have hpushed := (pollStep_effect h).pushed
      obtain ⟨hq', ⟨hsent, hlen, r, hpc⟩ | ⟨hsent, hpc | hpc⟩⟩ := peekedStep_some s it x
      · rw [hpc]
        exact ⟨hq' ▸ hh, by simp [hsent], hlen, by simp [hpushed, hq, hsent, hq', hrest]⟩
      all_goals rw [hpc]; simpa [FifoAt, hpushed, hsent, hq'] using hq
  | popping it r hp =>
    rw [hp] at hs
    unfold Sys.popStep
    split_ifs <;> simpa [FifoAt] using hs.2.2.2
  | waiting hp _ =>
    rw [hp] at hs
    exact hs
  | probe a hp | sending a t hp | receiving a t hp | registering a hp | routed a hp | starting hp
  | notifying hp =>
    rw [hp] at hs
    simp only [Sys.probeStep, Sys.sendingStep, Sys.receivingStep, Sys.setupAttempt,
      Sys.registerStep, Sys.routedStep, Sys.startStep, Sys.notifyStep]
    (try split_ifs) <;> simpa [FifoAt, Sys.transceive_snd] using hs

theorem FifoAt.event {s s' : Sys} {e : EventInput} (hs : FifoAt s s.pc)
    (h : eventStep s e = some s') : FifoAt s' s'.pc := by
  have he := eventStep_effect h
  obtain ⟨new, hq, hpushed, -⟩ := he.queue
  rw [he.pc]
  cases hp : s.pc with
  | peeked item =>
    rw [hp] at hs
    cases item with
    | none =>
      simp only [FifoAt] at hs ⊢
      simp [hq, hpushed, he.sent, hs]
    | some it =>
      obtain ⟨hh, hs⟩ := hs
      obtain ⟨rest, hrest⟩ := List.head?_eq_some_iff.mp hh
      exact ⟨by simp [hq, hrest], by simp [hq, hpushed, he.sent, hs]⟩
  | popping it r =>
    rw [hp] at hs
    obtain ⟨hh, hl, hlen, hs⟩ := hs
    obtain ⟨rest, hrest⟩ := List.head?_eq_some_iff.mp hh
    exact ⟨by simp [hq, hrest], he.sent ▸ hl, hlen, by simp [hq, hpushed, he.sent, hs, hrest]⟩
  | _ =>
    rw [hp] at hs
    simp only [FifoAt] at hs ⊢
    simp [hq, hpushed, he.sent, hs]

theorem reachable_fifoAt {s : Sys} (hs : Reachable s) : FifoAt s s.pc :=
  @Reachable.induction (fun s => FifoAt s s.pc) fifoAt_init (fun _ _ _ _ _ hi h => hi.poll h)
    (fun _ _ _ _ hi h => hi.event h) s hs

/-- In every interleaving the items sent with `DATA_SEND` are a prefix of the items
pushed, and the item popped is the one peeked and sent in the same tick. -/
theorem spi_queue_fifo {s : Sys} (hs : Reachable s) :
    s.sent <+: s.pushed ∧
      ∀ it r, s.pc = .popping it r →
        s.stack.packetToSpiQueue.head? = some it ∧ s.sent.getLast? = some it := by
  have hf := reachable_fifoAt hs
  revert hf
  cases s.pc with
  | peeked item =>
    cases item with
    | none => exact fun hf => ⟨⟨_, hf.symm⟩, by simp⟩
    | some it => exact fun hf => ⟨⟨_, hf.2.symm⟩, by simp⟩
  | popping it r =>
    rintro ⟨hh, hl, -, hf⟩
    exact ⟨⟨_, hf.symm⟩, by rintro _ _ ⟨⟩; exact ⟨hh, hl⟩⟩
  | _ => exact fun hf => ⟨⟨_, hf.symm⟩, by simp⟩


set_option maxRecDepth 4000 in
theorem spi_queue_fifo_after_send :
    ∃ s, Reachable s ∧ s.sent.length = 1 ∧ s.sent <+: s.pushed := by
  obtain ⟨s, hrun, hlen⟩ := @Sys.exists_of_run (fun s => s.sent.length = 1) _
    (Sys.init 0 (Buf.zero 80))
    (discoverOneSlave 1 ++
      [.quiet, .event (.dispatchToSpi (requestFor 1 8) (Buf.zero 80)), .quiet, .bus 84 (Buf.zero 84)])
    (by decide)
  have hs := (Reachable.init 0 (Buf.zero 80)).reflTransGen hrun
  exact ⟨s, hs, hlen, (spi_queue_fifo hs).1⟩

/-! ### Oversized requests -/

/-- What a step of the SPI thread does to the queue and to the items sent: nothing, or
the send of the peeked head, which fits in a packet, or the pop after it. -/
theorem pollStep_queue {s s' : Sys} {x : Transfer} {ok : Bool} (h : pollStep s x ok = some s') :
    s'.stack.packetToSpiQueue = s.stack.packetToSpiQueue ∧ s'.sent = s.sent ∨
      (∃ it, s.pc = .peeked (some it) ∧ it.packet.headerLength.toNat ≤ sizeofPacket ∧
        s'.stack.packetToSpiQueue = s.stack.packetToSpiQueue ∧ s'.sent = s.sent ++ [it]) ∨
      ∃ it r, s.pc = .popping it r ∧
        s'.stack.packetToSpiQueue = s.stack.packetToSpiQueue.tail ∧ s'.sent = s.sent := by
  cases pollStep_inv h with
  | peeked item hp =>
    cases item with
    | none =>
      obtain ⟨m, -, heq⟩ := s.peekedStep_eq none x
      exact .inl (by simp [heq])
    | some it =>
      obtain ⟨hq', ⟨hsent, hlen, -⟩ | ⟨hsent, -⟩⟩ := peekedStep_some s it x
      · exact .inr (.inl ⟨it, hp, hlen, hq', hsent⟩)
      · exact .inl ⟨hq', hsent⟩
  | popping it r hp =>
    refine .inr (.inr ⟨it, r, hp, ?_⟩)
    unfold Sys.popStep
    split_ifs <;> simp
  | waiting _ _ => exact .inl ⟨rfl, rfl⟩
  | probe a _ | sending a t _ | receiving a t _ | registering a _ | routed a _ | starting _
  | loopTop _ | notifying _ =>
    left
    simp only [Sys.probeStep, Sys.sendingStep, Sys.receivingStep, Sys.setupAttempt,
      Sys.registerStep, Sys.routedStep, Sys.startStep, Sys.loopTopStep, Sys.notifyStep]
    (try split_ifs) <;> simp [Sys.transceive_snd]

/-- A step from a reachable state whose queue starts with an oversized item keeps that
item at the head and sends nothing. -/
theorem oversized_head_step {s s' : Sys} {it : REDStackPacket} (hs : Reachable s)
    (hh : s.stack.packetToSpiQueue.head? = some it)
    (hbig : sizeofPacket < it.packet.headerLength.toNat) (h : Step s s') :
    s'.stack.packetToSpiQueue.head? = some it ∧ s'.sent = s.sent := by
  obtain ⟨rest, hrest⟩ := List.head?_eq_some_iff.mp hh
  cases h with
  | event e he =>
    have he := eventStep_effect he
    obtain ⟨new, hq, -, -⟩ := he.queue
    exact ⟨by simp [hq, hrest], he.sent⟩
  | poll x ok hp =>
    have hf := reachable_fifoAt hs
    rcases pollStep_queue hp with ⟨hq, hsent⟩ | ⟨it', hpc, hlen, -, -⟩ | ⟨it', r, hpc, -, -⟩
    · exact ⟨hq ▸ hh, hsent⟩
    · rw [hpc] at hf
      cases hh.symm.trans hf.1
      omega
    · rw [hpc] at hf
      cases hh.symm.trans hf.1
      have := hf.2.2.1
      omega

/-- An oversized item at the head of the queue stays there in every later state of every
interleaving, and no item is sent any more. -/
theorem oversized_head_blocks_queue {s s' : Sys} {it : REDStackPacket} (hs : Reachable s)
    (hh : s.stack.packetToSpiQueue.head? = some it)
    (hbig : sizeofPacket < it.packet.headerLength.toNat) (h : Relation.ReflTransGen Step s s') :
    s'.stack.packetToSpiQueue.head? = some it ∧ s'.sent = s.sent := by
  induction h with
  | refl => exact ⟨hh, rfl⟩
  | tail hst hstep ih =>
    obtain ⟨hh', hsent⟩ := ih
    obtain ⟨hh'', hsent'⟩ := oversized_head_step (hs.reflTransGen hst) hh' hbig hstep
    exact ⟨hh'', hsent'.trans hsent⟩

/-- After the setup found one slave with UID 1, the event thread queues an 81-byte
request and then an 8-byte request for it. -/
def queueOversizedRequest : List Action :=
  discoverOneSlave 1 ++ [.quiet, .event (.dispatchToSpi (requestFor 1 81) (Buf.zero 80)),
    .event (.dispatchToSpi (requestFor 1 8) (Buf.zero 80))]

set_option maxRecDepth 4000 in
/-- With one slave of UID 1 found, the event thread queues an 81-byte request for it,
whose `memcpy` writes past the item's 80-byte packet, and then an 8-byte request. In
every later state of every interleaving the 81-byte item still heads the queue and no
item has been sent: the 8-byte request behind it never goes out. -/
theorem oversized_request_blocks_queue :
    ∃ s big small, Reachable s ∧ s.stack.packetToSpiQueue = [big, small] ∧
      sizeofPacket < big.packet.headerLength.toNat ∧
      small.packet.headerLength.toNat ≤ sizeofPacket ∧ s.outside = true ∧
      ∀ s', Relation.ReflTransGen Step s s' →
        s'.stack.packetToSpiQueue.head? = some big ∧ s'.sent = [] := by
  have hany : ((Sys.init 0 (Buf.zero 80)).run queueOversizedRequest).any (fun s =>
      decide (s.outside = true ∧ s.sent = []) && match s.stack.packetToSpiQueue with
        | [big, small] => decide (sizeofPacket < big.packet.headerLength.toNat ∧
            small.packet.headerLength.toNat ≤ sizeofPacket)
        | _ => false) = true := by decide
  cases hrun : (Sys.init 0 (Buf.zero 80)).run queueOversizedRequest with
  | none => simp [hrun] at hany
  | some s =>
    simp only [hrun, Option.any_some, Bool.and_eq_true, decide_eq_true_eq] at hany
    obtain ⟨⟨hout, hsent⟩, hq⟩ := hany
    have hs := (Reachable.init 0 (Buf.zero 80)).reflTransGen (Sys.reflTransGen_of_run hrun)
    split at hq
    · next big small hqs =>
      simp only [decide_eq_true_eq] at hq
      refine ⟨s, big, small, hs, hqs, hq.1, hq.2, hout, fun s' h => ?_⟩
      obtain ⟨hh, hsent'⟩ := oversized_head_blocks_queue hs (by rw [hqs]; rfl) hq.1 h
      exact ⟨hh, hsent'.trans hsent⟩
    · cases hq

end Brickd.RedStack
