import Brickd.Fifo
import Brickd.Progress

/-!
The outbound queue drains. A tick whose request fits in a packet, whose slave is
AVAILABLE and whose transfer moves all 84 bytes sends the request; the pop follows, and a
tick that also took a packet from the bus adds the notification and the wait in
`semaphore_acquire`. A slave leaves AVAILABLE only by a frame with the busy bit set. So
on a bus that moves every frame and on which no slave reports busy, the SPI thread sends
the requests queued at the top of a tick one per tick, in queue order, whatever the event
thread does in between short of `red_stack_exit`: the `k`-th is sent within `5 * k - 3`
steps of the SPI thread. `drainRank` counts these steps down.
-/
namespace Brickd.RedStack

/-- The bus answers an exchange so that a request goes out and the slave stays
AVAILABLE: the transfer moves the whole frame, and a frame that passes the checks has
the busy bit clear. -/
def Transfer.KeepsAvailable (x : Transfer) : Prop :=
  x.lengthSend = spiPacketSize ∧
    (FrameAccepted x.rx → statusOfInfo (x.rx.get ((x.rx.get 1).toNat - 2)) = .available)

instance (x : Transfer) : Decidable x.KeepsAvailable := inferInstanceAs (Decidable (_ ∧ _))

/-- An AVAILABLE slave stays AVAILABLE through a tick on such a bus. -/
theorem peekedStep_status {s : Sys} {item : Option REDStackPacket} {x : Transfer}
    (hx : x.KeepsAvailable) {j : Nat} (hj : s.stack.status j = .available) :
    (s.peekedStep item x).stack.status j = .available := by
  obtain ⟨m, hm, heq⟩ := s.peekedStep_eq item x
  rw [heq]
  show (s.stack.setStatus _ m.val.status).status j = _
  rw [REDStack.status_setStatus]
  split_ifs with h
  · rw [hm, spiTransceiveMessage_status, h.1, hj]
    split_ifs with hd
    · exact hx.2 hd.2.2
    · rfl
  · exact hj

/-- A tick sends the request it peeked when the request fits in a packet, its slave is
AVAILABLE and the transfer moves the whole frame. -/
theorem Sys.peekedStep_sends (s : Sys) {it : REDStackPacket} {x : Transfer}
    (hst : s.stack.status it.slave = .available) (hlen : it.packet.headerLength.toNat ≤ sizeofPacket)
    (hx : x.lengthSend = spiPacketSize) :
    (s.peekedStep (some it) x).sent = s.sent ++ [it] ∧
      ∃ r, (s.peekedStep (some it) x).pc = .popping it r := by
  obtain ⟨m, hm, heq⟩ := s.peekedStep_eq (some it) x
  have hsend : m.val.retval &&& transceiveDataSend ≠ 0 :=
    hm ▸ (spiTransceiveMessage_dataSend ..).mpr ⟨⟨it.packet, rfl, hst, hlen⟩, hx⟩
  rw [heq]
  simp [hsend]

/-- In every state of a run the items pushed are the items sent followed by others. -/
theorem FifoAt.pushed_eq {s : Sys} (h : FifoAt s s.pc) : ∃ view, s.pushed = s.sent ++ view := by
  revert h
  cases s.pc with
  | peeked item =>
    cases item with
    | none => exact fun h => ⟨_, h⟩
    | some _ => exact fun h => ⟨_, h.2⟩
  | popping _ _ => exact fun h => ⟨_, h.2.2.2⟩
  | _ => exact fun h => ⟨_, h⟩

/-- A step of the SPI thread only appends to the items sent. -/
theorem pollStep_sent {s s' : Sys} {x : Transfer} {ok : Bool} (h : pollStep s x ok = some s') :
    s.sent.length ≤ s'.sent.length := by
  cases pollStep_inv h with
  | peeked item _ =>
    obtain ⟨m, -, heq⟩ := s.peekedStep_eq item x
    rw [heq]
    cases item with
    | none => exact le_rfl
    | some it =>
      dsimp only
      split_ifs <;> simp
  | waiting _ _ => exact le_rfl
  | _ =>
    simp only [Sys.probeStep, Sys.sendingStep, Sys.receivingStep, Sys.setupAttempt,
      Sys.registerStep, Sys.routedStep, Sys.startStep, Sys.loopTopStep, Sys.popStep, Sys.notifyStep]
    (try split_ifs) <;> exact le_rfl

/-- In the tick loop, a step of the SPI thread on a bus that keeps the slaves AVAILABLE
keeps every AVAILABLE slave AVAILABLE. -/
theorem pollStep_status {s s' : Sys} {x : Transfer} {ok : Bool} (ht : s.pc.ticking)
    (hx : x.KeepsAvailable) (h : pollStep s x ok = some s') {j : Nat}
    (hj : s.stack.status j = .available) : s'.stack.status j = .available := by
  cases pollStep_inv h with
  | peeked item _ => exact peekedStep_status hx hj
  | loopTop _ =>
    unfold Sys.loopTopStep
    split_ifs <;> exact hj
  | popping _ _ _ | notifying _ | waiting _ _ => exact hj
  | probe _ hp | sending _ _ hp | receiving _ _ hp | registering _ hp | routed _ hp | starting hp =>
    simp [hp, PollPc.ticking] at ht

/-- The steps of the SPI thread left, from each point of the tick loop, until the next
request is sent, less one: one from the peek, and a tick that has sent goes on through
the pop, the notification, the wait and the loop test to the next send. -/
def tickPhase : PollPc → Nat
  | .peeked _ => 0
  | .loopTop => 1
  | .waiting => 2
  | .notifying => 3
  | .popping _ _ => 4
  | _ => 0

/-- The steps of the SPI thread left until `k` requests are sent, once `d` are: five for
each request, less the part of the current tick already done. -/
def drainRank (k d : Nat) (pc : PollPc) : Nat := 5 * (k - d) + tickPhase pc

/-- Whether an action is a step of the SPI thread. -/
def Action.isPoll : Action → Bool
  | .poll .. => true
  | .event _ => false

/-- What holds along a run from `s₀`, a state at the top of the tick loop, with respect
to the first `k` requests of its queue: the SPI thread stays in the tick loop with the
flag set, the items pushed extend those sent and queued at `s₀`, the slaves of the
first `k` requests stay AVAILABLE, and a tick that peeked an empty queue comes after
the `k` requests were sent. -/
structure Draining (s₀ : Sys) (k : Nat) (s : Sys) : Prop where
  reachable : Reachable s
  ticking : s.pc.ticking
  running : s.threadRunning = true
  pushed : ∃ new, s.pushed = s₀.sent ++ s₀.stack.packetToSpiQueue ++ new
  sent : s₀.sent.length ≤ s.sent.length
  available : ∀ it ∈ s₀.stack.packetToSpiQueue.take k, s.stack.status it.slave = .available
  peekedNone : s.pc = .peeked none → s₀.sent.length + k ≤ s.sent.length

section Draining

variable {s₀ : Sys} {k : Nat}

theorem Draining.start (hs : Reachable s₀) (hpc : s₀.pc = .loopTop) (hrun : s₀.threadRunning = true)
    (hq : ∀ it ∈ s₀.stack.packetToSpiQueue.take k, s₀.stack.status it.slave = .available) :
    Draining s₀ k s₀ := by
  have hf := reachable_fifoAt hs
  rw [hpc] at hf
  exact ⟨hs, by rw [hpc]; rfl, hrun, ⟨[], by simpa using hf⟩, le_rfl, hq, by simp [hpc]⟩

/-- While fewer than `k` requests are sent, the request a tick peeked is the next of the
first `k`. -/
theorem Draining.head_mem {s : Sys} (hd : Draining s₀ k s) (hk : k ≤ s₀.stack.packetToSpiQueue.length)
    {it : REDStackPacket} (hp : s.pc = .peeked (some it))
    (hlt : s.sent.length < s₀.sent.length + k) : it ∈ s₀.stack.packetToSpiQueue.take k := by
  have hf := reachable_fifoAt hd.reachable
  rw [hp] at hf
  obtain ⟨hh, hq⟩ := hf
  obtain ⟨new, hnew⟩ := hd.pushed
  have hsent := hd.sent
  set q := s₀.stack.packetToSpiQueue
  -- the queue is what follows the items sent among those pushed
  have hqueue : s.stack.packetToSpiQueue =
      (q.take k ++ (q.drop k ++ new)).drop (s.sent.length - s₀.sent.length) := by
    have := congrArg (List.drop s.sent.length) (hq.symm.trans hnew)
    rwa [List.drop_left, List.append_assoc, ← List.take_append_drop k q, List.append_assoc,
      show s.sent.length = s₀.sent.length + (s.sent.length - s₀.sent.length) by omega,
      List.drop_append] at this
  rw [hqueue, List.head?_drop, List.getElem?_append_left (by rw [List.length_take]; omega)] at hh
  exact List.mem_iff_getElem?.mpr ⟨_, hh⟩

/-- A step of the SPI thread on a bus that keeps the slaves AVAILABLE keeps `Draining`,
and unless the first `k` requests are already sent, it lowers `drainRank`. -/
theorem Draining.poll {s s' : Sys} {x : Transfer} {ok : Bool}
    (hk : k ≤ s₀.stack.packetToSpiQueue.length)
    (hq : ∀ it ∈ s₀.stack.packetToSpiQueue.take k, it.packet.headerLength.toNat ≤ sizeofPacket)
    (hd : Draining s₀ k s) (hx : x.KeepsAvailable) (h : pollStep s x ok = some s') :
    Draining s₀ k s' ∧ s.sent.length ≤ s'.sent.length ∧
      (s₀.sent.length + k ≤ s.sent.length ∨
        drainRank k (s'.sent.length - s₀.sent.length) s'.pc <
          drainRank k (s.sent.length - s₀.sent.length) s.pc) := by
  have hsent := pollStep_sent h
  suffices hpc : s'.pc.ticking ∧ (s'.pc = .peeked none → s₀.sent.length + k ≤ s'.sent.length) ∧
      (s₀.sent.length + k ≤ s.sent.length ∨
        drainRank k (s'.sent.length - s₀.sent.length) s'.pc <
          drainRank k (s.sent.length - s₀.sent.length) s.pc) from
    ⟨⟨hd.reachable.step (.poll x ok h), hpc.1, (pollStep_effect h).running hd.running,
        (pollStep_effect h).pushed ▸ hd.pushed, hd.sent.trans hsent,
        fun it hit => pollStep_status hd.ticking hx h (hd.available it hit), hpc.2.1⟩,
      hsent, hpc.2.2⟩
  cases pollStep_inv h with
  | loopTop hp =>
    unfold Sys.loopTopStep
    rw [if_pos hd.running]
    refine ⟨rfl, fun hn => ?_, .inr (by simp [drainRank, tickPhase, hp])⟩
    -- a tick peeks an empty queue only once every request pushed is sent
    have hf := reachable_fifoAt hd.reachable
    rw [hp] at hf
    obtain ⟨new, hnew⟩ := hd.pushed
    have hqe : s.stack.packetToSpiQueue = [] := by simpa using hn
    have := congrArg List.length (hf.symm.trans hnew)
    simp only [hqe, List.append_nil, List.length_append] at this
    show s₀.sent.length + k ≤ s.sent.length
    omega
  | peeked item hp =>
    have hpc' : (s.peekedStep item x).pc.ticking ∧ (s.peekedStep item x).pc ≠ .peeked none := by
      rcases s.peekedStep_pc item x with ⟨it, r, hpc⟩ | hpc | hpc <;> rw [hpc] <;>
        exact ⟨rfl, nofun⟩
    refine ⟨hpc'.1, fun hn => absurd hn hpc'.2, ?_⟩
    cases item with
    | none => exact .inl (hd.peekedNone hp)
    | some it =>
      by_cases hlt : s.sent.length < s₀.sent.length + k
      · have hit := hd.head_mem hk hp hlt
        obtain ⟨hsent', r, hpc⟩ := s.peekedStep_sends (hd.available it hit) (hq it hit) hx.1
        refine .inr ?_
        simp only [drainRank, tickPhase, hp, hpc, hsent', List.length_append, List.length_singleton]
        have := hd.sent
        omega
      · exact .inl (by omega)
  | popping it r hp =>
    unfold Sys.popStep
    split_ifs <;> exact ⟨rfl, nofun, .inr (by simp [drainRank, tickPhase, hp])⟩
  | notifying hp => exact ⟨rfl, nofun, .inr (by simp [Sys.notifyStep, drainRank, tickPhase, hp])⟩
  | waiting hp _ => exact ⟨rfl, nofun, .inr (by simp [drainRank, tickPhase, hp])⟩
  | probe _ hp | sending _ _ hp | receiving _ _ hp | registering _ hp | routed _ hp | starting hp =>
    have := hd.ticking
    simp [hp, PollPc.ticking] at this

/-- A step of the event thread other than `red_stack_exit` keeps `Draining` and moves
neither the SPI thread nor the items sent. -/
theorem Draining.event {s s' : Sys} {e : EventInput} (hd : Draining s₀ k s) (he : e ≠ .exit)
    (h : eventStep s e = some s') : Draining s₀ k s' ∧ s'.sent = s.sent ∧ s'.pc = s.pc := by
  have hf := eventStep_effect h
  obtain ⟨new, -, hpushed, -⟩ := hf.queue
  obtain ⟨new₀, h₀⟩ := hd.pushed
  refine ⟨⟨hd.reachable.step (.event e h), hf.pc ▸ hd.ticking,
    (eventStep_threadRunning he h).trans hd.running, ⟨new₀ ++ new, by simp [hpushed, h₀]⟩,
    hf.sent ▸ hd.sent, fun it hit => ?_, fun hp => hf.sent ▸ hd.peekedNone (hf.pc ▸ hp)⟩,
    hf.sent, hf.pc⟩
  simp only [REDStack.status, REDStack.slave, hf.slaves]
  exact hd.available it hit

/-- Over a schedule on a bus that keeps the slaves AVAILABLE and without
`red_stack_exit`, `drainRank` falls by at least the number of steps of the SPI thread,
unless the first `k` requests are sent. -/
theorem run_draining (hk : k ≤ s₀.stack.packetToSpiQueue.length)
    (hq : ∀ it ∈ s₀.stack.packetToSpiQueue.take k, it.packet.headerLength.toNat ≤ sizeofPacket) :
    ∀ {as : List Action} {s s' : Sys}, Draining s₀ k s → s.run as = some s' →
      (∀ x ok, Action.poll x ok ∈ as → x.KeepsAvailable) → Action.event .exit ∉ as →
      Draining s₀ k s' ∧ s.sent.length ≤ s'.sent.length ∧
        (s₀.sent.length + k ≤ s'.sent.length ∨
          drainRank k (s'.sent.length - s₀.sent.length) s'.pc + as.countP Action.isPoll ≤
            drainRank k (s.sent.length - s₀.sent.length) s.pc)
  | [], _, _, hd, h, _, _ => by cases h; exact ⟨hd, le_rfl, .inr (by simp)⟩
  | .poll x ok :: as, s, s', hd, h, hbus, hexit => by
    cases hp : pollStep s x ok with
    | none => simp [Sys.run, hp] at h
    | some s₁ =>
      obtain ⟨hd₁, hs₁, hr₁⟩ := hd.poll hk hq (hbus x ok (List.mem_cons_self _ _)) hp
      obtain ⟨hd', hs', hr'⟩ := run_draining hk hq hd₁ (by simpa [Sys.run, hp] using h)
        (fun x ok hm => hbus x ok (List.mem_cons_of_mem _ hm))
        (fun hm => hexit (List.mem_cons_of_mem _ hm))
      refine ⟨hd', hs₁.trans hs', ?_⟩
      simp only [List.countP_cons, Action.isPoll, if_true]
      omega
  | .event e :: as, s, s', hd, h, hbus, hexit => by
    cases he : eventStep s e with
    | none => simp [Sys.run, he] at h
    | some s₁ =>
      obtain ⟨hd₁, hs₁, hpc₁⟩ := hd.event (fun h => hexit (h ▸ List.mem_cons_self _ _)) he
      obtain ⟨hd', hs', hr'⟩ := run_draining hk hq hd₁ (by simpa [Sys.run, he] using h)
        (fun x ok hm => hbus x ok (List.mem_cons_of_mem _ (by exact hm)))
        (fun hm => hexit (List.mem_cons_of_mem _ hm))
      refine ⟨hd', hs₁ ▸ hs', ?_⟩
      simp only [List.countP_cons, Action.isPoll, Bool.false_eq_true, if_false, hs₁, hpc₁] at hr' ⊢
      simpa using hr'

end Draining

/-- The queue drains on a bus that moves every frame and on which no slave reports busy.
From every reachable state at the top of a tick with `_red_stack_spi_thread_running`
set, in which the first `k` queued requests fit in a packet and have AVAILABLE slaves,
every run without `red_stack_exit` in which the SPI thread takes at least `5 * k - 3`
steps has sent those `k` requests, in queue order, right after the requests sent
before; whatever the event thread pushed meanwhile comes after them. -/
theorem spi_queue_drains {s : Sys} (hs : Reachable s) (hpc : s.pc = .loopTop)
    (hrun : s.threadRunning = true) {k : Nat} (hk : k ≤ s.stack.packetToSpiQueue.length)
    (hq : ∀ it ∈ s.stack.packetToSpiQueue.take k,
      s.stack.status it.slave = .available ∧ it.packet.headerLength.toNat ≤ sizeofPacket)
    {as : List Action} {s' : Sys} (h : s.run as = some s')
    (hbus : ∀ x ok, Action.poll x ok ∈ as → x.KeepsAvailable) (hexit : Action.event .exit ∉ as)
    (hn : 5 * k ≤ as.countP Action.isPoll + 3) :
    s.sent ++ s.stack.packetToSpiQueue.take k <+: s'.sent := by
  obtain ⟨hd, -, hr⟩ := run_draining hk (fun it hit => (hq it hit).2)
    (Draining.start hs hpc hrun fun it hit => (hq it hit).1) h hbus hexit
  have hdone : s.sent.length + k ≤ s'.sent.length := by
    have := hd.sent
    rcases hr with hr | hr
    · exact hr
    · simp only [drainRank, tickPhase, hpc, Nat.sub_self, Nat.sub_zero] at hr
      omega
  obtain ⟨new, hnew⟩ := hd.pushed
  obtain ⟨view, hview⟩ := (reachable_fifoAt hd.reachable).pushed_eq
  have := congrArg (List.take (s.sent.length + k)) (hview.symm.trans hnew)
  rw [List.take_append_of_le_length hdone, List.append_assoc, List.take_append,
    List.take_append_of_le_length hk] at this
  rw [← this]
  exact List.take_prefix _ _

/-- After the setup with one slave, the event thread queues a request for UID 1 and a
broadcast, both of 8 bytes, while the SPI thread is at the top of its first tick. -/
def queueTwoRequests : List Action :=
  discoverOneSlave 1 ++
    [.quiet, .event (.dispatchToSpi (requestFor 1 8) (Buf.zero 80)),
      .event (.dispatchToSpi (requestFor 0 8) (Buf.zero 80)), .event (.broadcast (Buf.zero 80)),
      .event (.broadcast (Buf.zero 80))]

set_option maxRecDepth 4000 in
/-- The two queued requests are sent within seven steps of the SPI thread on a bus that
moves every frame and on which the slave sends nothing. -/
theorem spi_queue_drains_two_requests :
    ∃ s s', (Sys.init 0 (Buf.zero 80)).run queueTwoRequests = some s ∧
      s.stack.packetToSpiQueue.length = 2 ∧
      s.run (List.replicate 7 (.bus 84 (Buf.zero 84))) = some s' ∧
      s.sent ++ s.stack.packetToSpiQueue.take 2 <+: s'.sent := by
  have hany : ((Sys.init 0 (Buf.zero 80)).run queueTwoRequests).any (fun s =>
      decide (s.pc = .loopTop ∧ s.threadRunning = true ∧ s.stack.packetToSpiQueue.length = 2 ∧
        ∀ it ∈ s.stack.packetToSpiQueue.take 2,
          s.stack.status it.slave = .available ∧ it.packet.headerLength.toNat ≤ sizeofPacket) &&
        (s.run (List.replicate 7 (.bus 84 (Buf.zero 84)))).isSome) = true := by decide
  cases hrun : (Sys.init 0 (Buf.zero 80)).run queueTwoRequests with
  | none => simp [hrun] at hany
  | some s =>
    simp only [hrun, Option.any_some, Bool.and_eq_true, decide_eq_true_eq] at hany
    obtain ⟨⟨hpc, hr, hlen, hq⟩, hs'⟩ := hany
    obtain ⟨s', h'⟩ := Option.isSome_iff_exists.mp hs'
    refine ⟨s, s', rfl, hlen, h', spi_queue_drains
      (Reachable.reflTransGen (.init 0 _) (Sys.reflTransGen_of_run hrun)) hpc hr (by omega) hq h'
      (fun x ok hm => ?_) (by simp [Action.bus]) (by decide)⟩
    simp only [Action.bus, List.mem_replicate, Action.poll.injEq] at hm
    rw [hm.2.1]
    decide

end Brickd.RedStack
