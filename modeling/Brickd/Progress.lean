import Brickd.Handoff

/-!
Progress of the SPI thread and of `red_stack_exit`. The hand-off deadlocks come from a
`red_stack_exit` while a packet is staged and from a failed `pipe_write`. Without the two,
the SPI thread is never stuck: in every run from `red_stack_init` in which no
`red_stack_exit` is called and every `pipe_write` succeeds, the thread returns only when
the setup found no slave, and in every state it can take its next step after at most
`slave_num + 2` steps of the event thread, the rest of a broadcast loop and one
`red_stack_dispatch_from_spi` whose `pipe_read` succeeds. And an exit that waits in `thread_join` while no packet is
staged returns: the flag it cleared stops the SPI thread within three of its steps, the
rest of the tick and the loop test, as long as no frame arrives in that tick.
-/
namespace Brickd.RedStack

/-- Whether the SPI thread is in the tick loop, past `_red_stack_spi_thread_running = 1`. -/
def PollPc.ticking : PollPc → Bool
  | .loopTop | .peeked _ | .popping _ _ | .notifying | .waiting => true
  | _ => false

/-- What keeps the SPI thread going when `red_stack_exit` is never called and every
`pipe_write` succeeds: in the tick loop `_red_stack_spi_thread_running` is set, a thread
waiting in `semaphore_acquire` has a notification byte or a permit pending, the thread
has returned only if `slave_num` is 0, the event thread is free or in a broadcast, and
`_red_stack_spi_fd` is open. -/
structure Live (s : Sys) : Prop where
  running : s.pc.ticking → s.threadRunning = true
  pending : s.pc = .waiting → 0 < s.pipe ∨ 0 < s.permits
  returned : s.pc = .returned → s.stack.slaveNum = 0
  eventFree : s.event = .idle ∨ ∃ request is, s.event = .broadcasting request is
  fdOpen : s.spiFdOpen = true

namespace Live

theorem init (f : UInt8) (p : Packet) : Live (Sys.init f p) := ⟨nofun, nofun, nofun, .inl rfl, rfl⟩

/-- A step of the SPI thread whose `pipe_write`, if it makes one, succeeds. -/
theorem poll {s s' : Sys} {x : Transfer} (hl : Live s) (h : pollStep s x true = some s') :
    Live s' := by
  cases pollStep_inv h with
  | probe a _ =>
    unfold Sys.probeStep
    split_ifs <;> exact ⟨nofun, nofun, nofun, hl.eventFree, hl.fdOpen⟩
  | sending a t _ | receiving a t _ =>
    simp only [Sys.sendingStep, Sys.receivingStep, Sys.setupAttempt]
    split_ifs <;> exact ⟨nofun, nofun, nofun, hl.eventFree, hl.fdOpen⟩
  | registering a _ => exact ⟨nofun, nofun, nofun, hl.eventFree, hl.fdOpen⟩
  | routed a _ =>
    unfold Sys.routedStep
    split_ifs with ha
    · exact ⟨nofun, nofun, fun _ => ha, hl.eventFree, hl.fdOpen⟩
    · exact ⟨nofun, nofun, nofun, hl.eventFree, hl.fdOpen⟩
  | starting _ => exact ⟨fun _ => rfl, nofun, nofun, hl.eventFree, hl.fdOpen⟩
  | loopTop hp =>
    have hrun := hl.running (by rw [hp]; rfl)
    unfold Sys.loopTopStep
    rw [if_pos hrun]
    exact ⟨fun _ => hrun, nofun, nofun, hl.eventFree, hl.fdOpen⟩
  | peeked item hp =>
    have hrun := hl.running (by rw [hp]; rfl)
    obtain ⟨m, -, heq⟩ := s.peekedStep_eq item x
    have hpc := s.peekedStep_pc item x
    rw [heq] at hpc ⊢
    refine ⟨fun _ => hrun, fun h => ?_, fun h => ?_, hl.eventFree, hl.fdOpen⟩ <;>
      rcases hpc with ⟨_, _, hpc⟩ | hpc | hpc <;> rw [hpc] at h <;> cases h
  | popping it r hp =>
    have hrun := hl.running (by rw [hp]; rfl)
    unfold Sys.popStep
    split_ifs <;> exact ⟨fun _ => hrun, nofun, nofun, hl.eventFree, hl.fdOpen⟩
  | notifying hp =>
    exact ⟨fun _ => hl.running (by rw [hp]; rfl), fun _ => .inl (Nat.succ_pos _), nofun,
      hl.eventFree, hl.fdOpen⟩
  | waiting hp _ =>
    exact ⟨fun _ => hl.running (by rw [hp]; rfl), nofun, nofun, hl.eventFree, hl.fdOpen⟩

/-- A step of the event thread other than `red_stack_exit`. -/
theorem event {s s' : Sys} {e : EventInput} (hl : Live s) (hexit : e ≠ .exit)
    (h : eventStep s e = some s') : Live s' := by
  cases e with
  | dispatchToSpi request memory =>
    simp only [eventStep] at h
    split_ifs at h
    · cases h
      exact ⟨hl.running, hl.pending, hl.returned, .inr ⟨_, _, rfl⟩, hl.fdOpen⟩
    · split at h <;> cases h
      · exact hl
      · exact ⟨hl.running, hl.pending, hl.returned, hl.eventFree, hl.fdOpen⟩
  | broadcast memory =>
    simp only [eventStep] at h
    split at h
    · split_ifs at h <;> cases h
      · exact ⟨hl.running, hl.pending, hl.returned, .inr ⟨_, _, rfl⟩, hl.fdOpen⟩
      · exact ⟨hl.running, hl.pending, hl.returned, .inl rfl, hl.fdOpen⟩
    · cases h
  | dispatchFromSpi readOk =>
    simp only [eventStep] at h
    split_ifs at h <;> cases h
    · exact ⟨hl.running, fun _ => .inr (Nat.succ_pos _), hl.returned, hl.eventFree, hl.fdOpen⟩
    · exact hl
  | exit => exact absurd rfl hexit
  | join =>
    simp only [eventStep] at h
    split_ifs at h with hj
    rcases hl.eventFree with he | ⟨_, _, he⟩ <;> rw [he] at hj <;> cases hj.1

end Live

/-- Along a run in which `red_stack_exit` is never called and every `pipe_write`
succeeds, every state keeps `Live`. -/
theorem run_live {s s' : Sys} (hl : Live s) {as : List Action} (h : s.run as = some s')
    (hpipe : ∀ x ok, Action.poll x ok ∈ as → ok = true) (hexit : Action.event .exit ∉ as) :
    Live s' :=
  Sys.run_induction h hl (fun _ _ x ok hm hl hp => hl.poll (hpipe x ok hm ▸ hp))
    fun _ _ _ hm hl he => hl.event (fun h => hexit (h ▸ hm)) he

theorem Sys.run_append (s : Sys) (as bs : List Action) :
    s.run (as ++ bs) = (s.run as).bind (·.run bs) := by
  induction as generalizing s with
  | nil => rfl
  | cons a as ih =>
    cases a with
    | poll x ok => simp [Sys.run, ih, Option.bind_assoc]
    | event e => simp [Sys.run, ih, Option.bind_assoc]

/-- The SPI thread can take a step from every point but `semaphore_acquire` and its
return. -/
theorem pollStep_isSome {s : Sys} (hw : s.pc ≠ .waiting) (hr : s.pc ≠ .returned)
    (hfd : s.spiFdOpen = true) (x : Transfer) (ok : Bool) : (pollStep s x ok).isSome := by
  cases hp : s.pc <;> simp_all [pollStep, Sys.canAnswer]

/-- The rest of a broadcast loop at slave `is`: `slave_num - is` pushes and the final
test, after which the event thread is free; the SPI thread's point and the hand-off
counters stay as they are. -/
theorem run_broadcasts (request memory : Packet) :
    ∀ (n : Nat) (s : Sys) (is : Nat), s.event = .broadcasting request is → s.stack.slaveNum - is = n →
      ∃ s', s.run (List.replicate (n + 1) (.event (.broadcast memory))) = some s' ∧
        s'.event = .idle ∧ s'.pc = s.pc ∧ s'.pipe = s.pipe ∧ s'.permits = s.permits
  | 0, s, is, he, hn => ⟨{ s with event := .idle }, by
      simp [Sys.run, eventStep, he, show ¬ is < s.stack.slaveNum by omega], rfl, rfl, rfl, rfl⟩
  | n + 1, s, is, he, hn => by
    have hlt : is < s.stack.slaveNum := by omega
    obtain ⟨s', hrun, he', hpc, hpipe, hpermits⟩ := run_broadcasts request memory n
      { s.pushRequest is request memory with event := .broadcasting request (is + 1) } (is + 1) rfl
      (by simp only [Sys.pushRequest]; omega)
    exact ⟨s', by simpa [List.replicate_succ, Sys.run, eventStep, he, hlt] using hrun, he', hpc,
      hpipe, hpermits⟩

/-- From a `Live` state the SPI thread, unless it has returned, can take its next step
after at most `slave_num + 2` steps of the event thread. -/
theorem Live.progress {s : Sys} (hl : Live s) (hr : s.pc ≠ .returned) (x : Transfer) :
    ∃ es : List EventInput, es.length ≤ s.stack.slaveNum + 2 ∧
      ∃ s', s.run (es.map .event ++ [.poll x true]) = some s' := by
  by_cases hw : s.pc = .waiting
  swap
  · obtain ⟨s', hs'⟩ := Option.isSome_iff_exists.mp (pollStep_isSome hw hr hl.fdOpen x true)
    exact ⟨[], Nat.zero_le _, s', by simp [Sys.run, hs']⟩
  by_cases hp : 0 < s.permits
  · exact ⟨[], Nat.zero_le _, Option.isSome_iff_exists.mp (by simp [Sys.run, pollStep, hw, hp])⟩
  have hpipe : 0 < s.pipe := (hl.pending hw).resolve_right hp
  -- the event thread first finishes a broadcast it is in, then reads the byte
  obtain ⟨es, hlen, s₁, hrun, he₁, hpc₁, hpipe₁, hpermits₁⟩ : ∃ es : List EventInput,
      es.length ≤ s.stack.slaveNum + 1 ∧ ∃ s₁, s.run (es.map .event) = some s₁ ∧
        s₁.event = .idle ∧ s₁.pc = s.pc ∧ s₁.pipe = s.pipe ∧ s₁.permits = s.permits := by
    rcases hl.eventFree with he | ⟨request, is, he⟩
    · exact ⟨[], Nat.zero_le _, s, rfl, he, rfl, rfl, rfl⟩
    · obtain ⟨s₁, hrun, h₁⟩ := run_broadcasts request (Buf.zero 80) _ s is he rfl
      exact ⟨List.replicate (s.stack.slaveNum - is + 1) (.broadcast (Buf.zero 80)), by simp,
        s₁, by simpa using hrun, h₁⟩
  have hp₁ : 0 < s₁.pipe := hpipe₁ ▸ hpipe
  refine ⟨es ++ [.dispatchFromSpi true], by simp; omega, Option.isSome_iff_exists.mp ?_⟩
  simp only [List.map_append, List.map_cons, List.map_nil, List.append_assoc, List.singleton_append,
    Sys.run_append, hrun, Option.bind_some]
  simp [Sys.run, eventStep, he₁, hp₁, pollStep, hpc₁, hw]

/-- The SPI thread in every run from `red_stack_init` in which `red_stack_exit` is never
called and every `pipe_write` succeeds: it has returned only if the setup found no
slave, and otherwise, whatever the bus answers next, it can take its next step after at
most `slave_num + 2` steps of the event thread. -/
theorem spi_thread_never_stuck (f : UInt8) (p : Packet) {as : List Action} {s : Sys}
    (h : (Sys.init f p).run as = some s) (hpipe : ∀ x ok, Action.poll x ok ∈ as → ok = true)
    (hexit : Action.event .exit ∉ as) :
    (s.pc = .returned → s.stack.slaveNum = 0) ∧
      (s.pc ≠ .returned → ∀ x : Transfer, ∃ es : List EventInput,
        es.length ≤ s.stack.slaveNum + 2 ∧ ∃ s', s.run (es.map .event ++ [.poll x true]) = some s') := by
  have hl := run_live (Live.init f p) h hpipe hexit
  exact ⟨hl.returned, fun hr => hl.progress hr⟩

set_option maxRecDepth 4000 in
/-- After one slave was found and a packet from it was staged, the SPI thread waits in
`semaphore_acquire`, and the event thread lets it go on. -/
theorem spi_thread_never_stuck_after_receive :
    ∃ s, (Sys.init 0 (Buf.zero 80)).run (receiveOnePacket true) = some s ∧ s.pc = .waiting ∧
      ∀ x : Transfer, ∃ es : List EventInput, es.length ≤ s.stack.slaveNum + 2 ∧
        ∃ s', s.run (es.map .event ++ [.poll x true]) = some s' := by
  obtain ⟨s, h, hw⟩ := Option.map_eq_some'.mp (show ((Sys.init 0 (Buf.zero 80)).run
    (receiveOnePacket true)).map (·.pc) = some .waiting by decide)
  refine ⟨s, h, hw, (spi_thread_never_stuck 0 (Buf.zero 80) h (fun x ok hm => ?_) ?_).2
    (by rw [hw]; nofun)⟩
  · simp [receiveOnePacket, discoverOneSlave, enumerateSlotZero, Action.quiet, Action.bus] at hm
    tauto
  · simp [receiveOnePacket, discoverOneSlave, enumerateSlotZero, Action.quiet, Action.bus]

/-! ### `red_stack_exit` returns -/

/-- A step of the event thread other than `red_stack_exit` leaves
`_red_stack_spi_thread_running` as it is. -/
theorem eventStep_threadRunning {s s' : Sys} {e : EventInput} (he : e ≠ .exit)
    (h : eventStep s e = some s') : s'.threadRunning = s.threadRunning := by
  cases e with
  | exit => exact absurd rfl he
  | dispatchToSpi | broadcast =>
    simp only [eventStep] at h
    repeat' split at h
    all_goals cases h <;> rfl
  | dispatchFromSpi | join =>
    simp only [eventStep] at h
    split_ifs at h <;> cases h <;> rfl

/-- Only `red_stack_exit` makes the event thread wait in `thread_join`. -/
theorem eventStep_joining {s s' : Sys} {e : EventInput} (he : e ≠ .exit)
    (h : eventStep s e = some s') (hj : s'.event = .joining) : s.event = .joining := by
  cases e with
  | exit => exact absurd rfl he
  | dispatchToSpi | broadcast =>
    simp only [eventStep] at h
    repeat' split at h
    all_goals cases h <;> first | exact hj | cases hj
  | dispatchFromSpi | join =>
    simp only [eventStep] at h
    split_ifs at h <;> cases h <;> first | exact hj | cases hj

/-- A step of the event thread that does not end in the return of `red_stack_exit` is
taken before that return and leaves `_red_stack_spi_fd` as it is. -/
theorem eventStep_spiFdOpen {s s' : Sys} {e : EventInput} (h : eventStep s e = some s')
    (he : s'.event ≠ .exited) : s.event ≠ .exited ∧ s'.spiFdOpen = s.spiFdOpen := by
  cases e with
  | dispatchToSpi | broadcast =>
    simp only [eventStep] at h
    repeat' split at h
    all_goals cases h <;> simp_all [Sys.pushRequest]
  | dispatchFromSpi | exit | join =>
    simp only [eventStep] at h
    split_ifs at h <;> cases h <;> simp_all

/-- `_red_stack_spi_fd` is closed only once `red_stack_exit` has returned. -/
theorem reachable_spiFdOpen {s : Sys} (hs : Reachable s) (he : s.event ≠ .exited) :
    s.spiFdOpen = true :=
  @Reachable.induction (fun s => s.event ≠ .exited → s.spiFdOpen = true) (fun _ _ _ => rfl)
    (fun _ _ _ _ _ ih h he => (pollStep_effect h).spiFdOpen.trans (ih ((pollStep_effect h).event ▸ he)))
    (fun _ _ _ _ ih h he => (eventStep_spiFdOpen h he).2.trans (ih (eventStep_spiFdOpen h he).1))
    s hs he

/-- What `red_stack_exit` relies on: `_red_stack_spi_thread_running` is set only in the
tick loop, and while the exit waits in `thread_join` the flag is clear and the SPI
thread is in the tick loop or has returned. -/
structure ExitAt (s : Sys) : Prop where
  running : s.threadRunning = true → s.pc.ticking
  joining : s.event = .joining → s.threadRunning = false ∧ (s.pc.ticking ∨ s.pc = .returned)

theorem ExitAt.poll {s s' : Sys} {x : Transfer} {ok : Bool} (hs : ExitAt s)
    (h : pollStep s x ok = some s') : ExitAt s' := by
  have he := (pollStep_effect h).event
  -- outside the tick loop the flag is clear and no exit is joining
  have hout : ¬ s.pc.ticking → s.pc ≠ .returned → s.threadRunning = false ∧ s.event ≠ .joining :=
    fun ht hr => ⟨by simpa using mt hs.running ht, fun hj => (hs.joining hj).2.elim ht hr⟩
  cases pollStep_inv h with
  | starting hp =>
    obtain ⟨-, hj⟩ := hout (by simp [hp, PollPc.ticking]) (by simp [hp])
    exact ⟨fun _ => rfl, fun hj' => absurd (he ▸ hj') hj⟩
  | loopTop hp =>
    unfold Sys.loopTopStep
    split_ifs with hr
    · exact ⟨fun _ => rfl, fun hj => absurd hr (by simp [(hs.joining hj).1])⟩
    · exact ⟨fun h => absurd h hr, fun _ => ⟨by simpa using hr, .inr rfl⟩⟩
  | peeked item hp =>
    have hpc := s.peekedStep_pc item x
    obtain ⟨m, -, heq⟩ := s.peekedStep_eq item x
    have ht : (s.peekedStep item x).pc.ticking := by
      rcases hpc with ⟨_, _, hpc⟩ | hpc | hpc <;> rw [hpc] <;> rfl
    rw [heq] at ht he ⊢
    exact ⟨fun _ => ht, fun hj => ⟨(hs.joining (he ▸ hj)).1, .inl ht⟩⟩
  | popping it r hp =>
    unfold Sys.popStep at he ⊢
    split_ifs <;> exact ⟨fun _ => rfl, fun hj => ⟨(hs.joining hj).1, .inl rfl⟩⟩
  | notifying hp => exact ⟨fun _ => rfl, fun hj => ⟨(hs.joining hj).1, .inl rfl⟩⟩
  | waiting hp _ => exact ⟨fun _ => rfl, fun hj => ⟨(hs.joining hj).1, .inl rfl⟩⟩
  | probe a hp | sending a t hp | receiving a t hp | registering a hp | routed a hp =>
    obtain ⟨hr, hj⟩ := hout (by simp [hp, PollPc.ticking]) (by simp [hp])
    refine ⟨fun h' => absurd h' ?_, fun hj' => absurd (he ▸ hj') hj⟩
    simp only [Sys.probeStep, Sys.sendingStep, Sys.receivingStep, Sys.setupAttempt,
      Sys.registerStep, Sys.routedStep]
    (try split_ifs) <;> simp [Sys.transceive, hr]

theorem ExitAt.event {s s' : Sys} {e : EventInput} (hs : ExitAt s) (h : eventStep s e = some s') :
    ExitAt s' := by
  have hpc := (eventStep_effect h).pc
  by_cases hx : e = .exit
  · subst hx
    simp only [eventStep] at h
    split_ifs at h with _ hr <;> cases h
    · exact ⟨nofun, fun _ => ⟨rfl, .inl (hs.running hr)⟩⟩
    · exact ⟨fun h' => absurd h' hr, nofun⟩
  · have hr := eventStep_threadRunning hx h
    refine ⟨fun h' => hpc ▸ hs.running (hr ▸ h'), fun hj => ?_⟩
    rw [hr, hpc]
    exact hs.joining (eventStep_joining hx h hj)

theorem reachable_exitAt {s : Sys} (hs : Reachable s) : ExitAt s :=
  @Reachable.induction ExitAt (fun _ _ => ⟨nofun, nofun⟩) (fun _ _ _ _ _ hi h => hi.poll h)
    (fun _ _ _ _ hi h => hi.event h) s hs

/-- With every packet received delivered no packet is staged: the SPI thread is not
about to notify, the tick it pops after did not receive, and a wait has its permit. -/
theorem HandoffAt.unstaged {s : Sys} {p : PollPc} (h : HandoffAt s p)
    (hd : s.received = s.delivered) :
    p ≠ .notifying ∧ (∀ it r, p = .popping it r → r &&& transceiveDataReceived = 0) ∧
      (p = .waiting → 0 < s.permits) := by
  refine ⟨?_, fun it r hp => ?_, fun hp => ?_⟩
  · rintro rfl
    simp [HandoffAt, hd] at h
  · subst hp
    by_contra hr
    simp [HandoffAt, hr, hd] at h
  · subst hp
    rcases h with ⟨-, -, h⟩ | ⟨-, h, -⟩
    · simp [hd] at h
    · omega

/-- The steps the SPI thread has left before it returns, once the flag is clear and no
packet is staged: the rest of its tick and the loop test. -/
def exitRank : PollPc → Nat
  | .peeked _ => 3
  | .popping _ _ | .waiting => 2
  | .loopTop => 1
  | _ => 0

theorem exitRank_le (p : PollPc) : exitRank p ≤ 3 := by
  cases p <;> simp [exitRank]

/-- In the tick loop with no packet staged the SPI thread has steps left. -/
theorem exitRank_pos {s : Sys} (hs : Reachable s) (ht : s.pc.ticking)
    (hd : s.received = s.delivered) : 0 < exitRank s.pc := by
  have hn := ((reachable_handoffAt hs).unstaged hd).1
  cases hp : s.pc <;> simp [hp, exitRank, PollPc.ticking] at ht hn ⊢

/-- With the flag clear and no packet staged, the SPI thread can take a step on which no
frame passes the checks; it stages nothing and comes closer to its return. -/
theorem exit_step {s : Sys} (hs : Reachable s) (hr : s.threadRunning = false) (ht : s.pc.ticking)
    (hd : s.received = s.delivered) (hfd : s.spiFdOpen = true) {x : Transfer}
    (hx : ¬ FrameAccepted x.rx) :
    ∃ s', pollStep s x true = some s' ∧ s'.threadRunning = false ∧
      (s'.pc.ticking ∨ s'.pc = .returned) ∧ s'.received = s'.delivered ∧
      exitRank s'.pc < exitRank s.pc := by
  obtain ⟨hn, hpop, hwait⟩ := (reachable_handoffAt hs).unstaged hd
  cases hp : s.pc with
  | loopTop =>
    refine ⟨{ s with pc := .returned }, ?_, hr, .inr rfl, hd, by simp [exitRank]⟩
    simp [pollStep, hp, Sys.loopTopStep, hr]
  | peeked item =>
    obtain ⟨m, hm, heq⟩ := s.peekedStep_eq item x
    -- no frame passes the checks, so the tick receives nothing
    have hrec : m.val.retval &&& transceiveDataReceived = 0 := by
      by_contra h
      exact hx ((spiTransceiveMessage_dataReceived ..).mp (hm ▸ h)).2.2
    refine ⟨s.peekedStep item x, by simp [pollStep, hp, Sys.canAnswer, hfd], ?_⟩
    rw [heq]
    simp only [hrec, ne_eq, not_true_eq_false, ↓reduceIte]
    cases item <;> dsimp only <;> (try split_ifs) <;> simp [hr, hd, exitRank, PollPc.ticking]
  | popping it r =>
    refine ⟨s.popStep r, by simp [pollStep, hp], ?_⟩
    simp [Sys.popStep, hpop it r hp, hr, hd, exitRank, PollPc.ticking]
  | waiting =>
    refine ⟨{ s with permits := s.permits - 1, pc := .loopTop }, ?_, hr, .inl rfl, hd,
      by simp [exitRank]⟩
    simp [pollStep, hp, hwait hp]
  | notifying => exact absurd hp hn
  | probe _ | sending _ _ | receiving _ _ | registering _ | routed _ | starting | returned =>
    simp [hp, PollPc.ticking] at ht

/-- Fed answers on which no frame passes the checks, the SPI thread with the flag clear
and no packet staged returns within `exitRank` of its steps. -/
theorem run_exit {s : Sys} (xs : List Transfer) (hq : ∀ x ∈ xs, ¬ FrameAccepted x.rx)
    (hs : Reachable s) (hr : s.threadRunning = false) (ht : s.pc.ticking ∨ s.pc = .returned)
    (hd : s.received = s.delivered) (hfd : s.spiFdOpen = true) (hlen : exitRank s.pc ≤ xs.length) :
    ∃ n ≤ exitRank s.pc, ∃ s', s.run ((xs.take n).map fun x => .poll x true) = some s' ∧
      s'.pc = .returned ∧ s'.event = s.event := by
  induction xs generalizing s with
  | nil =>
    rcases ht with ht | ht
    · have := exitRank_pos hs ht hd
      simp only [List.length_nil, Nat.le_zero] at hlen
      omega
    · exact ⟨0, Nat.zero_le _, s, rfl, ht, rfl⟩
  | cons x xs ih =>
    rcases ht with ht | ht
    · obtain ⟨s₁, hp, hr₁, ht₁, hd₁, hlt⟩ :=
        exit_step hs hr ht hd hfd (hq x (List.mem_cons_self _ _))
      obtain ⟨n, hn, s', hrun, hret, hev⟩ := ih (fun y hy => hq y (List.mem_cons_of_mem _ hy))
        (hs.step (.poll x true hp)) hr₁ ht₁ hd₁ ((pollStep_effect hp).spiFdOpen.trans hfd)
        (by simp only [List.length_cons] at hlen; omega)
      exact ⟨n + 1, by omega, s', by simpa [Sys.run, hp] using hrun, hret,
        hev.trans (pollStep_effect hp).event⟩
    · exact ⟨0, Nat.zero_le _, s, rfl, ht, rfl⟩

/-- `red_stack_exit` returns when no packet is staged. From every reachable state in
which the exit waits in `thread_join` and every packet received was passed to
`network_dispatch_response`, the SPI thread, fed any answers on which no frame passes
the checks, returns within three of its steps, and then the join returns. -/
theorem red_stack_exit_returns {s : Sys} (hs : Reachable s) (hj : s.event = .joining)
    (hd : s.received = s.delivered) (xs : List Transfer) (hlen : 3 ≤ xs.length)
    (hq : ∀ x ∈ xs, ¬ FrameAccepted x.rx) :
    ∃ n ≤ 3, ∃ s', s.run ((xs.take n).map (fun x => .poll x true) ++ [.event .join]) = some s' ∧
      s'.event = .exited := by
  obtain ⟨hr, ht⟩ := (reachable_exitAt hs).joining hj
  obtain ⟨n, hn, s₁, hrun, hret, hev⟩ :=
    run_exit xs hq hs hr ht hd (reachable_spiFdOpen hs (by simp [hj])) ((exitRank_le s.pc).trans hlen)
  refine ⟨n, hn.trans (exitRank_le s.pc), { s₁ with event := .exited, spiFdOpen := false }, ?_, rfl⟩
  rw [Sys.run_append, hrun]
  simp [Sys.run, eventStep, hev, hj, hret]

/-- The setup finds one slave, the thread enters its tick loop and peeks the empty queue,
and then `red_stack_exit` is called. -/
def exitMidTick : List Action := discoverOneSlave 1 ++ [.quiet, .quiet, .event .exit]

set_option maxRecDepth 4000 in
/-- An exit called while the first tick is about to exchange returns once the tick and
the loop test are done. -/
theorem red_stack_exit_returns_mid_tick :
    ∃ s, (Sys.init 0 (Buf.zero 80)).run exitMidTick = some s ∧ s.event = .joining ∧
      ∃ n ≤ 3, ∃ s', s.run (((List.replicate 3 (⟨0, Buf.zero 84⟩ : Transfer)).take n).map
        (fun x => .poll x true) ++ [.event .join]) = some s' ∧ s'.event = .exited := by
  have hany : ((Sys.init 0 (Buf.zero 80)).run exitMidTick).any
      (fun s => decide (s.event = .joining ∧ s.received = s.delivered)) = true := by decide
  cases hrun : (Sys.init 0 (Buf.zero 80)).run exitMidTick with
  | none => simp [hrun] at hany
  | some s =>
    simp only [hrun, Option.any_some, decide_eq_true_eq] at hany
    exact ⟨s, rfl, hany.1, red_stack_exit_returns
      ((Reachable.init 0 _).reflTransGen (Sys.reflTransGen_of_run hrun)) hany.1 hany.2 _
      (by simp) fun x hx => by rw [(List.mem_replicate.mp hx).2]; decide⟩

end Brickd.RedStack
