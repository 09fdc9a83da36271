import Brickd.Discovery
import Brickd.RoundRobin

/-!
The routing table setup ends, whatever the bus returns. A slot costs the SPI thread at
most `2 * RED_STACK_SPI_ROUTING_TRIES + 2` steps: the probe, the attempts of the send
phase and of the receive phase, and the UID loop; after the last of the
`RED_STACK_SPI_MAX_SLAVES` slots come the probe past it and the assignment of
`slave_num`. `setupRank` counts what is left of this at each point of the SPI thread.
Every step of the setup lowers it, and no step of the event thread moves the SPI thread,
so in every interleaving at most 178 steps of the SPI thread fall in the setup. None of
them blocks, so the SPI thread alone gets through the setup within as many steps.
-/
namespace Brickd.RedStack

/-- The steps of the setup left from the probe of slot `a`. -/
def probeRank (a : Nat) : Nat := (2 * spiRoutingTries + 2) * (spiMaxSlaves - a) + 2

/-- An upper bound on the steps of the setup left at each point of the SPI thread; none
once `slave_num` is assigned. -/
def setupRank : PollPc → Nat
  | .probe a => probeRank a
  | .sending a t => (spiRoutingTries - t) + spiRoutingTries + 1 + probeRank (a + 1)
  | .receiving a t => (spiRoutingTries - t) + 1 + probeRank (a + 1)
  | .registering a => 1 + probeRank (a + 1)
  | .routed _ => 1
  | _ => 0

theorem setupRank_of_routingDone {p : PollPc} (hd : p.routingDone) : setupRank p = 0 := by
  cases p <;> simp_all [PollPc.routingDone, setupRank]

/-- Every step of the setup lowers `setupRank`: a retry uses up an attempt, a phase
that succeeds moves on, and the end of the attempts or of the slots ends the setup. -/
theorem setupRank_pollStep {s s' : Sys} {x : Transfer} {ok : Bool} (ht : TriesAt s.pc)
    (hd : ¬ s.pc.routingDone) (h : pollStep s x ok = some s') :
    setupRank s'.pc < setupRank s.pc := by
  cases pollStep_inv h with
  | probe a hp =>
    rw [hp]
    unfold Sys.probeStep
    split_ifs with ha <;> simp only [setupRank, probeRank, spiMaxSlaves, spiRoutingTries] at ha ⊢ <;>
      omega
  | sending a t hp | receiving a t hp =>
    rw [hp] at ht ⊢
    simp only [TriesAt, spiRoutingTries] at ht
    simp only [Sys.sendingStep, Sys.receivingStep, Sys.setupAttempt]
    split_ifs <;> simp only [setupRank, probeRank, spiRoutingTries] <;> omega
  | registering a hp => rw [hp]; simp [Sys.registerStep, setupRank]
  | routed a hp =>
    rw [hp]
    unfold Sys.routedStep
    split_ifs <;> simp [setupRank]
  | starting hp | loopTop hp | peeked _ hp | popping _ _ hp | notifying hp | waiting hp _ =>
    simp [hp, PollPc.routingDone] at hd

/-- No step of the setup blocks while `_red_stack_spi_fd` is open. -/
theorem pollStep_isSome_of_setup {s : Sys} (hd : ¬ s.pc.routingDone) (hfd : s.spiFdOpen = true)
    (x : Transfer) (ok : Bool) : (pollStep s x ok).isSome := by
  cases hp : s.pc <;> simp_all [pollStep, PollPc.routingDone, Sys.canAnswer]

/-- The steps of the SPI thread that a schedule run from `s` takes before `slave_num` is
assigned, up to the first step that cannot be taken. -/
def Sys.setupSteps (s : Sys) : List Action → Nat
  | [] => 0
  | .poll x ok :: as =>
    match pollStep s x ok with
    | none => 0
    | some s' => (if s.pc.routingDone then 0 else 1) + s'.setupSteps as
  | .event e :: as =>
    match eventStep s e with
    | none => 0
    | some s' => s'.setupSteps as

/-- From every reachable state, a schedule takes at most `setupRank` steps of the setup. -/
theorem setupSteps_le {s : Sys} (hs : Reachable s) (as : List Action) :
    s.setupSteps as ≤ setupRank s.pc := by
  induction as generalizing s with
  | nil => exact Nat.zero_le _
  | cons a as ih =>
    cases a with
    | poll x ok =>
      cases hp : pollStep s x ok with
      | none => simp [Sys.setupSteps, hp]
      | some s₁ =>
        have ih := ih (hs.step (.poll x ok hp))
        simp only [Sys.setupSteps, hp]
        by_cases hd : s.pc.routingDone
        · rw [setupRank_of_routingDone (pollStep_routingDone hd hp).1] at ih
          rw [if_pos hd]
          omega
        · have := setupRank_pollStep (reachable_triesAt hs) hd hp
          rw [if_neg hd]
          omega
    | event e =>
      cases he : eventStep s e with
      | none => simp [Sys.setupSteps, he]
      | some s₁ =>
        simp only [Sys.setupSteps, he]
        exact (eventStep_effect he).pc ▸ ih (hs.step (.event e he))

/-- From every reachable state with `_red_stack_spi_fd` open, the SPI thread alone, fed
the answers `xs`, ends the setup within `setupRank` steps, unless the answers run out
first. -/
theorem run_setup_ends {s : Sys} (hs : Reachable s) (hfd : s.spiFdOpen = true) :
    ∀ xs : List (Transfer × Bool), ∃ n ≤ setupRank s.pc, ∃ s',
      s.run ((xs.take n).map fun x => .poll x.1 x.2) = some s' ∧ (s'.pc.routingDone ∨ n = xs.length)
  | [] => ⟨0, Nat.zero_le _, s, rfl, .inr rfl⟩
  | (x, ok) :: xs => by
    by_cases hd : s.pc.routingDone
    · exact ⟨0, Nat.zero_le _, s, rfl, .inl hd⟩
    obtain ⟨s₁, hp⟩ := Option.isSome_iff_exists.mp (pollStep_isSome_of_setup hd hfd x ok)
    obtain ⟨n, hn, s', hrun, hend⟩ :=
      run_setup_ends (hs.step (.poll x ok hp)) ((pollStep_effect hp).spiFdOpen.trans hfd) xs
    have hlt := setupRank_pollStep (reachable_triesAt hs) hd hp
    exact ⟨n + 1, by omega, s', by simpa [Sys.run, hp] using hrun, by simpa using hend⟩

/-- `red_stack_spi_create_routing_table` ends, whatever the bus returns. In every
interleaving with the event thread at most `(2 * RED_STACK_SPI_ROUTING_TRIES + 2) *
RED_STACK_SPI_MAX_SLAVES + 2` steps of the SPI thread come before `slave_num` is
assigned, and the SPI thread alone, fed any answers of the bus and of `pipe_write`,
assigns it within that many steps unless the answers run out first. -/
theorem createRoutingTable_terminates (f : UInt8) (p : Packet) :
    (∀ as : List Action,
      (Sys.init f p).setupSteps as ≤ (2 * spiRoutingTries + 2) * spiMaxSlaves + 2) ∧
      ∀ xs : List (Transfer × Bool), ∃ n ≤ (2 * spiRoutingTries + 2) * spiMaxSlaves + 2, ∃ s',
        (Sys.init f p).run ((xs.take n).map fun x => .poll x.1 x.2) = some s' ∧
          (s'.pc.routingDone ∨ n = xs.length) :=
  ⟨setupSteps_le (.init f p), run_setup_ends (.init f p) rfl⟩

end Brickd.RedStack
