import Brickd.Targeting
import Mathlib.Data.List.Nodup

/-!
The order in which the tick loop polls the slaves. A tick whose `queue_peek` returns NULL
exchanges with slave `stack_address_cycle` and only then moves the cursor on modulo
`slave_num`; a tick that serves a queued item leaves the cursor alone, and so does every
step of the setup and of the event thread. The cursor starts at 0, so in every
interleaving the idle ticks poll slots 0, 1, …, `slave_num - 1`, 0, 1, … in turn, and any
`slave_num` consecutive idle ticks poll every present slot once.
-/
namespace Brickd.RedStack

/-- After the setup no step of the SPI thread returns to it or touches `slave_num`. -/
theorem pollStep_routingDone {s s' : Sys} {x : Transfer} {ok : Bool} (hd : s.pc.routingDone)
    (h : pollStep s x ok = some s') :
    s'.pc.routingDone ∧ s'.stack.slaveNum = s.stack.slaveNum := by
  cases pollStep_inv h with
  | peeked item _ =>
    obtain ⟨m, -, heq⟩ := s.peekedStep_eq item x
    refine ⟨?_, by rw [heq]; rfl⟩
    rcases s.peekedStep_pc item x with ⟨_, _, hpc⟩ | hpc | hpc <;> rw [hpc] <;> rfl
  | probe _ hp | sending _ _ hp | receiving _ _ hp | registering _ hp | routed _ hp =>
    simp [hp, PollPc.routingDone] at hd
  | starting _ | loopTop _ | popping _ _ _ | notifying _ | waiting _ _ =>
    simp only [Sys.startStep, Sys.loopTopStep, Sys.popStep, Sys.notifyStep]
    (try split_ifs) <;> simp [PollPc.routingDone]

end Brickd.RedStack
