import Brickd.Engine

/-!
Shutdown. `red_stack_exit` stops the SPI thread only if `_red_stack_spi_thread_running`
is already set: it clears the flag and joins the thread; on both paths it then closes
`_red_stack_spi_fd`. The flag is set only after the routing table setup, so an exit
during the setup finds it clear, neither stops nor joins the thread, closes the device
and returns. The thread goes on: its exchanges fail on the closed device, but it still
selects slaves, finishes the setup with the slaves found before the exit, sets the flag
and runs its tick loop for good.
-/
namespace Brickd.RedStack

/-- After `red_stack_exit` has returned the event thread takes no more steps. -/
theorem eventStep_exited {s : Sys} (he : s.event = .exited) (e : EventInput) :
    eventStep s e = none := by
  cases e <;> simp [eventStep, he]

/-- A step after `red_stack_exit` has returned keeps it returned and never clears
`_red_stack_spi_thread_running`. -/
theorem Step.exited {s s' : Sys} (h : Step s s') (he : s.event = .exited) :
    s'.event = .exited ∧ (s.threadRunning = true → s'.threadRunning = true) := by
  cases h with
  | poll x ok hp =>
    have hp := pollStep_effect hp
    exact ⟨hp.event.trans he, hp.running⟩
  | event e h' => simp [eventStep_exited he] at h'

/-- Once `red_stack_exit` has returned, it stays returned and the flag, once set, stays
set: the tick loop never ends. -/
theorem exited_keeps_running {s s' : Sys} (he : s.event = .exited)
    (h : Relation.ReflTransGen Step s s') :
    s'.event = .exited ∧ (s.threadRunning = true → s'.threadRunning = true) := by
  induction h with
  | refl => exact ⟨he, id⟩
  | tail _ hstep ih =>
    obtain ⟨he', hr'⟩ := ih
    obtain ⟨he'', hr''⟩ := hstep.exited he'
    exact ⟨he'', hr'' ∘ hr'⟩

/-- The setup's round with slot 0 finds UID 1; then `red_stack_exit` runs, finds the flag
clear and closes `_red_stack_spi_fd`. -/
def exitAfterSlotZero : List Action := enumerateSlotZero 1 ++ [.event .exit]

/-- The rest of the setup on the closed device: the probe of slot 1, its attempts, all of
which fail, `slave_num = 1`, and `_red_stack_spi_thread_running = 1`. -/
def setupAfterExit : List Action :=
  .quiet :: List.replicate spiRoutingTries .quiet ++ [.quiet, .quiet]

set_option maxRecDepth 4000 in
/-- An exit during the routing table setup is lost. Once slot 0 has answered,
`red_stack_exit` finds `_red_stack_spi_thread_running` clear, closes `_red_stack_spi_fd`
and returns. The SPI thread still selects a slave for each of its exchanges, which now
all fail, assigns `slave_num = 1`, sets the flag, and keeps it set in every later state. -/
theorem exit_during_setup_is_lost :
    ∃ s, Reachable s ∧ s.event = .exited ∧ s.spiFdOpen = false ∧ s.threadRunning = false ∧
      ∃ s', Relation.ReflTransGen Step s s' ∧ s'.threadRunning = true ∧ s'.stack.slaveNum = 1 ∧
        s.selected.length < s'.selected.length ∧
        ∀ s'', Relation.ReflTransGen Step s' s'' → s''.threadRunning = true := by
  obtain ⟨s, s', hrun, ⟨he, hfd, hr⟩, hrun', hr', hn, hsel⟩ := @Sys.exists_of_two_runs
    (fun s => s.event = .exited ∧ s.spiFdOpen = false ∧ s.threadRunning = false)
    (fun s s' => s'.threadRunning = true ∧ s'.stack.slaveNum = 1 ∧
      s.selected.length < s'.selected.length) _ _
    (Sys.init 0 (Buf.zero 80)) exitAfterSlotZero setupAfterExit (by decide)
  have he' := (exited_keeps_running he hrun').1
  exact ⟨s, (Reachable.init 0 (Buf.zero 80)).reflTransGen hrun, he, hfd, hr, s', hrun', hr', hn,
    hsel, fun s'' h => (exited_keeps_running he' h).2 hr'⟩

end Brickd.RedStack
