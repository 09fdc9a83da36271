import Brickd.Engine

/-!
Request routing by `red_stack_dispatch_to_spi`. A request for UID 0 is broadcast: the loop
queues one copy for each slot below `slave_num`, in slot order, reading `slave_num` anew
at each iteration. Any other request goes to the lowest slot below `slave_num` that
registered its UID, or nowhere when no slot did. Each queued item holds the first
`header.length` bytes of the request, and the items queued before stay as they are.
-/
namespace Brickd.RedStack

/-- The `memcpy` of `header.length` bytes into the memory `queue_push` handed out gives the
item the request's first `header.length` bytes. -/
theorem slice_copy_request (request memory : Packet)
    (hlen : request.headerLength.toNat ≤ sizeofPacket) :
    (memory.copy 0 request 0 request.headerLength.toNat).val.slice 0 request.headerLength.toNat =
      request.slice 0 request.headerLength.toNat :=
  Buf.slice_congr fun k hk => by
    rw [Buf.get_copy _ _ _ _ _ _ (by unfold sizeofPacket at hlen; omega),
      if_pos ⟨Nat.zero_le _, by omega⟩]
    simp

@[simp] theorem pushRequest_queue (s : Sys) (slot : Nat) (request memory : Packet) :
    (s.pushRequest slot request memory).stack.packetToSpiQueue =
      s.stack.packetToSpiQueue ++ [⟨slot, (memory.copy 0 request 0 request.headerLength.toNat).val⟩] :=
  rfl

/-- The broadcast loop from slot `i` on, with one memory for each iteration and one for
the final test: it queues a copy of the request for each slot from `i` to `slave_num - 1`
and returns. -/
theorem run_broadcast {request : Packet} (hlen : request.headerLength.toNat ≤ sizeofPacket) :
    ∀ (memories : List Packet) (s : Sys) (i : Nat), s.event = .broadcasting request i →
      i ≤ s.stack.slaveNum → memories.length = s.stack.slaveNum - i + 1 →
      ∃ s' new, s.run (memories.map fun m => .event (.broadcast m)) = some s' ∧
        s'.event = .idle ∧ s'.stack.packetToSpiQueue = s.stack.packetToSpiQueue ++ new ∧
        new.map (·.slave) = List.range' i (s.stack.slaveNum - i) ∧
        ∀ it ∈ new, it.packet.slice 0 request.headerLength.toNat =
          request.slice 0 request.headerLength.toNat
  | [], _, _, _, _, hl => absurd hl (by simp)
  | m :: ms, s, i, he, hi, hl => by
    by_cases hlt : i < s.stack.slaveNum
    · obtain ⟨s', new, hrun, he', hq, hslots, hcopy⟩ :=
        run_broadcast hlen ms { s.pushRequest i request m with event := .broadcasting request (i + 1) }
          (i + 1) rfl hlt (by simp [Sys.pushRequest] at hl ⊢; omega)
      refine ⟨s', ⟨i, (m.copy 0 request 0 request.headerLength.toNat).val⟩ :: new, ?_, he', ?_, ?_, ?_⟩
      · simpa [Sys.run, eventStep, he, hlt] using hrun
      · simpa [Sys.pushRequest] using hq
      · rw [List.map_cons, hslots, show s.stack.slaveNum - i = s.stack.slaveNum - (i + 1) + 1 by omega]
        rfl
      · rintro it (_ | ⟨_, hit⟩)
        · exact slice_copy_request request m hlen
        · exact hcopy it hit
    · obtain rfl : ms = [] := List.eq_nil_of_length_eq_zero (by simp at hl; omega)
      refine ⟨{ s with event := .idle }, [], by simp [Sys.run, eventStep, he, hlt], rfl, by simp, ?_,
        by simp⟩
      rw [show s.stack.slaveNum - i = 0 by omega]
      rfl

/-- `red_stack_dispatch_to_spi` on every slave table and queue, with its steps run one
after another, for a request of at most `sizeof(Packet)` bytes. A request for UID 0
queues, after the items already there, one item for each slot below `slave_num`, in slot
order; any other request queues one item for the lowest slot below `slave_num` whose
registered UIDs hold its UID, and nothing when there is none. Every item queued carries
the request's first `header.length` bytes. -/
theorem dispatchToSpi_routes (s : Sys) (he : s.event = .idle) (request : Packet)
    (hlen : request.headerLength.toNat ≤ sizeofPacket) :
    (request.uid = 0 → ∀ (memory : Packet) (memories : List Packet), memories.length = s.stack.slaveNum + 1 →
      ∃ s' new, s.run (.event (.dispatchToSpi request memory) ::
          memories.map fun m => .event (.broadcast m)) = some s' ∧
        s'.event = .idle ∧ s'.stack.packetToSpiQueue = s.stack.packetToSpiQueue ++ new ∧
        new.map (·.slave) = List.range s.stack.slaveNum ∧
        ∀ it ∈ new, it.packet.slice 0 request.headerLength.toNat =
          request.slice 0 request.headerLength.toNat) ∧
    (request.uid ≠ 0 → ∀ memory : Packet, ∃ s' new, eventStep s (.dispatchToSpi request memory) = some s' ∧
      s'.stack.packetToSpiQueue = s.stack.packetToSpiQueue ++ new ∧
      ((new = [] ∧ ∀ i < s.stack.slaveNum, request.uid ∉ (s.stack.slave i).knownUids) ∨
        ∃ it, new = [it] ∧ it.slave < s.stack.slaveNum ∧
          request.uid ∈ (s.stack.slave it.slave).knownUids ∧
          (∀ j < it.slave, request.uid ∉ (s.stack.slave j).knownUids) ∧
          it.packet.slice 0 request.headerLength.toNat = request.slice 0 request.headerLength.toNat)) := by
  refine ⟨fun hu memory memories hl => ?_, fun hu memory => ?_⟩
  · obtain ⟨s', new, hrun, he', hq, hslots, hcopy⟩ :=
      run_broadcast hlen memories { s with event := .broadcasting request 0 } 0 rfl (Nat.zero_le _)
        (by simpa using hl)
    refine ⟨s', new, ?_, he', hq, by simpa [List.range_eq_range'] using hslots, hcopy⟩
    simpa [Sys.run, eventStep, he, hu] using hrun
  · cases hl : spiGetSlaveForUid s.stack request.uid with
    | none =>
      exact ⟨s, [], by simp [eventStep, he, hu, hl], by simp,
        .inl ⟨rfl, spiGetSlaveForUid_eq_none_iff.mp hl⟩⟩
    | some slot =>
      obtain ⟨hlt, hmem, hlow⟩ := spiGetSlaveForUid_eq_some_iff.mp hl
      exact ⟨_, _, by simp [eventStep, he, hu, hl], pushRequest_queue s slot request memory,
        .inr ⟨_, rfl, hlt, hmem, hlow, slice_copy_request request memory hlen⟩⟩

set_option maxRecDepth 4000 in
/-- After the setup found one slave, a broadcast of 8 bytes queues one item, for slot 0. -/
theorem dispatchToSpi_routes_one_slave :
    ∃ s, Reachable s ∧ s.stack.slaveNum = 1 ∧ ∃ s' new,
      s.run [.event (.dispatchToSpi (requestFor 0 8) (Buf.zero 80)), .event (.broadcast (Buf.zero 80)),
        .event (.broadcast (Buf.zero 80))] = some s' ∧
      s'.stack.packetToSpiQueue = s.stack.packetToSpiQueue ++ new ∧ new.map (·.slave) = [0] := by
  obtain ⟨s, hrun, he, hn⟩ := @Sys.exists_of_run (fun s => s.event = .idle ∧ s.stack.slaveNum = 1) _
    (Sys.init 0 (Buf.zero 80)) (discoverOneSlave 1 ++ [.quiet]) (by decide)
  obtain ⟨s', new, hr, -, hq, hslots, -⟩ :=
    (dispatchToSpi_routes s he (requestFor 0 8) (by decide)).1 (by decide) (Buf.zero 80)
      [Buf.zero 80, Buf.zero 80] (by simp [hn])
  exact ⟨s, (Reachable.init 0 (Buf.zero 80)).reflTransGen hrun, hn, s', new, hr, hq,
    by simpa [hn] using hslots⟩

end Brickd.RedStack
