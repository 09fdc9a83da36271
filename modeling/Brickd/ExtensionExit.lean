import Brickd.ExtensionInit
import Mathlib.Data.List.Basic

/-!
`red_extension_exit`: for each position it calls the exit function of the type recorded
in `_red_extension_type` and clears the entry. `red_extension_init` records a type only
for an initialisation that succeeded, and keeps the entry as it was otherwise. So from a
table of `EXTENSION_TYPE_NONE`, the static initialiser's and the one every
`red_extension_exit` leaves behind, an init followed by an exit stops, in position order,
exactly the extensions the init started successfully: each once, and no other.
-/
namespace Brickd.RedExtension

/-- A call of `red_extension_exit`: `red_rs485_extension_exit()` or
`red_ethernet_extension_exit()`. -/
inductive ExtensionExitCall
  | rs485
  | ethernet
  deriving DecidableEq

/-- The `switch` of `red_extension_exit` on a recorded type. -/
def exitCallOf (type : UInt32) : Option ExtensionExitCall :=
  if type = extensionTypeRs485 then some .rs485
  else if type = extensionTypeEthernet then some .ethernet
  else none

/-- The loop of `red_extension_exit` over the positions `is`: the calls it makes and
`_red_extension_type` after it. -/
def exitLoop : List Nat → (Nat → UInt32) → List ExtensionExitCall × (Nat → UInt32)
  | [], extensionType => ([], extensionType)
  | i :: is, extensionType =>
    let rest := exitLoop is (Function.update extensionType i extensionTypeNone)
    ((exitCallOf (extensionType i)).toList ++ rest.1, rest.2)

/-- `red_extension_exit()`, with `_red_extension_type` holding `extensionType`. -/
def redExtensionExit (extensionType : Nat → UInt32) : List ExtensionExitCall × (Nat → UInt32) :=
  exitLoop (List.range extensionNumMax) extensionType

/-- Over distinct positions, the exit loop calls the exit function of each recorded type
in turn: clearing one entry does not change the ones still to come. -/
theorem exitLoop_calls : ∀ (is : List Nat) (extensionType : Nat → UInt32), is.Nodup →
    (exitLoop is extensionType).1 = is.filterMap fun i => exitCallOf (extensionType i)
  | [], _, _ => rfl
  | i :: is, extensionType, hnd => by
    obtain ⟨hi, hnd⟩ := List.nodup_cons.mp hnd
    have hrest : (is.filterMap fun j => exitCallOf (Function.update extensionType i extensionTypeNone j)) =
        is.filterMap fun j => exitCallOf (extensionType j) :=
      List.filterMap_congr fun j hj => by rw [Function.update_noteq fun h : j = i => hi (h ▸ hj)]
    rw [exitLoop, exitLoop_calls is _ hnd, hrest, List.filterMap_cons]
    cases exitCallOf (extensionType i) <;> rfl

/-- The exit loop clears the entries of the positions it visits. -/
theorem exitLoop_types : ∀ (is : List Nat) (extensionType : Nat → UInt32) (j : Nat),
    (exitLoop is extensionType).2 j = if j ∈ is then extensionTypeNone else extensionType j
  | [], _, _ => by simp [exitLoop]
  | i :: is, extensionType, j => by
    rw [exitLoop, exitLoop_types is]
    by_cases hj : j ∈ is
    · simp [hj]
    · by_cases hji : j = i
      · subst hji
        simp [hj]
      · simp [hj, hji]

/-! ### After `red_extension_init` -/

/-- Whether the initialisation a call of the initialisation loop makes succeeds. -/
def ExtensionHardware.initOk {h : ExtensionHeaders} (hw : ExtensionHardware) :
    ExtensionInitCall h → Bool
  | .rs485 i _ => hw.rs485InitOk i
  | .ethernet i _ => hw.ethernetInitOk i

/-- The exit function that stops what a call of the initialisation loop started. -/
def ExtensionInitCall.exitCall {h : ExtensionHeaders} : ExtensionInitCall h → ExtensionExitCall
  | .rs485 .. => .rs485
  | .ethernet .. => .ethernet

variable (hdr : ExtensionHeaders) (hw : ExtensionHardware)

/-- The exit function of position `i`'s initialisation, if the loop calls one there and
it succeeds. -/
def ExtensionHardware.startedExit (baseConfig : Nat → ExtensionBaseConfig hdr) (i : Nat) :
    Option ExtensionExitCall :=
  if (baseConfig i).type = extensionTypeRs485 then
    if hw.rs485InitOk i then some .rs485 else none
  else if (baseConfig i).type = extensionTypeEthernet then
    if hw.ethernetInitOk i then some .ethernet else none
  else none

/-- The initialisations of the loop that succeed, position by position. -/
theorem initLoop_started (baseConfig : Nat → ExtensionBaseConfig hdr) :
    ∀ (is : List Nat) (extensionType : Nat → UInt32),
      ((initLoop hdr hw baseConfig is extensionType).1.filter hw.initOk).map
          ExtensionInitCall.exitCall =
        is.filterMap (hw.startedExit hdr baseConfig) :=
  fun is extensionType => by
    rw [initLoop_calls, List.filter_filterMap, List.map_filterMap]
    refine List.filterMap_congr fun i _ => ?_
    unfold ExtensionBaseConfig.initCall ExtensionHardware.startedExit
    split_ifs <;> simp_all [ExtensionHardware.initOk, ExtensionInitCall.exitCall, Option.filter]

/-- From entries of `EXTENSION_TYPE_NONE`, the types the initialisation loop records call,
in the exit loop, the exit functions of the initialisations that succeeded. -/
theorem exitCallOf_initLoop (baseConfig : Nat → ExtensionBaseConfig hdr) {is : List Nat}
    {extensionType : Nat → UInt32} (h0 : ∀ i ∈ is, extensionType i = extensionTypeNone) :
    ∀ i ∈ is, exitCallOf ((initLoop hdr hw baseConfig is extensionType).2 i) =
      hw.startedExit hdr baseConfig i := fun i hi => by
  rw [initLoop_extensionType, h0 i hi]
  unfold ExtensionHardware.startedExit
  split_ifs <;> simp_all [exitCallOf, extensionTypeEthernet_ne_rs485,
    extensionTypeEthernet_ne_rs485.symm, extensionTypeNone_ne_rs485,
    extensionTypeNone_ne_ethernet]

/-- `red_extension_exit` after `red_extension_init`, on every answer of the two
extensions, from a table of `EXTENSION_TYPE_NONE`: the exit calls, in position order,
`red_rs485_extension_exit` and `red_ethernet_extension_exit` once for each
initialisation that succeeded and for no other, and leaves the table of
`EXTENSION_TYPE_NONE` it started from. -/
theorem redExtensionExit_after_init (baseConfig : Nat → ExtensionBaseConfig hdr)
    (extensionType : Nat → UInt32) (h0 : ∀ j < extensionNumMax, extensionType j = extensionTypeNone) :
    (redExtensionExit (redExtensionInit hdr hw baseConfig extensionType).val.extensionType).1 =
        ((redExtensionInit hdr hw baseConfig extensionType).val.calls.filter hw.initOk).map
          ExtensionInitCall.exitCall ∧
      ∀ j < extensionNumMax,
        (redExtensionExit (redExtensionInit hdr hw baseConfig extensionType).val.extensionType).2 j =
          extensionTypeNone := by
  refine ⟨?_, fun j hj => by simp [redExtensionExit, exitLoop_types, hj]⟩
  have h0' : ∀ i ∈ List.range extensionNumMax, extensionType i = extensionTypeNone :=
    fun i hi => h0 i (List.mem_range.mp hi)
  rw [redExtensionExit, exitLoop_calls _ _ (List.nodup_range _)]
  simp only [redExtensionInit, Mem.val_bind]
  cases (probeLoop hdr hw (List.range extensionNumMax) baseConfig).val with
  | none =>
    simp only [Mem.val_pure, List.filter_nil, List.map_nil, List.filterMap_eq_nil_iff]
    intro i hi
    simp [h0' i hi, exitCallOf, extensionTypeNone_ne_rs485, extensionTypeNone_ne_ethernet]
  | some after =>
    rw [Mem.val_pure, initLoop_started, List.filterMap_congr (exitCallOf_initLoop hdr hw after h0')]

/-- With the RS485 extension of `blankRs485Hardware` at position 0, whose initialisation
succeeds, the exit stops it once. -/
theorem redExtensionExit_after_blank_rs485_init :
    (∀ j < extensionNumMax, (fun _ => extensionTypeNone) j = extensionTypeNone) ∧
      (redExtensionExit (redExtensionInit exampleHeaders blankRs485Hardware
          (zeroBaseConfig exampleHeaders) fun _ => extensionTypeNone).val.extensionType).1 =
        ((redExtensionInit exampleHeaders blankRs485Hardware (zeroBaseConfig exampleHeaders)
          fun _ => extensionTypeNone).val.calls.filter blankRs485Hardware.initOk).map
          ExtensionInitCall.exitCall :=
  ⟨fun _ _ => rfl,
    (redExtensionExit_after_init exampleHeaders blankRs485Hardware (zeroBaseConfig exampleHeaders)
      (fun _ => extensionTypeNone) fun _ _ => rfl).1⟩

end Brickd.RedExtension
