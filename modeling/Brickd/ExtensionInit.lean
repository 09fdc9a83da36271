import Brickd.Rs485Config

/-!
`red_extension_init`: the probe loop reads the type word of each extension's EEPROM and
then its RS485 or Ethernet configuration into `base_config[i]`; the initialisation loop
then starts every position whose `base_config[i].type` is RS485 or Ethernet. A failed
configuration read logs "ignoring extension" and `continue`s, but `base_config[i].type`
was set from the EEPROM before the read and stays as it is, so the initialisation loop
starts that extension all the same, with the configuration as far as it was read. The
pin configuration, `red_ethernet_extension_rmmod` and `i2c_eeprom_release` change
nothing the two loops read and are left out.
-/
namespace Brickd.RedExtension

/-- `EXTENSION_NUM_MAX`. -/
def extensionNumMax : Nat := 2

/-- `EXTENSION_EEPROM_TYPE_LOCATION`. -/
def extensionEepromTypeLocation : Nat := 0

/-- `EXTENSION_EEPROM_TYPE_SIZE`. -/
def extensionEepromTypeSize : Nat := 4

/-- `EXTENSION_EEPROM_ETHERNET_MAC_ADDRESS`. -/
def extensionEepromEthernetMacAddress : Nat := 32 * 4

/-- `EXTENSION_TYPE_NONE`. -/
def extensionTypeNone : UInt32 := 0

/-- `EXTENSION_TYPE_RS485`. -/
def extensionTypeRs485 : UInt32 := 2

/-- `EXTENSION_TYPE_ETHERNET`. -/
def extensionTypeEthernet : UInt32 := 4

/-- `ExtensionEthernetConfig`: the MAC address, `EXTENSION_ETHERNET_MAC_SIZE` bytes. -/
structure ExtensionEthernetConfig (macSize : Nat) where
  mac : Buf macSize

/-- What `red_extension_read_ethernet_config` leaves: its return value, `*ethernet_config`
and the number of EEPROM reads issued so far. -/
structure EthernetConfigRead (macSize : Nat) where
  ret : Int
  config : ExtensionEthernetConfig macSize
  reads : Nat

/-- `ExtensionBaseConfig base_config[i]`, with the RS485 or Ethernet configuration the
casts `(ExtensionRS485Config *) &base_config[i]` and `(ExtensionEthernetConfig *)
&base_config[i]` reach. -/
structure ExtensionBaseConfig (hdr : ExtensionHeaders) where
  extension : Nat
  type : UInt32
  rs485 : ExtensionRS485Config hdr.rs485SlavesMax
  ethernet : ExtensionEthernetConfig hdr.ethernetMacSize

/-- A call of the initialisation loop: `red_rs485_extension_init` or
`red_ethernet_extension_init` for a position, with the configuration it is given. -/
inductive ExtensionInitCall (hdr : ExtensionHeaders)
  | rs485 (position : Nat) (config : ExtensionRS485Config hdr.rs485SlavesMax)
  | ethernet (position : Nat) (config : ExtensionEthernetConfig hdr.ethernetMacSize)

/-- What the extensions answer: whether `i2c_eeprom_init` succeeds for a position, the
EEPROM of each position, and whether `red_rs485_extension_init` and
`red_ethernet_extension_init` succeed for it. -/
structure ExtensionHardware where
  eepromInitOk : Nat → Bool
  eeprom : Nat → I2CEEPROM
  rs485InitOk : Nat → Bool
  ethernetInitOk : Nat → Bool

/-- What `red_extension_init` leaves: its return value, the calls of the initialisation
loop in order, and `_red_extension_type`. -/
structure ExtensionInit (hdr : ExtensionHeaders) where
  ret : Int
  calls : List (ExtensionInitCall hdr)
  extensionType : Nat → UInt32

variable (hdr : ExtensionHeaders) (hw : ExtensionHardware)

/-- `red_extension_read_ethernet_config(i2c_eeprom, ethernet_config)` after `reads` reads:
the MAC address from the EEPROM, or, on a short read, the default address written into
its first six bytes and `-1`. -/
def redExtensionReadEthernetConfig (e : I2CEEPROM) (reads : Nat)
    (config : ExtensionEthernetConfig hdr.ethernetMacSize) :
    Mem (EthernetConfigRead hdr.ethernetMacSize) :=
  if e.readFails reads then do
    let mac ← config.mac.write 0 0x40
    let mac ← mac.write 1 0xD8
    let mac ← mac.write 2 0x55
    let mac ← mac.write 3 0x02
    let mac ← mac.write 4 0xA1
    let mac ← mac.write 5 0x00
    pure ⟨-1, ⟨mac⟩, reads + 1⟩
  else
    pure ⟨0, ⟨⟨(List.range hdr.ethernetMacSize).map fun k =>
      e.content (extensionEepromEthernetMacAddress + k), by simp⟩⟩, reads + 1⟩

/-- One round of the probe loop for position `i`, whose `base_config[i]` holds `config`:
`none` for the `return -1` when `i2c_eeprom_init` fails, else `base_config[i]` after the
round. Both `continue` after a failed configuration read and the `break` out of the
`switch` go on to the next position with `base_config[i]` as it is. -/
def probeExtension (i : Nat) (config : ExtensionBaseConfig hdr) :
    Mem (Option (ExtensionBaseConfig hdr)) :=
  let config := { config with extension := i, type := extensionTypeNone }
  if hw.eepromInitOk i = false then pure none
  else
    match i2cEepromRead (hw.eeprom i) 0 extensionEepromTypeLocation extensionEepromTypeSize with
    | none => pure (some config)
    | some buf =>
      let config := { config with type := leWord buf }
      if config.type = extensionTypeNone then pure (some config)
      else if config.type ≠ extensionTypeEthernet ∧ config.type ≠ extensionTypeRs485 then
        pure (some config)
      else if config.type = extensionTypeRs485 then do
        let r ← redExtensionReadRs485Config hdr (hw.eeprom i) 1 config.rs485
        pure (some { config with rs485 := r.config })
      else do
        let r ← redExtensionReadEthernetConfig hdr (hw.eeprom i) 1 config.ethernet
        pure (some { config with ethernet := r.config })

/-- The probe loop over the positions `is`: `none` for its `return -1`, else
`base_config`. -/
def probeLoop : List Nat → (Nat → ExtensionBaseConfig hdr) →
    Mem (Option (Nat → ExtensionBaseConfig hdr))
  | [], baseConfig => pure (some baseConfig)
  | i :: is, baseConfig => do
    match ← probeExtension hdr hw i (baseConfig i) with
    | none => pure none
    | some config => probeLoop is (Function.update baseConfig i config)

/-- The initialisation loop over the positions `is`: the calls it makes and
`_red_extension_type` after it. -/
def initLoop (baseConfig : Nat → ExtensionBaseConfig hdr) :
    List Nat → (Nat → UInt32) → List (ExtensionInitCall hdr) × (Nat → UInt32)
  | [], extensionType => ([], extensionType)
  | i :: is, extensionType =>
    if (baseConfig i).type = extensionTypeRs485 then
      let rest := initLoop baseConfig is
        (if hw.rs485InitOk i then Function.update extensionType i extensionTypeRs485
          else extensionType)
      (.rs485 i (baseConfig i).rs485 :: rest.1, rest.2)
    else if (baseConfig i).type = extensionTypeEthernet then
      let rest := initLoop baseConfig is
        (if hw.ethernetInitOk i then Function.update extensionType i extensionTypeEthernet
          else extensionType)
      (.ethernet i (baseConfig i).ethernet :: rest.1, rest.2)
    else initLoop baseConfig is extensionType

/-- `red_extension_init()`, with `base_config` holding `baseConfig` before it and
`_red_extension_type` holding `extensionType`. -/
def redExtensionInit (baseConfig : Nat → ExtensionBaseConfig hdr) (extensionType : Nat → UInt32) :
    Mem (ExtensionInit hdr) := do
  match ← probeLoop hdr hw (List.range extensionNumMax) baseConfig with
  | none => pure ⟨-1, [], extensionType⟩
  | some baseConfig =>
    let r := initLoop hdr hw baseConfig (List.range extensionNumMax) extensionType
    pure ⟨0, r.1, r.2⟩

/-! ### Which extensions are started -/

/-- The type word the probe loop leaves in `base_config[i].type`: `EXTENSION_TYPE_NONE`
when the read comes back short, else the word at `EXTENSION_EEPROM_TYPE_LOCATION`. -/
def ExtensionHardware.typeRead (i : Nat) : UInt32 :=
  if (hw.eeprom i).readFails 0 then extensionTypeNone
  else (hw.eeprom i).word extensionEepromTypeLocation

theorem probeExtension_eq_none_iff (i : Nat) (config : ExtensionBaseConfig hdr) :
    (probeExtension hdr hw i config).val = none ↔ hw.eepromInitOk i = false := by
  unfold probeExtension i2cEepromRead
  cases hi : hw.eepromInitOk i
  · simp
  · cases hf : (hw.eeprom i).readFails 0
    · simp only [if_true, if_false, Bool.true_eq_false, Bool.false_eq_true]
      split_ifs <;> simp
    · simp

/-- Whatever the configuration read does, the round leaves the type word it read. -/
theorem probeExtension_type {i : Nat} {config c : ExtensionBaseConfig hdr}
    (h : (probeExtension hdr hw i config).val = some c) : c.type = hw.typeRead i := by
  unfold probeExtension i2cEepromRead at h
  unfold ExtensionHardware.typeRead
  cases hi : hw.eepromInitOk i
  · simp [hi] at h
  cases hf : (hw.eeprom i).readFails 0
  · simp only [hi, hf, if_true, if_false, Bool.true_eq_false, Bool.false_eq_true] at h ⊢
    split_ifs at h <;> simp only [Mem.val_pure, Mem.val_bind, Option.some.injEq] at h <;>
      rw [← h] <;> rfl
  · simp only [hi, hf, if_true, if_false, Bool.true_eq_false, Mem.val_pure, Option.some.injEq] at h ⊢
    rw [← h]

theorem probeLoop_eq_none_iff : ∀ (is : List Nat) (baseConfig : Nat → ExtensionBaseConfig hdr),
    (probeLoop hdr hw is baseConfig).val = none ↔ ∃ i ∈ is, hw.eepromInitOk i = false
  | [], _ => by simp [probeLoop]
  | i :: is, baseConfig => by
    simp only [probeLoop, Mem.val_bind, List.mem_cons, exists_eq_or_imp]
    cases hp : (probeExtension hdr hw i (baseConfig i)).val with
    | none => simp [(probeExtension_eq_none_iff hdr hw i (baseConfig i)).mp hp]
    | some c =>
      have hi : ¬ hw.eepromInitOk i = false := fun h =>
        absurd ((probeExtension_eq_none_iff hdr hw i (baseConfig i)).mpr h) (by simp [hp])
      simpa [hi] using probeLoop_eq_none_iff is _

theorem probeLoop_some : ∀ {is : List Nat} {baseConfig after : Nat → ExtensionBaseConfig hdr},
    (probeLoop hdr hw is baseConfig).val = some after →
      ∀ j, (j ∈ is → (after j).type = hw.typeRead j) ∧ (j ∉ is → after j = baseConfig j)
  | [], _, _, h, j => by simp_all [probeLoop]
  | i :: is, baseConfig, after, h, j => by
    simp only [probeLoop, Mem.val_bind] at h
    cases hp : (probeExtension hdr hw i (baseConfig i)).val with
    | none => simp [hp] at h
    | some c =>
      rw [hp] at h
      have ih := probeLoop_some h j
      by_cases hj : j ∈ is
      · simp [hj, ih.1 hj]
      · by_cases hji : j = i
        · subst hji
          simp [hj, ih.2 hj, probeExtension_type hdr hw hp]
        · simp [hj, hji, ih.2 hj]

theorem extensionTypeEthernet_ne_rs485 : extensionTypeEthernet ≠ extensionTypeRs485 := by decide

theorem mem_initLoop_rs485 (baseConfig : Nat → ExtensionBaseConfig hdr) (j : Nat)
    (config : ExtensionRS485Config hdr.rs485SlavesMax) :
    ∀ (is : List Nat) (extensionType : Nat → UInt32),
      ExtensionInitCall.rs485 j config ∈ (initLoop hdr hw baseConfig is extensionType).1 ↔
        j ∈ is ∧ (baseConfig j).type = extensionTypeRs485 ∧ config = (baseConfig j).rs485
  | [], _ => by simp [initLoop]
  | i :: is, extensionType => by
    have ih := mem_initLoop_rs485 baseConfig j config is
    by_cases h1 : (baseConfig i).type = extensionTypeRs485
    · simp only [initLoop, if_pos h1, List.mem_cons, ExtensionInitCall.rs485.injEq, ih]
      by_cases hji : j = i
      · subst hji
        simp [h1, eq_comm]
      · simp [hji]
    · by_cases hji : j = i
      · subst hji
        by_cases h2 : (baseConfig j).type = extensionTypeEthernet <;>
          simp [initLoop, h1, h2, ih, extensionTypeEthernet_ne_rs485]
      · by_cases h2 : (baseConfig i).type = extensionTypeEthernet <;>
          simp [initLoop, h1, h2, ih, hji, extensionTypeEthernet_ne_rs485]

theorem eepromInitOk_of_probeLoop {baseConfig after : Nat → ExtensionBaseConfig hdr}
    (hp : (probeLoop hdr hw (List.range extensionNumMax) baseConfig).val = some after) :
    ∀ i < extensionNumMax, hw.eepromInitOk i = true := fun i hi => by
  by_contra h
  have hnone := (probeLoop_eq_none_iff hdr hw _ baseConfig).mpr
    ⟨i, List.mem_range.mpr hi, by simpa using h⟩
  simp [hnone] at hp

/-- `red_extension_init` calls `red_rs485_extension_init` for position `j` exactly when
both EEPROMs could be opened and the type read of position `j` returned the word
`EXTENSION_TYPE_RS485`; whether `red_extension_read_rs485_config` succeeded plays no
part. -/
theorem rs485Init_called_iff (baseConfig : Nat → ExtensionBaseConfig hdr)
    (extensionType : Nat → UInt32) {j : Nat} (hj : j < extensionNumMax) :
    (∃ config, ExtensionInitCall.rs485 j config ∈
        (redExtensionInit hdr hw baseConfig extensionType).val.calls) ↔
      (∀ i < extensionNumMax, hw.eepromInitOk i = true) ∧ (hw.eeprom j).readFails 0 = false ∧
        (hw.eeprom j).word extensionEepromTypeLocation = extensionTypeRs485 := by
  simp only [redExtensionInit, Mem.val_bind]
  cases hp : (probeLoop hdr hw (List.range extensionNumMax) baseConfig).val with
  | none =>
    obtain ⟨i, hi, hf⟩ := (probeLoop_eq_none_iff hdr hw _ baseConfig).mp hp
    simp only [Mem.val_pure, List.not_mem_nil, exists_false, false_iff, not_and]
    exact fun h => absurd (h i (List.mem_range.mp hi)) (by simp [hf])
  | some after =>
    have hinit := eepromInitOk_of_probeLoop hdr hw hp
    have ht := (probeLoop_some hdr hw hp j).1 (List.mem_range.mpr hj)
    simp only [Mem.val_pure, mem_initLoop_rs485, List.mem_range, hj, true_and, ht,
      ExtensionHardware.typeRead, exists_eq_right, eq_true hinit, true_and]
    split_ifs with hf <;> simp [hf, extensionTypeNone, extensionTypeRs485]

/-! ### The whole of `red_extension_init` -/

/-- The position a call of the initialisation loop is for, and the extension type it
starts. -/
def ExtensionInitCall.target {h : ExtensionHeaders} : ExtensionInitCall h → Nat × UInt32
  | .rs485 i _ => (i, extensionTypeRs485)
  | .ethernet i _ => (i, extensionTypeEthernet)

/-- The initialisation loop starts, in the order of `is`, each position whose type is
RS485 or Ethernet, with the initialisation of that type. -/
theorem initLoop_targets (baseConfig : Nat → ExtensionBaseConfig hdr) :
    ∀ (is : List Nat) (extensionType : Nat → UInt32),
      (initLoop hdr hw baseConfig is extensionType).1.map ExtensionInitCall.target =
        (is.map fun i => (i, (baseConfig i).type)).filter fun t =>
          t.2 = extensionTypeRs485 ∨ t.2 = extensionTypeEthernet
  | [], _ => rfl
  | i :: is, extensionType => by
    have ih := initLoop_targets baseConfig is
    by_cases h1 : (baseConfig i).type = extensionTypeRs485
    · simp [initLoop, h1, ih, ExtensionInitCall.target, List.filter_cons]
    by_cases h2 : (baseConfig i).type = extensionTypeEthernet
    · simp [initLoop, h1, h2, ih, ExtensionInitCall.target, List.filter_cons,
        extensionTypeEthernet_ne_rs485]
    · simp [initLoop, h1, h2, ih, List.filter_cons]

/-- `_red_extension_type[j]` after the initialisation loop: the type of position `j` when
the loop started it and its initialisation succeeded, else what it held before. -/
theorem initLoop_extensionType (baseConfig : Nat → ExtensionBaseConfig hdr) :
    ∀ (is : List Nat) (extensionType : Nat → UInt32) (j : Nat),
      (initLoop hdr hw baseConfig is extensionType).2 j =
        if j ∈ is ∧ (baseConfig j).type = extensionTypeRs485 ∧ hw.rs485InitOk j then
          extensionTypeRs485
        else if j ∈ is ∧ (baseConfig j).type = extensionTypeEthernet ∧ hw.ethernetInitOk j then
          extensionTypeEthernet
        else extensionType j
  | [], _, _ => by simp [initLoop]
  | i :: is, extensionType, j => by
    have ih := initLoop_extensionType baseConfig is
    by_cases hji : j = i
    · subst hji
      unfold initLoop
      by_cases h1 : (baseConfig j).type = extensionTypeRs485
      · cases hok : hw.rs485InitOk j <;> simp [h1, ih, hok, extensionTypeEthernet_ne_rs485.symm]
      by_cases h2 : (baseConfig j).type = extensionTypeEthernet
      · cases hok : hw.ethernetInitOk j <;> simp [h1, h2, ih, hok, extensionTypeEthernet_ne_rs485]
      · simp [h1, h2, ih]
    · have hupd : ∀ (c : Bool) (v : UInt32),
          (if c then Function.update extensionType i v else extensionType) j = extensionType j :=
        fun c v => by cases c <;> simp [Function.update_noteq hji]
      unfold initLoop
      simp only [List.mem_cons, hji, false_or]
      by_cases h1 : (baseConfig i).type = extensionTypeRs485
      · simp only [if_pos h1, ih, hupd]
      by_cases h2 : (baseConfig i).type = extensionTypeEthernet
      · simp only [if_neg h1, if_pos h2, ih, hupd]
      · simp only [if_neg h1, if_neg h2, ih]

/-- `red_extension_init` on every answer of the two extensions. It returns `-1` and
starts nothing when an EEPROM cannot be opened. Otherwise it returns `0`, starts in
position order every extension whose type read returned `EXTENSION_TYPE_RS485` or
`EXTENSION_TYPE_ETHERNET`, with the initialisation of that type, and records the type in
`_red_extension_type` exactly for those whose initialisation succeeded. -/
theorem redExtensionInit_spec (baseConfig : Nat → ExtensionBaseConfig hdr)
    (extensionType : Nat → UInt32) :
    (redExtensionInit hdr hw baseConfig extensionType).val.ret =
        (if ∀ i < extensionNumMax, hw.eepromInitOk i = true then 0 else -1) ∧
      (redExtensionInit hdr hw baseConfig extensionType).val.calls.map ExtensionInitCall.target =
        (if ∀ i < extensionNumMax, hw.eepromInitOk i = true then
          ((List.range extensionNumMax).map fun i => (i, hw.typeRead i)).filter fun t =>
            t.2 = extensionTypeRs485 ∨ t.2 = extensionTypeEthernet
        else []) ∧
      ∀ j, (redExtensionInit hdr hw baseConfig extensionType).val.extensionType j =
        if (∀ i < extensionNumMax, hw.eepromInitOk i = true) ∧ j < extensionNumMax ∧
            hw.typeRead j = extensionTypeRs485 ∧ hw.rs485InitOk j then extensionTypeRs485
        else if (∀ i < extensionNumMax, hw.eepromInitOk i = true) ∧ j < extensionNumMax ∧
            hw.typeRead j = extensionTypeEthernet ∧ hw.ethernetInitOk j then extensionTypeEthernet
        else extensionType j := by
  simp only [redExtensionInit, Mem.val_bind]
  cases hp : (probeLoop hdr hw (List.range extensionNumMax) baseConfig).val with
  | none =>
    obtain ⟨i, hi, hf⟩ := (probeLoop_eq_none_iff hdr hw _ baseConfig).mp hp
    have hall : ¬ ∀ i < extensionNumMax, hw.eepromInitOk i = true :=
      fun h => absurd (h i (List.mem_range.mp hi)) (by simp [hf])
    simp [hall]
  | some after =>
    have hall := eepromInitOk_of_probeLoop hdr hw hp
    have ht : ∀ j < extensionNumMax, (after j).type = hw.typeRead j :=
      fun j hj => (probeLoop_some hdr hw hp j).1 (List.mem_range.mpr hj)
    refine ⟨by rw [if_pos hall]; rfl, ?_, fun j => ?_⟩
    · rw [if_pos hall, Mem.val_pure, initLoop_targets]
      congr 1
      exact List.map_congr_left fun i hi => by rw [ht i (List.mem_range.mp hi)]
    · simp only [Mem.val_pure, eq_true hall, true_and]
      rw [initLoop_extensionType]
      by_cases hj : j < extensionNumMax
      · simp [hj, ht j hj]
      · simp [hj]

/-- Two extensions whose EEPROMs answer every read: position 0 holds the type word
`EXTENSION_TYPE_RS485` and zeros elsewhere, so its configured baudrate is 0; position 1
is blank. -/
def blankRs485Hardware : ExtensionHardware where
  eepromInitOk _ := true
  eeprom i := ⟨fun a => if i = 0 ∧ a = 0 then 2 else 0, fun _ => false⟩
  rs485InitOk _ := true
  ethernetInitOk _ := true

/-- At position 0 of `blankRs485Hardware` the configuration read returns `-1` (the
baudrate is below 8), and `red_extension_init` still calls `red_rs485_extension_init`
for it: the probe loop's `continue` leaves `base_config[0].type` at
`EXTENSION_TYPE_RS485`. -/
theorem rs485Init_called_after_failed_config (baseConfig : Nat → ExtensionBaseConfig hdr)
    (extensionType : Nat → UInt32) :
    (∀ config, (redExtensionReadRs485Config hdr (blankRs485Hardware.eeprom 0) 1 config).val.ret = -1) ∧
      ∃ config, ExtensionInitCall.rs485 0 config ∈
        (redExtensionInit hdr blankRs485Hardware baseConfig extensionType).val.calls :=
  ⟨fun _ => rfl,
    (rs485Init_called_iff hdr blankRs485Hardware baseConfig extensionType (by decide)).mpr
      ⟨fun _ _ => rfl, rfl, by decide⟩⟩

/-! ### The configuration the Ethernet extension is started with -/

theorem extensionTypeNone_ne_rs485 : extensionTypeNone ≠ extensionTypeRs485 := by decide

theorem extensionTypeNone_ne_ethernet : extensionTypeNone ≠ extensionTypeEthernet := by decide

/-- The address `red_extension_read_ethernet_config` writes into the first six bytes of
the MAC when its read comes back short. -/
def defaultMac : List UInt8 := [0x40, 0xD8, 0x55, 0x02, 0xA1, 0x00]

/-- `red_extension_read_ethernet_config` leaves the `EXTENSION_ETHERNET_MAC_SIZE` bytes at
`EXTENSION_EEPROM_ETHERNET_MAC_ADDRESS` when the read succeeds, and otherwise the default
address in the first six bytes and the rest as it was. -/
theorem redExtensionReadEthernetConfig_mac (e : I2CEEPROM) (reads : Nat)
    (config : ExtensionEthernetConfig hdr.ethernetMacSize) {k : Nat} (hk : k < hdr.ethernetMacSize) :
    (redExtensionReadEthernetConfig hdr e reads config).val.config.mac.get k =
      if e.readFails reads then defaultMac.getD k (config.mac.get k)
      else e.content (extensionEepromEthernetMacAddress + k) := by
  unfold redExtensionReadEthernetConfig
  cases e.readFails reads
  · simp [Buf.get, hk]
  · simp only [Mem.val_bind, Buf.val_write, Mem.val_pure, if_true, Buf.get_set, hk, and_true]
    -- the six bytes written, then the ones after them
    rcases k with _ | _ | _ | _ | _ | _ | k
    any_goals rfl

/-- The call the initialisation loop makes for position `i` when `base_config[i]` holds
`config`, if it makes one. -/
def ExtensionBaseConfig.initCall (config : ExtensionBaseConfig hdr) (i : Nat) :
    Option (ExtensionInitCall hdr) :=
  if config.type = extensionTypeRs485 then some (.rs485 i config.rs485)
  else if config.type = extensionTypeEthernet then some (.ethernet i config.ethernet)
  else none

theorem initCall_eq_ethernet {config : ExtensionBaseConfig hdr} {i j : Nat}
    {c : ExtensionEthernetConfig hdr.ethernetMacSize} :
    config.initCall hdr i = some (.ethernet j c) ↔
      i = j ∧ config.type = extensionTypeEthernet ∧ c = config.ethernet := by
  unfold ExtensionBaseConfig.initCall
  by_cases h1 : config.type = extensionTypeRs485
  · simp [h1, extensionTypeEthernet_ne_rs485.symm]
  by_cases h2 : config.type = extensionTypeEthernet <;>
    simp [h1, h2, eq_comm, extensionTypeEthernet_ne_rs485]

/-- The initialisation loop makes, in the order of `is`, the call of each position. -/
theorem initLoop_calls (baseConfig : Nat → ExtensionBaseConfig hdr) :
    ∀ (is : List Nat) (extensionType : Nat → UInt32),
      (initLoop hdr hw baseConfig is extensionType).1 = is.filterMap fun i => (baseConfig i).initCall hdr i
  | [], _ => rfl
  | i :: is, extensionType => by
    have ih := initLoop_calls baseConfig is
    rw [List.filterMap_cons]
    by_cases h1 : (baseConfig i).type = extensionTypeRs485
    · simp [initLoop, ExtensionBaseConfig.initCall, h1, ih]
    by_cases h2 : (baseConfig i).type = extensionTypeEthernet
    · simp [initLoop, ExtensionBaseConfig.initCall, h1, h2, ih, extensionTypeEthernet_ne_rs485]
    · simp [initLoop, ExtensionBaseConfig.initCall, h1, h2, ih]

/-- A round of the probe loop that leaves an Ethernet type leaves the configuration
`red_extension_read_ethernet_config` read, whatever it returned. -/
theorem probeExtension_ethernet {i : Nat} {config c : ExtensionBaseConfig hdr}
    (h : (probeExtension hdr hw i config).val = some c) (ht : c.type = extensionTypeEthernet) :
    c.ethernet = (redExtensionReadEthernetConfig hdr (hw.eeprom i) 1 config.ethernet).val.config := by
  unfold probeExtension i2cEepromRead at h
  cases hi : hw.eepromInitOk i
  · simp [hi] at h
  cases hf : (hw.eeprom i).readFails 0
  · simp only [hi, hf, if_true, if_false, Bool.true_eq_false, Bool.false_eq_true] at h
    split_ifs at h with h1 h2 h3 <;> simp only [Mem.val_pure, Mem.val_bind, Option.some.injEq] at h <;>
      subst h
    · exact absurd (h1.symm.trans ht) extensionTypeNone_ne_ethernet
    · exact absurd ht h2.1
    · exact absurd (ht.symm.trans h3) extensionTypeEthernet_ne_rs485
    · rfl
  · simp only [hi, hf, if_true, if_false, Bool.true_eq_false, Mem.val_pure, Option.some.injEq] at h
    subst h
    exact absurd ht extensionTypeNone_ne_ethernet

/-- Each position's entry after the probe loop is the result of its own round. -/
theorem probeLoop_some_eq : ∀ {is : List Nat} {baseConfig after : Nat → ExtensionBaseConfig hdr},
    is.Nodup → (probeLoop hdr hw is baseConfig).val = some after →
      ∀ j ∈ is, (probeExtension hdr hw j (baseConfig j)).val = some (after j)
  | [], _, _, _, _, j, hj => absurd hj (List.not_mem_nil _)
  | i :: is, baseConfig, after, hnd, h, j, hj => by
    obtain ⟨hi, hnd⟩ := List.nodup_cons.mp hnd
    simp only [probeLoop, Mem.val_bind] at h
    cases hp : (probeExtension hdr hw i (baseConfig i)).val with
    | none => simp [hp] at h
    | some c =>
      rw [hp] at h
      rcases List.mem_cons.mp hj with rfl | hj
      · rw [hp, (probeLoop_some hdr hw h j).2 hi, Function.update_same]
      · have := probeLoop_some_eq hnd h j hj
        rwa [Function.update_noteq fun h : j = i => hi (h ▸ hj)] at this

/-- `red_extension_init` calls `red_ethernet_extension_init` for position `j` exactly when
both EEPROMs open and the type read of position `j` returned `EXTENSION_TYPE_ETHERNET`,
and it passes the MAC address at `EXTENSION_EEPROM_ETHERNET_MAC_ADDRESS` when its read
succeeds, else the default address `red_extension_read_ethernet_config` wrote over the
first six bytes: the probe loop's "ignoring extension" after the failed read leaves
`base_config[j].type` at `EXTENSION_TYPE_ETHERNET`. -/
theorem ethernetInit_config (baseConfig : Nat → ExtensionBaseConfig hdr)
    (extensionType : Nat → UInt32) {j : Nat} (hj : j < extensionNumMax) :
    ((∃ config, ExtensionInitCall.ethernet j config ∈
        (redExtensionInit hdr hw baseConfig extensionType).val.calls) ↔
      (∀ i < extensionNumMax, hw.eepromInitOk i = true) ∧ hw.typeRead j = extensionTypeEthernet) ∧
    ∀ config, ExtensionInitCall.ethernet j config ∈ (redExtensionInit hdr hw baseConfig extensionType).val.calls →
      ∀ k < hdr.ethernetMacSize, config.mac.get k =
        if (hw.eeprom j).readFails 1 then defaultMac.getD k ((baseConfig j).ethernet.mac.get k)
        else (hw.eeprom j).content (extensionEepromEthernetMacAddress + k) := by
  simp only [redExtensionInit, Mem.val_bind]
  cases hp : (probeLoop hdr hw (List.range extensionNumMax) baseConfig).val with
  | none =>
    obtain ⟨i, hi, hf⟩ := (probeLoop_eq_none_iff hdr hw _ baseConfig).mp hp
    refine ⟨?_, fun _ h => absurd h (List.not_mem_nil _)⟩
    simp only [Mem.val_pure, List.not_mem_nil, exists_false, false_iff, not_and]
    exact fun h => absurd (h i (List.mem_range.mp hi)) (by simp [hf])
  | some after =>
    have hprobe := probeLoop_some_eq hdr hw (List.nodup_range _) hp j (List.mem_range.mpr hj)
    have hmem : ∀ config, ExtensionInitCall.ethernet j config ∈
        (initLoop hdr hw after (List.range extensionNumMax) extensionType).1 ↔
          (after j).type = extensionTypeEthernet ∧ config = (after j).ethernet := fun config => by
      simp only [initLoop_calls, List.mem_filterMap, List.mem_range, initCall_eq_ethernet]
      exact ⟨fun ⟨_, _, rfl, h⟩ => h, fun h => ⟨j, hj, rfl, h⟩⟩
    simp only [Mem.val_pure, hmem, exists_eq_right, eq_true (eepromInitOk_of_probeLoop hdr hw hp),
      true_and, probeExtension_type hdr hw hprobe]
    rintro _ ⟨ht, rfl⟩ k hk
    rw [probeExtension_ethernet hdr hw hprobe ((probeExtension_type hdr hw hprobe).trans ht),
      redExtensionReadEthernetConfig_mac hdr _ _ _ hk]

/-- Zeroed `base_config` entries for the headers `hdr`: type `EXTENSION_TYPE_NONE`, no
slave addresses, an all-zero MAC address. -/
def zeroBaseConfig (i : Nat) : ExtensionBaseConfig hdr :=
  ⟨i, extensionTypeNone,
    ⟨0, 0, List.replicate hdr.rs485SlavesMax 0, List.length_replicate _ _, 0, 0, 0⟩,
    ⟨Buf.zero hdr.ethernetMacSize⟩⟩

/-- The headers with `EXTENSION_RS485_SLAVES_MAX` 32, the parity codes of `'n'`, `'e'`
and `'o'`, and a six-byte MAC address. -/
def exampleHeaders : ExtensionHeaders := ⟨32, 110, 101, 111, 6⟩

/-- Two extensions whose EEPROMs open: position 0 holds the type word
`EXTENSION_TYPE_ETHERNET`, and the second read of its EEPROM, the one of the MAC address,
comes back short; position 1 is blank. -/
def noMacEthernetHardware : ExtensionHardware where
  eepromInitOk _ := true
  eeprom i := ⟨fun a => if i = 0 ∧ a = 0 then 4 else 0, fun n => decide (i = 0 ∧ n = 1)⟩
  rs485InitOk _ := true
  ethernetInitOk _ := true

/-- The Ethernet extension of `noMacEthernetHardware` is started with the default MAC
address. -/
theorem ethernetInit_default_mac :
    ∃ config, ExtensionInitCall.ethernet 0 config ∈ (redExtensionInit exampleHeaders
        noMacEthernetHardware (zeroBaseConfig exampleHeaders) fun _ => extensionTypeNone).val.calls ∧
      ∀ k < exampleHeaders.ethernetMacSize, config.mac.get k = defaultMac.getD k 0 := by
  obtain ⟨hcall, hmac⟩ := ethernetInit_config exampleHeaders noMacEthernetHardware
    (zeroBaseConfig exampleHeaders) (fun _ => extensionTypeNone) (show 0 < extensionNumMax by decide)
  obtain ⟨config, hc⟩ := hcall.mpr ⟨fun _ _ => rfl, by decide⟩
  refine ⟨config, hc, fun k hk => ?_⟩
  rw [hmac config hc k hk]
  simp [noMacEthernetHardware, zeroBaseConfig]

end Brickd.RedExtension
