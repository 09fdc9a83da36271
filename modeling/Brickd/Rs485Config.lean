import Brickd.Buffer

/-!
The RS485 configuration an extension keeps in its EEPROM, as
`red_extension_read_rs485_config` reads it: the address, the baud rate, the parity, the
stop bits and, for a master, the zero-terminated list of slave addresses. Every read
can come back short, and the function then returns `-1` at once. The constants of the
headers `red_extension.h` and `red_rs485_extension.h`, which are not under src/, are
parameters, so every result holds whatever their values.
-/
namespace Brickd.RedExtension

/-- `EXTENSION_EEPROM_RS485_ADDRESS_LOCATION`. -/
def extensionEepromRs485AddressLocation : Nat := 4

/-- `EXTENSION_EEPROM_RS485_SLAVE_ADDRESSES_START_LOCATION`. -/
def extensionEepromRs485SlaveAddressesStartLocation : Nat := 100

/-- `EXTENSION_EEPROM_RS485_BAUDRATE_LOCATION`. -/
def extensionEepromRs485BaudrateLocation : Nat := 400

/-- `EXTENSION_EEPROM_RS485_PARTIY_LOCATION`. -/
def extensionEepromRs485PartiyLocation : Nat := 404

/-- `EXTENSION_EEPROM_RS485_STOPBITS_LOCATION`. -/
def extensionEepromRs485StopbitsLocation : Nat := 405

/-- The constants the code takes from `red_extension.h` and `red_rs485_extension.h`:
`EXTENSION_RS485_SLAVES_MAX`, the three `RS485_EXTENSION_SERIAL_PARITY_*` codes and
`EXTENSION_ETHERNET_MAC_SIZE`. -/
structure ExtensionHeaders where
  rs485SlavesMax : Nat
  serialParityNone : UInt8
  serialParityEven : UInt8
  serialParityOdd : UInt8
  ethernetMacSize : Nat

/-- An I²C EEPROM behind `i2c_eeprom_read`: its bytes, and which of the reads since
`i2c_eeprom_init` come back short, by their order. -/
structure I2CEEPROM where
  content : Nat → UInt8
  readFails : Nat → Bool

/-- `i2c_eeprom_read(i2c_eeprom, location, buf, length)` as the read numbered `reads`:
`none` when it comes back short, else the `length` bytes from `location` on. -/
def i2cEepromRead (e : I2CEEPROM) (reads location length : Nat) : Option (List UInt8) :=
  if e.readFails reads then none else some ((List.range length).map fun k => e.content (location + k))

/-- `(buf[0] << 0) | (buf[1] << 8) | (buf[2] << 16) | (buf[3] << 24)`, stored in a
32-bit field. -/
def leWord (buf : List UInt8) : UInt32 :=
  (buf.getD 0 0).toUInt32 ||| ((buf.getD 1 0).toUInt32 <<< 8) |||
    ((buf.getD 2 0).toUInt32 <<< 16) ||| ((buf.getD 3 0).toUInt32 <<< 24)

/-- The little-endian word of the EEPROM at `location`. -/
def I2CEEPROM.word (e : I2CEEPROM) (location : Nat) : UInt32 :=
  leWord ((List.range 4).map fun k => e.content (location + k))

/-- `ExtensionRS485Config`, with the fields `red_extension_read_rs485_config` writes;
`slave_address` has `EXTENSION_RS485_SLAVES_MAX` entries. -/
structure ExtensionRS485Config (slavesMax : Nat) where
  address : UInt32
  slaveNum : Nat
  slaveAddress : List UInt32
  slaveAddress_length : slaveAddress.length = slavesMax
  baudrate : UInt32
  parity : UInt8
  stopbits : UInt8

/-- `rs485_config->slave_address[i] = v`, which falls outside the array from
`EXTENSION_RS485_SLAVES_MAX` on. -/
def ExtensionRS485Config.setSlaveAddress {m : Nat} (config : ExtensionRS485Config m) (i : Nat)
    (v : UInt32) : Mem (ExtensionRS485Config m) :=
  ⟨{ config with
      slaveAddress := config.slaveAddress.set i v
      slaveAddress_length := by rw [List.length_set, config.slaveAddress_length] },
    decide (m ≤ i)⟩

/-- What `red_extension_read_rs485_config` leaves: its return value, `*rs485_config`, and
the number of EEPROM reads issued so far. -/
structure Rs485ConfigRead (m : Nat) where
  ret : Int
  config : ExtensionRS485Config m
  reads : Nat

/-- `if(i2c_eeprom_read(i2c_eeprom, location, buf, length) < length) return -1;` with
`*rs485_config` as `config`, followed by the rest `k` of the function on the bytes read. -/
def readOrFail {m : Nat} (e : I2CEEPROM) (reads location length : Nat)
    (config : ExtensionRS485Config m) (k : List UInt8 → Nat → Mem (Rs485ConfigRead m)) :
    Mem (Rs485ConfigRead m) :=
  match i2cEepromRead e reads location length with
  | none => pure ⟨-1, config, reads + 1⟩
  | some buf => k buf (reads + 1)

variable (hdr : ExtensionHeaders)

/-- The parity the code stores for the byte at `EXTENSION_EEPROM_RS485_PARTIY_LOCATION`. -/
def ExtensionHeaders.parityOf (b : UInt8) : UInt8 :=
  if b = hdr.serialParityNone then hdr.serialParityNone
  else if b = hdr.serialParityEven then hdr.serialParityEven
  else hdr.serialParityOdd

/-- The loop `while(rs485_config->slave_num < EXTENSION_RS485_SLAVES_MAX)` over the slave
addresses from the `uint16_t` location `location` on, with `fuel` rounds left. -/
def slaveAddressLoop (e : I2CEEPROM) : Nat → UInt16 → Nat → ExtensionRS485Config hdr.rs485SlavesMax →
    Mem (Rs485ConfigRead hdr.rs485SlavesMax)
  | 0, _, reads, config => pure ⟨0, config, reads⟩
  | fuel + 1, location, reads, config =>
    if config.slaveNum < hdr.rs485SlavesMax then
      readOrFail e reads location.toNat 4 config fun buf reads =>
        if leWord buf = 0 then pure ⟨0, config, reads⟩
        else do
          let config ← config.setSlaveAddress config.slaveNum (leWord buf)
          slaveAddressLoop e fuel (location + 4) reads { config with slaveNum := config.slaveNum + 1 }
    else pure ⟨0, config, reads⟩

/-- `red_extension_read_rs485_config(i2c_eeprom, rs485_config)`, after `reads` reads of
the EEPROM. -/
def redExtensionReadRs485Config (e : I2CEEPROM) (reads : Nat)
    (config : ExtensionRS485Config hdr.rs485SlavesMax) : Mem (Rs485ConfigRead hdr.rs485SlavesMax) :=
  readOrFail e reads extensionEepromRs485AddressLocation 4 config fun buf reads =>
  let config := { config with address := leWord buf }
  readOrFail e reads extensionEepromRs485BaudrateLocation 4 config fun buf reads =>
  let config := { config with baudrate := leWord buf }
  if config.baudrate < 8 then pure ⟨-1, config, reads⟩
  else
    readOrFail e reads extensionEepromRs485PartiyLocation 1 config fun buf reads =>
    let config := { config with parity := hdr.parityOf (buf.getD 0 0) }
    readOrFail e reads extensionEepromRs485StopbitsLocation 1 config fun buf reads =>
    let config := { config with stopbits := buf.getD 0 0 }
    if config.address = 0 then
      slaveAddressLoop hdr e hdr.rs485SlavesMax
        extensionEepromRs485SlaveAddressesStartLocation.toUInt16 reads { config with slaveNum := 0 }
    else pure ⟨-1, config, reads⟩

/-! ### What the function computes -/

end Brickd.RedExtension
