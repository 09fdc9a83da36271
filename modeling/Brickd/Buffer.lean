import Mathlib.Data.List.GetD
import Mathlib.Data.List.Range

/-!
C byte arrays of fixed size, as the SPI code of the RED Brick declares them:
`uint8_t tx[84]`, `rx[84]` and the 80-byte `Packet`. An access outside its array
is undefined in C. The accessors below still give a value (zero for a read, the
array unchanged for a write) and raise the `outside` flag of their `Mem`
computation, so a model written with them states of every input whether the
code stays inside its arrays.
-/
namespace Brickd

/-- A computation on C arrays: its value, and whether one of its accesses fell
outside its array. -/
structure Mem (α : Type) where
  val : α
  outside : Bool

namespace Mem

instance : Monad Mem where
  pure a := ⟨a, false⟩
  bind m f := ⟨(f m.val).val, m.outside || (f m.val).outside⟩

variable {α β : Type}

@[simp] theorem val_pure (a : α) : (pure a : Mem α).val = a := rfl

@[simp] theorem outside_pure (a : α) : (pure a : Mem α).outside = false := rfl

@[simp] theorem val_bind (m : Mem α) (f : α → Mem β) : (m >>= f).val = (f m.val).val := rfl

@[simp] theorem outside_bind (m : Mem α) (f : α → Mem β) :
    (m >>= f).outside = (m.outside || (f m.val).outside) := rfl

@[simp] theorem val_ite (c : Prop) [Decidable c] (a b : Mem α) :
    (if c then a else b).val = if c then a.val else b.val := apply_ite val c a b

@[simp] theorem outside_ite (c : Prop) [Decidable c] (a b : Mem α) :
    (if c then a else b).outside = if c then a.outside else b.outside := apply_ite outside c a b

theorem eq_mk_iff (m : Mem α) (a : α) (b : Bool) : m = ⟨a, b⟩ ↔ m.val = a ∧ m.outside = b := by
  cases m
  simp

@[simp] theorem val_mk (a : α) (b : Bool) : (Mem.mk a b).val = a := rfl

@[simp] theorem outside_mk (a : α) (b : Bool) : (Mem.mk a b).outside = b := rfl

end Mem

/-- A C array of `n` bytes. -/
structure Buf (n : Nat) where
  bytes : List UInt8
  length_eq : bytes.length = n
  deriving DecidableEq

namespace Buf

variable {n m : Nat}

/-- The array `= {0}`. -/
def zero (n : Nat) : Buf n := ⟨List.replicate n 0, List.length_replicate n 0⟩

/-- Byte `i`, zero past the end. -/
def get (b : Buf n) (i : Nat) : UInt8 := b.bytes.getD i 0

/-- `b[i] = v`; past the end the array is unchanged. -/
def set (b : Buf n) (i : Nat) (v : UInt8) : Buf n :=
  ⟨b.bytes.set i v, by rw [List.length_set, b.length_eq]⟩

/-- The bytes `b[off .. off + len)`. -/
def slice (b : Buf n) (off len : Nat) : List UInt8 :=
  (List.range len).map fun i => b.get (off + i)

/-- The read `b[i]`. -/
def read (b : Buf n) (i : Nat) : Mem UInt8 := ⟨b.get i, n ≤ i⟩

/-- The write `b[i] = v`. -/
def write (b : Buf n) (i : Nat) (v : UInt8) : Mem (Buf n) := ⟨b.set i v, n ≤ i⟩

/-- `memcpy(dst + off, src + srcOff, len)`: byte `off + k` of `dst` becomes byte
`srcOff + k` of `src` for `k < len`, as far as `dst` reaches. -/
def copy (dst : Buf n) (off : Nat) (src : Buf m) (srcOff len : Nat) : Mem (Buf n) :=
  ⟨⟨(List.range n).map (fun i => if off ≤ i ∧ i < off + len then src.get (srcOff + (i - off))
      else dst.get i), by simp⟩, n < off + len || m < srcOff + len⟩

@[simp] theorem get_zero (i : Nat) : (zero n).get i = 0 := by
  simp only [zero, get, List.getD_eq_getElem?_getD, List.getElem?_replicate]
  split <;> rfl

theorem get_set (b : Buf n) (i j : Nat) (v : UInt8) :
    (b.set i v).get j = if i = j ∧ j < n then v else b.get j := by
  simp only [set, get, List.getD_eq_getElem?_getD, List.getElem?_set, b.length_eq]
  by_cases hij : i = j
  · subst hij
    by_cases hi : i < n
    · simp [hi]
    · simp [hi, List.getElem?_eq_none (b.length_eq ▸ Nat.le_of_not_lt hi)]
  · simp [hij]

@[simp] theorem get_set_self (b : Buf n) {i : Nat} (v : UInt8) (h : i < n) :
    (b.set i v).get i = v := by simp [get_set, h]

@[simp] theorem get_set_ne (b : Buf n) {i j : Nat} (v : UInt8) (h : i ≠ j) :
    (b.set i v).get j = b.get j := by simp [get_set, h]

theorem get_copy (dst : Buf n) (off : Nat) (src : Buf m) (srcOff len i : Nat) (hi : i < n) :
    (dst.copy off src srcOff len).val.get i =
      if off ≤ i ∧ i < off + len then src.get (srcOff + (i - off)) else dst.get i := by
  simp [copy, get, List.getD_eq_getElem?_getD, hi]

@[simp] theorem outside_read (b : Buf n) (i : Nat) : (b.read i).outside = decide (n ≤ i) := rfl

@[simp] theorem val_read (b : Buf n) (i : Nat) : (b.read i).val = b.get i := rfl

@[simp] theorem outside_write (b : Buf n) (i : Nat) (v : UInt8) :
    (b.write i v).outside = decide (n ≤ i) := rfl

@[simp] theorem val_write (b : Buf n) (i : Nat) (v : UInt8) : (b.write i v).val = b.set i v := rfl

@[simp] theorem outside_copy (dst : Buf n) (off : Nat) (src : Buf m) (srcOff len : Nat) :
    (dst.copy off src srcOff len).outside = (decide (n < off + len) || decide (m < srcOff + len)) :=
  rfl

@[simp] theorem length_slice (b : Buf n) (off len : Nat) : (b.slice off len).length = len := by
  simp [slice]

theorem getElem?_slice (b : Buf n) (off len i : Nat) :
    (b.slice off len)[i]? = if i < len then some (b.get (off + i)) else none := by
  by_cases h : i < len
  · simp [slice, h]
  · simp [slice, h, Nat.le_of_not_lt h]

theorem slice_congr {a : Buf n} {b : Buf m} {off off' len : Nat}
    (h : ∀ k < len, a.get (off + k) = b.get (off' + k)) : a.slice off len = b.slice off' len :=
  List.map_congr_left fun k hk => h k (List.mem_range.mp hk)

end Buf

theorem uint8_toNat_add (a b : UInt8) : (a + b).toNat = (a.toNat + b.toNat) % 256 := by
  rw [UInt8.add_def]
  simp [UInt8.toNat, BitVec.toNat_add]

/-- The little-endian 32-bit word at bytes `off .. off + 3`, the way the RED Brick's
ARM core reads a `uint32_t` field. -/
def Buf.word32 {n : Nat} (b : Buf n) (off : Nat) : UInt32 :=
  (b.get off).toUInt32 ||| ((b.get (off + 1)).toUInt32 <<< 8) |||
    ((b.get (off + 2)).toUInt32 <<< 16) ||| ((b.get (off + 3)).toUInt32 <<< 24)

end Brickd
