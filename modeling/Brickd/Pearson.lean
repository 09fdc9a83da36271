import Brickd.Buffer
import Mathlib.Data.List.Nodup
import Mathlib.Algebra.Group.Nat.Basic

/-!
The checksum of the SPI frames: an 8-bit Pearson hash with the permutation table of
Pearson's CACM paper, which `red_stack.c` embeds. `pearsonHash` is Pearson's hash of a
byte string over that table, stated with its own step; `pearsonStep` is the code's
`PEARSON` macro and `spiCalculatePearsonHash` the C loop over a byte array, with its
reads. The loop computes `pearsonHash` on every prefix of the array, and reads only
inside it.

The table is a permutation of the 256 byte values, so each step of the hash is
injective in the running checksum and in the next byte; two strings of one length that
differ in exactly one byte therefore hash differently.
-/
namespace Brickd.RedStack

/-- `_red_stack_spi_pearson_permutation`. -/
def spiPearsonPermutation : List UInt8 :=
  [1, 87, 49, 12, 176, 178, 102, 166, 121, 193, 6, 84, 249, 230, 44, 163,
   14, 197, 213, 181, 161, 85, 218, 80, 64, 239, 24, 226, 236, 142, 38, 200,
   110, 177, 104, 103, 141, 253, 255, 50, 77, 101, 81, 18, 45, 96, 31, 222,
   25, 107, 190, 70, 86, 237, 240, 34, 72, 242, 20, 214, 244, 227, 149, 235,
   97, 234, 57, 22, 60, 250, 82, 175, 208, 5, 127, 199, 111, 62, 135, 248,
   174, 169, 211, 58, 66, 154, 106, 195, 245, 171, 17, 187, 182, 179, 0, 243,
   132, 56, 148, 75, 128, 133, 158, 100, 130, 126, 91, 13, 153, 246, 216, 219,
   119, 68, 223, 78, 83, 88, 201, 99, 122, 11, 92, 32, 136, 114, 52, 10,
   138, 30, 48, 183, 156, 35, 61, 26, 143, 74, 251, 94, 129, 162, 63, 152,
   170, 7, 115, 167, 241, 206, 3, 150, 55, 59, 151, 220, 90, 53, 23, 131,
   125, 173, 15, 238, 79, 95, 89, 16, 105, 137, 225, 224, 217, 160, 37, 123,
   118, 73, 2, 157, 46, 116, 9, 145, 134, 228, 207, 212, 202, 215, 69, 229,
   27, 188, 67, 124, 168, 252, 42, 4, 29, 108, 21, 247, 19, 205, 39, 203,
   233, 40, 186, 147, 198, 192, 155, 33, 164, 191, 98, 204, 165, 180, 117, 76,
   140, 36, 210, 172, 41, 54, 159, 8, 185, 232, 113, 196, 231, 47, 146, 120,
   51, 65, 28, 144, 254, 221, 93, 189, 194, 139, 112, 43, 71, 109, 184, 209]

set_option maxRecDepth 2000 in
theorem length_spiPearsonPermutation : spiPearsonPermutation.length = 256 := rfl

/-- Pearson's hash of a byte string over the table `T`: it starts at 0, and each byte `c`
replaces the hash `h` by `T[h xor c]`. -/
def pearsonHash (bytes : List UInt8) : UInt8 :=
  bytes.foldl (fun h c => spiPearsonPermutation.get
    ⟨(h ^^^ c).toNat, length_spiPearsonPermutation ▸ UInt8.toNat_lt_size _⟩) 0

/-- `PEARSON(cur, next)`: one byte into the running checksum. -/
def pearsonStep (checksum next : UInt8) : UInt8 :=
  spiPearsonPermutation.getD (checksum ^^^ next).toNat 0

/-- The code's checksum over a byte string is Pearson's hash: `PEARSON` never reads
past the table. -/
theorem pearsonHash_eq_foldl (bytes : List UInt8) : pearsonHash bytes = bytes.foldl pearsonStep 0 := by
  unfold pearsonHash pearsonStep
  congr
  funext h c
  rw [List.getD_eq_getElem, List.get_eq_getElem]

variable {n : Nat}

/-- The body of the checksum loop over the indices `is`, starting from `checksum`. -/
def pearsonLoop (data : Buf n) (checksum : UInt8) : List Nat → Mem UInt8
  | [] => pure checksum
  | i :: is => do
    let next ← data.read i
    pearsonLoop data (pearsonStep checksum next) is

/-- `red_stack_spi_calculate_pearson_hash(data, length)`. -/
def spiCalculatePearsonHash (data : Buf n) (length : Nat) : Mem UInt8 :=
  pearsonLoop data 0 (List.range length)

theorem pearsonLoop_val (data : Buf n) (is : List Nat) (checksum : UInt8) :
    (pearsonLoop data checksum is).val = (is.map data.get).foldl pearsonStep checksum := by
  induction is generalizing checksum with
  | nil => rfl
  | cons i is ih => simp [pearsonLoop, ih]

theorem pearsonLoop_outside (data : Buf n) (is : List Nat) (checksum : UInt8) :
    (pearsonLoop data checksum is).outside = is.any (n ≤ ·) := by
  induction is generalizing checksum with
  | nil => rfl
  | cons i is ih => simp [pearsonLoop, ih]

@[simp] theorem spiCalculatePearsonHash_val (data : Buf n) (length : Nat) :
    (spiCalculatePearsonHash data length).val = pearsonHash (data.slice 0 length) := by
  simp [spiCalculatePearsonHash, pearsonLoop_val, pearsonHash_eq_foldl, Buf.slice, Function.comp_def]

/-- The checksum loop reads only inside the array exactly when the hashed prefix fits. -/
@[simp] theorem spiCalculatePearsonHash_outside (data : Buf n) (length : Nat) :
    (spiCalculatePearsonHash data length).outside = decide (n < length) := by
  simp only [spiCalculatePearsonHash, pearsonLoop_outside]
  by_cases h : n < length
  · simpa [h] using ⟨n, h, le_refl n⟩
  · simp only [h, decide_False, List.any_eq_false, List.mem_range, decide_eq_true_eq]
    omega

/-! ### The table is a permutation -/

/-- The set of byte values occurring in `vs`, as the bits of a number. -/
def byteMask (vs : List UInt8) : Nat := vs.foldl (fun m v => m ||| 1 <<< v.toNat) 0

theorem testBit_foldl_byteMask (vs : List UInt8) (m j : Nat) :
    (vs.foldl (fun m v => m ||| 1 <<< v.toNat) m).testBit j =
      (m.testBit j || vs.any (·.toNat == j)) := by
  induction vs generalizing m with
  | nil => simp
  | cons v vs ih =>
    rw [List.foldl_cons, ih, List.any_cons, Nat.testBit_or, Nat.one_shiftLeft, Nat.testBit_two_pow,
      Bool.or_assoc]
    congr 2

set_option maxRecDepth 8000 in
theorem byteMask_spiPearsonPermutation : byteMask spiPearsonPermutation = 2 ^ 256 - 1 := by
  decide

/-- Every byte value occurs in `_red_stack_spi_pearson_permutation`. -/
theorem mem_spiPearsonPermutation (v : UInt8) : v ∈ spiPearsonPermutation := by
  have h := congrArg (Nat.testBit · v.toNat) byteMask_spiPearsonPermutation
  have hv : v.toNat < 256 := v.toNat_lt_size
  simp only [byteMask, testBit_foldl_byteMask, Nat.zero_testBit, Bool.false_or,
    Nat.testBit_two_pow_sub_one, hv, decide_True] at h
  obtain ⟨w, hw, hwv⟩ := List.any_eq_true.mp h
  simp only [beq_iff_eq] at hwv
  rwa [UInt8.toNat.inj hwv] at hw

/-- The 256 entries of the table are pairwise distinct: it lists every byte value once. -/
theorem spiPearsonPermutation_nodup : spiPearsonPermutation.Nodup := by
  have hsub : List.range 256 ⊆ spiPearsonPermutation.map UInt8.toNat := fun j hj =>
    List.mem_map.mpr ⟨j.toUInt8, mem_spiPearsonPermutation _,
      UInt8.toNat_ofNat_of_lt (List.mem_range.mp hj)⟩
  have hperm := (List.subperm_of_subset (List.nodup_range 256) hsub).perm_of_length_le
    (by simp [length_spiPearsonPermutation])
  exact (hperm.nodup_iff.mp (List.nodup_range 256)).of_map _

theorem spiPearsonPermutation_getD_injective :
    Function.Injective fun v : UInt8 => spiPearsonPermutation.getD v.toNat 0 := by
  intro a b h
  have hlt (v : UInt8) : v.toNat < spiPearsonPermutation.length :=
    length_spiPearsonPermutation ▸ v.toNat_lt_size
  simp only [List.getD_eq_getElem _ _ (hlt a), List.getD_eq_getElem _ _ (hlt b)] at h
  exact UInt8.toNat.inj (spiPearsonPermutation_nodup.getElem_inj_iff.mp h)

private theorem uint8_toBitVec_xor (a b : UInt8) : (a ^^^ b).toBitVec = a.toBitVec ^^^ b.toBitVec :=
  rfl

private theorem uint8_xor_left_cancel {a b c : UInt8} (h : c ^^^ a = c ^^^ b) : a = b := by
  have h' := congrArg (c.toBitVec ^^^ ·) (congrArg UInt8.toBitVec h)
  simp only [uint8_toBitVec_xor, ← BitVec.xor_assoc, BitVec.xor_self, BitVec.zero_xor] at h'
  exact UInt8.eq_of_toBitVec_eq h'

private theorem uint8_xor_right_cancel {a b c : UInt8} (h : a ^^^ c = b ^^^ c) : a = b := by
  have h' := congrArg (· ^^^ c.toBitVec) (congrArg UInt8.toBitVec h)
  simp only [uint8_toBitVec_xor, BitVec.xor_assoc, BitVec.xor_self, BitVec.xor_zero] at h'
  exact UInt8.eq_of_toBitVec_eq h'

theorem pearsonStep_left_injective (next : UInt8) : Function.Injective (pearsonStep · next) :=
  fun _ _ h => uint8_xor_right_cancel (spiPearsonPermutation_getD_injective h)

theorem pearsonStep_right_injective (checksum : UInt8) : Function.Injective (pearsonStep checksum) :=
  fun _ _ h => uint8_xor_left_cancel (spiPearsonPermutation_getD_injective h)

theorem foldl_pearsonStep_injective (bytes : List UInt8) :
    Function.Injective fun checksum => bytes.foldl pearsonStep checksum := by
  induction bytes with
  | nil => exact fun _ _ h => h
  | cons b bs ih => exact fun _ _ h => pearsonStep_left_injective b (ih h)

/-- Two strings of one length that differ in exactly the byte at `p` fold to different
checksums from any start. -/
theorem foldl_pearsonStep_ne {xs ys : List UInt8} (hlen : xs.length = ys.length) {p : Nat}
    (hp : xs[p]? ≠ ys[p]?) (hrest : ∀ i, i ≠ p → xs[i]? = ys[i]?) (checksum : UInt8) :
    xs.foldl pearsonStep checksum ≠ ys.foldl pearsonStep checksum := by
  induction xs generalizing ys p checksum with
  | nil =>
    obtain rfl : ys = [] := List.eq_nil_of_length_eq_zero hlen.symm
    exact absurd rfl hp
  | cons x xs ih =>
    obtain ⟨y, ys, rfl⟩ := List.exists_cons_of_length_eq_add_one hlen.symm
    simp only [List.length_cons, Nat.add_right_cancel_iff] at hlen
    cases p with
    | zero =>
      have hxy : x ≠ y := fun h => hp (by simp [h])
      have hys : xs = ys := List.ext_getElem? fun i => by simpa using hrest (i + 1) (by omega)
      subst hys
      exact fun h => hxy (pearsonStep_right_injective checksum (foldl_pearsonStep_injective xs h))
    | succ p =>
      have hxy : x = y := by simpa using hrest 0 (by omega)
      subst hxy
      exact ih hlen (by simpa using hp) (fun i hi => by simpa using hrest (i + 1) (by omega)) _

end Brickd.RedStack
