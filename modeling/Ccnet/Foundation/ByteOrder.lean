import Mathlib.Algebra.Group.Int.Defs
import Mathlib.Algebra.Group.Nat.Defs

namespace Ccnet

/-! Machine integers as bytes in memory. A word of `count` bytes is a natural number below
`256 ^ count`; a signed one is read in two's complement. -/

/-- The `count` lowest bytes, the lowest first. -/
def littleEndian : Nat → Nat → List UInt8
  | 0, _ => []
  | count + 1, value => UInt8.ofNat value :: littleEndian count (value / 256)

def ofLittleEndian : List UInt8 → Nat
  | [] => 0
  | byte :: rest => byte.toNat + 256 * ofLittleEndian rest

def bigEndian (count value : Nat) : List UInt8 := (littleEndian count value).reverse

def ofBigEndian (bytes : List UInt8) : Nat := ofLittleEndian bytes.reverse

@[simp] theorem littleEndian_length (count value : Nat) :
    (littleEndian count value).length = count := by
  induction count generalizing value with
  | zero => rfl
  | succ count induction => rw [littleEndian, List.length_cons, induction]

@[simp] theorem bigEndian_length (count value : Nat) :
    (bigEndian count value).length = count := by
  rw [bigEndian, List.length_reverse, littleEndian_length]

theorem ofLittleEndian_lt (bytes : List UInt8) :
    ofLittleEndian bytes < 256 ^ bytes.length := by
  induction bytes with
  | nil => decide
  | cons byte rest induction =>
      have bound := byte.toNat_lt
      rw [ofLittleEndian, List.length_cons, Nat.pow_succ]
      omega

theorem ofBigEndian_lt (bytes : List UInt8) : ofBigEndian bytes < 256 ^ bytes.length := by
  have bound := ofLittleEndian_lt bytes.reverse
  rwa [List.length_reverse] at bound

theorem ofLittleEndian_littleEndian (count value : Nat) :
    ofLittleEndian (littleEndian count value) = value % 256 ^ count := by
  induction count generalizing value with
  | zero => exact (Nat.mod_one value).symm
  | succ count induction =>
      rw [littleEndian, ofLittleEndian, induction, Nat.pow_succ, Nat.mul_comm (256 ^ count),
        Nat.mod_mul, UInt8.toNat_ofNat']

theorem littleEndian_ofLittleEndian (bytes : List UInt8) :
    littleEndian bytes.length (ofLittleEndian bytes) = bytes := by
  induction bytes with
  | nil => rfl
  | cons byte rest induction =>
      have bound := byte.toNat_lt
      have lowest : UInt8.ofNat (byte.toNat + 256 * ofLittleEndian rest) = byte := by
        apply UInt8.toNat_inj.mp
        rw [UInt8.toNat_ofNat']
        omega
      have others : (byte.toNat + 256 * ofLittleEndian rest) / 256 = ofLittleEndian rest := by
        omega
      rw [List.length_cons, littleEndian, ofLittleEndian, lowest, others, induction]

theorem ofBigEndian_bigEndian (count value : Nat) :
    ofBigEndian (bigEndian count value) = value % 256 ^ count := by
  rw [ofBigEndian, bigEndian, List.reverse_reverse, ofLittleEndian_littleEndian]

theorem bigEndian_ofBigEndian (bytes : List UInt8) :
    bigEndian bytes.length (ofBigEndian bytes) = bytes := by
  have back := littleEndian_ofLittleEndian bytes.reverse
  rw [List.length_reverse] at back
  rw [bigEndian, ofBigEndian, back, List.reverse_reverse]

/-- Reading the bytes from the highest on. -/
theorem foldl_eq_ofBigEndian (bytes : List UInt8) :
    bytes.foldl (fun (value : Int) byte => 256 * value + byte.toNat) 0 = ofBigEndian bytes := by
  rw [ofBigEndian, ← List.foldr_reverse]
  induction bytes.reverse with
  | nil => rfl
  | cons byte rest induction =>
      rw [List.foldr_cons, induction, ofLittleEndian]
      omega

/-! ## Signed words -/

/-- The conversion to an unsigned word of `count` bytes. -/
def toUnsigned (count : Nat) (value : Int) : Nat := (value % 256 ^ count).toNat

/-- The conversion to a signed word of `count` bytes. -/
def toSigned (count : Nat) (word : Nat) : Int := Int.bmod word (256 ^ count)

/-- The values of a signed type of `count` bytes. -/
def InSigned (count : Nat) (value : Int) : Prop :=
  -(256 ^ count / 2) ≤ value ∧ value < 256 ^ count / 2

instance (count : Nat) (value : Int) : Decidable (InSigned count value) :=
  inferInstanceAs (Decidable (_ ∧ _))

theorem toUnsigned_lt (count : Nat) (value : Int) : toUnsigned count value < 256 ^ count := by
  have positive : (0 : Int) < 256 ^ count := Int.pow_pos (by decide)
  have bound := Int.emod_lt_of_pos value positive
  have lower := Int.emod_nonneg value (Int.ne_of_gt positive)
  have same : ((256 ^ count : Nat) : Int) = 256 ^ count := by simp
  unfold toUnsigned
  omega

theorem toUnsigned_toSigned {count word : Nat} (bounded : word < 256 ^ count) :
    toUnsigned count (toSigned count word) = word := by
  have same : ((256 ^ count : Nat) : Int) = 256 ^ count := by simp
  have reduced : toSigned count word % 256 ^ count = word := by
    rw [toSigned, ← same, Int.bmod_emod, Int.emod_eq_of_lt] <;> omega
  rw [toUnsigned, reduced, Int.toNat_natCast]

theorem even_cardinality {count : Nat} (positive : 0 < count) : 2 ∣ 256 ^ count :=
  Nat.dvd_trans (by decide : 2 ∣ 256) (Nat.pow_dvd_pow 256 positive)

theorem toSigned_toUnsigned {count : Nat} {value : Int} (positive : 0 < count)
    (inside : InSigned count value) : toSigned count (toUnsigned count value) = value := by
  have even := even_cardinality positive
  have same : ((256 ^ count : Nat) : Int) = 256 ^ count := by simp
  have modulus : (0 : Int) < 256 ^ count := Int.pow_pos (by decide)
  have lower := Int.emod_nonneg value (Int.ne_of_gt modulus)
  rw [toSigned, toUnsigned, Int.toNat_of_nonneg lower, ← same, Int.emod_bmod]
  rw [InSigned, ← same] at inside
  apply Int.bmod_eq_of_le <;> omega

theorem toSigned_inSigned {count : Nat} (positive : 0 < count) (word : Nat) :
    InSigned count (toSigned count word) := by
  have even := even_cardinality positive
  have same : ((256 ^ count : Nat) : Int) = 256 ^ count := by simp
  have modulus : 0 < 256 ^ count := Nat.pow_pos (by decide)
  have lower := Int.le_bmod (x := word) modulus
  have upper := Int.bmod_lt (x := word) modulus
  rw [InSigned, toSigned, ← same]
  omega

/-! ## Byte orders -/

/-- How a machine lays a word out in memory. -/
inductive ByteOrder
  | little
  | big
  deriving DecidableEq, Repr

namespace ByteOrder

/-- The bytes of a word in memory. -/
def store (order : ByteOrder) (count word : Nat) : List UInt8 :=
  match order with
  | .little => littleEndian count word
  | .big => bigEndian count word

def load (order : ByteOrder) (bytes : List UInt8) : Nat :=
  match order with
  | .little => ofLittleEndian bytes
  | .big => ofBigEndian bytes

/-- `htobe16`, `htobe32` and `htobe64`: the bytes change places where the machine's
order is not the network's. -/
def htobe (order : ByteOrder) (count word : Nat) : Nat :=
  match order with
  | .little => ofBigEndian (littleEndian count word)
  | .big => word

/-- `be16toh`, `be32toh` and `be64toh` -/
def betoh (order : ByteOrder) (count word : Nat) : Nat := order.htobe count word

theorem htobe_lt (order : ByteOrder) {count word : Nat} (bounded : word < 256 ^ count) :
    order.htobe count word < 256 ^ count := by
  cases order with
  | little =>
      have bound := ofBigEndian_lt (littleEndian count word)
      rwa [littleEndian_length] at bound
  | big => exact bounded

theorem load_lt (order : ByteOrder) (bytes : List UInt8) :
    order.load bytes < 256 ^ bytes.length := by
  cases order with
  | little => exact ofLittleEndian_lt bytes
  | big => exact ofBigEndian_lt bytes

/-- A word converted by `htobe` is stored with its highest byte first on every machine. -/
theorem store_htobe (order : ByteOrder) (count word : Nat) :
    order.store count (order.htobe count word) = bigEndian count word := by
  cases order with
  | little =>
      have back := littleEndian_ofLittleEndian (littleEndian count word).reverse
      rw [List.length_reverse, littleEndian_length] at back
      exact back
  | big => rfl

theorem betoh_load (order : ByteOrder) (bytes : List UInt8) :
    order.betoh bytes.length (order.load bytes) = ofBigEndian bytes := by
  cases order with
  | little =>
      rw [betoh, htobe, load, littleEndian_ofLittleEndian]
  | big => rfl

end ByteOrder

end Ccnet
