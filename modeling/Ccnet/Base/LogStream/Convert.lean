import Ccnet.Foundation.Memory
import Ccnet.Foundation.Numeral

namespace Ccnet.Base

/-! The conversion of integers to text of `base/log_stream.cc`. -/

/-- The integer types at which `convert` is instantiated. -/
inductive IntegerType
  | int32
  | uint32
  | int64
  | uint64
  deriving DecidableEq, Repr

namespace IntegerType

def minimum : IntegerType → Int
  | .int32 => -2147483648
  | .int64 => -9223372036854775808
  | .uint32 | .uint64 => 0

def maximum : IntegerType → Int
  | .int32 => 2147483647
  | .uint32 => 4294967295
  | .int64 => 9223372036854775807
  | .uint64 => 18446744073709551615

def Holds (type : IntegerType) (value : Int) : Prop :=
  type.minimum ≤ value ∧ value ≤ type.maximum

instance (type : IntegerType) (value : Int) : Decidable (type.Holds value) :=
  inferInstanceAs (Decidable (_ ∧ _))

/-- The result of an operation at the type. -/
def checked (type : IntegerType) (value : Int) : Checked Int :=
  if type.Holds value then .ok value else .error .overflow

end IntegerType

/-- The terminating zero of C strings. -/
def nul : Char := Char.ofNat 0

def digits : List Char := "9876543210123456789".toList ++ [nul]

def digitsHex : List Char := "0123456789ABCDEF".toList ++ [nul]

/-- An array of characters, indexed by an `int`. -/
def charAt (values : List Char) (index : Int) : Checked Char :=
  if 0 ≤ index then element values index.toNat else .error .outOfRange

/-- `zero[lsd]`, where `zero` points to the middle of `digits`. -/
def zeroAt (lsd : Int) : Checked Char := charAt digits (9 + lsd)

variable {size : Nat}

/-- The loops of `convert` and `convertHex`: the digits, the least significant first. -/
def convertLoop (type : IntegerType) (base : Nat) (digitAt : Int → Checked Char)
    (memory : Vector Char size) (p : Nat) (i : Int) : Nat → Checked (Vector Char size × Nat)
  | 0 => .error .outOfFuel
  | fuel + 1 => do
      let lsd ← checkInt32 (← type.checked (i.tmod base))
      let i ← type.checked (i.tdiv base)
      let memory ← store memory p (← digitAt lsd)
      if i ≠ 0 then
        convertLoop type base digitAt memory (p + 1) i fuel
      else
        return (memory, p + 1)

/-- How both functions end. -/
def finishNumber (memory : Vector Char size) (buf p : Nat) :
    Checked (Vector Char size × Nat) := do
  let memory ← store memory p nul
  let memory ← reverseRange memory buf p
  return (memory, p - buf)

/-- `convert`, with what it returns. -/
def convert (type : IntegerType) (memory : Vector Char size) (buf : Nat) (value : Int) :
    Checked (Vector Char size × Nat) := do
  let (memory, p) ← convertLoop type 10 zeroAt memory buf value (value.natAbs + 1)
  if value < 0 then
    finishNumber (← store memory p '-') buf (p + 1)
  else
    finishNumber memory buf p

def convertHex (memory : Vector Char size) (buf : Nat) (value : Nat) :
    Checked (Vector Char size × Nat) := do
  let (memory, p) ← convertLoop .uint64 16 (charAt digitsHex) memory buf value (value + 1)
  finishNumber memory buf p

/-! ## Numerals as text -/

def upperDigit (digit : Nat) : Char := (Nat.digitChar digit).toUpper

def decimalSign (value : Int) : List Char := if value < 0 then ['-'] else []

def decimal (value : Int) : List Char :=
  decimalSign value ++ (numeral 10 value.natAbs).map Nat.digitChar

def upperHex (value : Nat) : List Char := (numeral 16 value).map upperDigit

def digitValue (character : Char) : Nat :=
  if character.isDigit then character.toNat - '0'.toNat else character.toNat - 'A'.toNat + 10

/-- Reading a text back, as `strtoul` does. -/
def readNumeral (base : Nat) (text : List Char) : Nat :=
  readDigits base (text.map digitValue)

def readDecimal : List Char → Int
  | '-' :: text => -readNumeral 10 text
  | text => readNumeral 10 text

/-! ## The loop -/

theorem IntegerType.Holds.towardsZero {type : IntegerType} {value smaller : Int}
    (holds : type.Holds value) (closer : smaller.natAbs ≤ value.natAbs)
    (nonneg : 0 ≤ value → 0 ≤ smaller) (nonpos : value ≤ 0 → smaller ≤ 0) :
    type.Holds smaller := by
  unfold IntegerType.Holds at holds ⊢
  cases type <;> simp only [IntegerType.minimum, IntegerType.maximum] at holds ⊢ <;> omega

theorem IntegerType.checked_of {type : IntegerType} {value : Int} (holds : type.Holds value) :
    type.checked value = .ok value := if_pos holds

/-- Truncating division by the base gives results of the same type. -/
theorem IntegerType.Holds.divide {type : IntegerType} {value : Int} (holds : type.Holds value)
    (base : Nat) : type.Holds (value.tmod base) ∧ type.Holds (value.tdiv base) := by
  constructor
  · refine holds.towardsZero ?_ (Int.tmod_nonneg _) ?_
    · rw [Int.natAbs_tmod]
      exact Nat.mod_le _ _
    · intro nonpos
      have opposite := Int.tmod_nonneg base (Int.neg_nonneg_of_nonpos nonpos)
      rw [Int.neg_tmod] at opposite
      exact Int.neg_nonneg.mp opposite
  · refine holds.towardsZero ?_ ?_ ?_
    · rw [Int.natAbs_tdiv]
      exact Nat.div_le_self _ _
    · intro nonneg
      exact Int.tdiv_nonneg nonneg (Int.natCast_nonneg base)
    · intro nonpos
      have opposite := Int.tdiv_nonneg (Int.neg_nonneg_of_nonpos nonpos)
        (Int.natCast_nonneg base)
      rw [Int.neg_tdiv] at opposite
      exact Int.neg_nonneg.mp opposite

section Loop

variable {type : IntegerType} {base : Nat} {digitAt : Int → Checked Char} {digit : Nat → Char}

/-- The loop stores the numeral backwards. -/
theorem convertLoop_ok (proper : 1 < base) (small : base ≤ 16)
    (shows : ∀ lsd, type.Holds lsd → lsd.natAbs < base →
      digitAt lsd = .ok (digit lsd.natAbs))
    (memory : Vector Char size) {p : Nat} {i : Int} {fuel : Nat} (holds : type.Holds i)
    (enough : i.natAbs < fuel) (room : p + (numeral base i.natAbs).length ≤ size) :
    convertLoop type base digitAt memory p i fuel =
      .ok (place memory p ((numeral base i.natAbs).reverse.map digit),
        p + (numeral base i.natAbs).length) := by
  induction fuel generalizing memory p i with
  | zero => exact absurd enough (Nat.not_lt_zero _)
  | succ fuel induction =>
      rcases holds.divide base with ⟨remainder, quotient⟩
      have lsd : (i.tmod base).natAbs = i.natAbs % base := Int.natAbs_tmod i base
      have rest : (i.tdiv base).natAbs = i.natAbs / base := Int.natAbs_tdiv i base
      have below : i.natAbs % base < base := Nat.mod_lt _ (by omega)
      have nonempty := List.length_pos_iff.mpr (numeral_isNumeral proper i.natAbs).nonempty
      rw [convertLoop, IntegerType.checked_of remainder, Checked.ok_bind,
        Checked.checkInt32_bind_of (by omega), IntegerType.checked_of quotient, Checked.ok_bind,
        shows _ remainder (by omega), Checked.ok_bind, store_ok _ _ (by omega), Checked.ok_bind,
        lsd]
      by_cases last : i.natAbs < base
      · have done : i.tdiv base = 0 := by
          rw [← Int.natAbs_eq_zero, rest, Nat.div_eq_of_lt last]
        rw [if_neg (not_not.mpr done), numeral_of_lt last, Nat.mod_eq_of_lt last]
        rfl
      · have large : base ≤ i.natAbs := Nat.le_of_not_lt last
        have more : i.tdiv base ≠ 0 := by
          rw [← Int.natAbs_ne_zero, rest]
          exact Nat.div_ne_zero_iff.mpr ⟨by omega, large⟩
        have shorter : i.natAbs / base < i.natAbs := Nat.div_lt_self (by omega) proper
        rw [numeral_of_le proper large, List.length_append, List.length_singleton] at room
        rw [if_pos more, induction _ quotient (by omega) (by rw [rest]; omega), rest,
          numeral_of_le proper large, List.reverse_append, List.map_append, List.length_append]
        have joined := place_append memory p [digit (i.natAbs % base)]
          ((numeral base (i.natAbs / base)).reverse.map digit)
        rw [List.length_singleton] at joined
        rw [joined, List.length_singleton, Nat.add_assoc, Nat.add_comm 1]
        rfl

end Loop

theorem finishNumber_ok (memory : Vector Char size) {buf : Nat} (text : List Char)
    (room : buf + text.length < size) :
    finishNumber (place memory buf text) buf (buf + text.length) =
      .ok (place memory buf (text.reverse ++ [nul]), text.length) := by
  have fits : buf + (text ++ [nul]).length ≤ size := by
    rw [List.length_append, List.length_singleton]
    omega
  rw [finishNumber, store_ok _ _ room, place_append, Checked.ok_bind, reverseRange_place _ fits,
    Checked.ok_bind, Nat.add_sub_cancel_left]
  rfl

theorem zeroAt_ok {lsd : Int} (digit : lsd.natAbs < 10) :
    zeroAt lsd = .ok (Nat.digitChar lsd.natAbs) := by
  have table : ∀ index : Fin 19,
      zeroAt (index - 9) = .ok (Nat.digitChar ((index : Int) - 9).natAbs) := by decide
  have found := table ⟨(lsd + 9).toNat, by omega⟩
  rwa [show (((lsd + 9).toNat : Nat) : Int) - 9 = lsd by omega] at found

theorem charAt_digitsHex_ok {lsd : Int} (nonneg : 0 ≤ lsd) (digit : lsd.natAbs < 16) :
    charAt digitsHex lsd = .ok (upperDigit lsd.natAbs) := by
  have table : ∀ index : Fin 16, charAt digitsHex index = .ok (upperDigit index) := by decide
  have found := table ⟨lsd.natAbs, digit⟩
  rwa [show ((lsd.natAbs : Nat) : Int) = lsd by omega] at found

theorem convert_ok {type : IntegerType} (memory : Vector Char size) (buf : Nat) {value : Int}
    (holds : type.Holds value) (room : buf + (decimal value).length < size) :
    convert type memory buf value =
      .ok (place memory buf (decimal value ++ [nul]), (decimal value).length) := by
  have length : (decimal value).length =
      (decimalSign value).length + (numeral 10 value.natAbs).length := by simp [decimal]
  have stored : convertLoop type 10 zeroAt memory buf value (value.natAbs + 1) = _ :=
    convertLoop_ok (by decide) (by decide) (fun _ _ digit => zeroAt_ok digit) memory holds
      (Nat.lt_succ_self _) (by omega)
  have backwards : (decimal value).reverse =
      (numeral 10 value.natAbs).reverse.map Nat.digitChar ++ decimalSign value := by
    unfold decimal decimalSign
    split <;> simp
  have ended := finishNumber_ok memory (decimal value).reverse (by simpa using room)
  rw [List.reverse_reverse, List.length_reverse, backwards] at ended
  rw [convert, stored, Checked.ok_bind]
  dsimp only
  by_cases negative : value < 0
  · have sign : decimalSign value = ['-'] := if_pos negative
    have more := place_append memory buf ((numeral 10 value.natAbs).reverse.map Nat.digitChar) ['-']
    rw [List.length_map, List.length_reverse] at more
    rw [sign, List.length_singleton] at length
    rw [if_pos negative, store_ok _ _ (by omega), Checked.ok_bind, more, Nat.add_assoc,
      Nat.add_comm _ 1, ← length, ← sign, ended]
  · have sign : decimalSign value = [] := if_neg negative
    rw [sign, List.append_nil] at ended
    rw [sign, List.length_nil, Nat.zero_add] at length
    rw [if_neg negative, ← length, ended]

theorem convertHex_ok (memory : Vector Char size) (buf : Nat) {value : Nat}
    (holds : value < 2 ^ 64) (room : buf + (upperHex value).length < size) :
    convertHex memory buf value =
      .ok (place memory buf (upperHex value ++ [nul]), (upperHex value).length) := by
  have length : (upperHex value).length = (numeral 16 value).length := List.length_map ..
  have inRange : IntegerType.uint64.Holds value := by
    simp only [IntegerType.Holds, IntegerType.minimum, IntegerType.maximum]
    omega
  have shows : ∀ lsd, IntegerType.uint64.Holds lsd → lsd.natAbs < 16 →
      charAt digitsHex lsd = .ok (upperDigit lsd.natAbs) := by
    intro lsd within digit
    exact charAt_digitsHex_ok within.1 digit
  have stored : convertLoop .uint64 16 (charAt digitsHex) memory buf value (value + 1) = _ :=
    convertLoop_ok (by decide) (by decide) shows memory inRange (Nat.lt_succ_self _)
      (by rw [Int.natAbs_natCast]; omega)
  have ended := finishNumber_ok memory (upperHex value).reverse (by simpa using room)
  rw [List.reverse_reverse, List.length_reverse] at ended
  rw [Int.natAbs_natCast, List.map_reverse, ← length] at stored
  rw [convertHex, stored, Checked.ok_bind]
  exact ended

/-! ## Reading back -/

theorem readNumeral_numeral {base : Nat} {digit : Nat → Char} (proper : 1 < base)
    (shows : ∀ value < base, digitValue (digit value) = value) (number : Nat) :
    readNumeral base ((numeral base number).map digit) = number := by
  have isNumeral := numeral_isNumeral proper number
  have same : ((numeral base number).map digit).map digitValue = numeral base number := by
    rw [List.map_map]
    conv_rhs => rw [← List.map_id (numeral base number)]
    exact List.map_congr_left fun value member => shows value (isNumeral.below value member)
  rw [readNumeral, same, isNumeral.value]

theorem digitValue_digitChar : ∀ value < 10, digitValue (Nat.digitChar value) = value := by
  decide

theorem digitValue_upperDigit : ∀ value < 16, digitValue (upperDigit value) = value := by
  decide

theorem readDecimal_decimal (value : Int) : readDecimal (decimal value) = value := by
  have number := readNumeral_numeral (by decide) digitValue_digitChar value.natAbs
  unfold decimal decimalSign
  by_cases negative : value < 0
  · rw [if_pos negative, List.singleton_append, readDecimal, number]
    omega
  · rw [if_neg negative, List.nil_append]
    unfold readDecimal
    split
    · rename_i text signed
      have member : '-' ∈ (numeral 10 value.natAbs).map Nat.digitChar := by
        rw [signed]
        exact List.mem_cons_self
      rcases List.mem_map.mp member with ⟨digit, inside, shown⟩
      have below := (numeral_isNumeral (by decide) value.natAbs).below digit inside
      have unsigned : ∀ digit < 10, Nat.digitChar digit ≠ '-' := by decide
      exact absurd shown (unsigned digit below)
    · rw [number]
      omega

theorem decimal_length {type : IntegerType} {value : Int} (holds : type.Holds value) :
    (decimal value).length ≤ 20 := by
  have range : -9223372036854775808 ≤ value ∧ value ≤ 18446744073709551615 := by
    unfold IntegerType.Holds at holds
    cases type <;> simp only [IntegerType.minimum, IntegerType.maximum] at holds <;> omega
  rw [decimal, List.length_append, List.length_map, decimalSign]
  by_cases negative : value < 0
  · have length : (numeral 10 value.natAbs).length ≤ 19 :=
      numeral_length_le (by decide) (by decide) (by omega)
    rw [if_pos negative, List.length_singleton]
    omega
  · have length : (numeral 10 value.natAbs).length ≤ 20 :=
      numeral_length_le (by decide) (by decide) (by omega)
    rw [if_neg negative, List.length_nil]
    omega

theorem upperHex_length {value : Nat} (bound : value < 2 ^ 64) :
    (upperHex value).length ≤ 16 := by
  rw [upperHex, List.length_map]
  exact numeral_length_le (by decide) (by decide) bound

/-- Where there is room, both conversions succeed at every value, the minimum included: they
write the canonical numeral and a terminating zero, and nothing else. -/
theorem conversions_exact (memory : Vector Char size) (buf : Nat) :
    (∀ (type : IntegerType) (value : Int), type.Holds value →
      buf + (decimal value).length < size →
      convert type memory buf value =
          .ok (place memory buf (decimal value ++ [nul]), (decimal value).length) ∧
        (decimal value).length + 1 ≤ 32 ∧
        IsNumeral 10 value.natAbs (numeral 10 value.natAbs) ∧
        readDecimal (decimal value) = value) ∧
    ∀ value : Nat, value < 2 ^ 64 → buf + (upperHex value).length < size →
      convertHex memory buf value =
          .ok (place memory buf (upperHex value ++ [nul]), (upperHex value).length) ∧
        (upperHex value).length + 1 ≤ 32 ∧
        IsNumeral 16 value (numeral 16 value) ∧
        readNumeral 16 (upperHex value) = value := by
  constructor
  · intro type value holds room
    have length := decimal_length holds
    exact ⟨convert_ok memory buf holds room, by omega, numeral_isNumeral (by decide) _,
      readDecimal_decimal value⟩
  · intro value bound room
    have length := upperHex_length bound
    exact ⟨convertHex_ok memory buf bound room, by omega, numeral_isNumeral (by decide) _,
      readNumeral_numeral (by decide) digitValue_upperDigit value⟩

/-- The minimum of a signed type, and an address. -/
theorem conversions_exact_minimum :
    convert .int32 (Vector.replicate 12 ' ') 0 (-2147483648) =
        .ok (place (Vector.replicate 12 ' ') 0 ("-2147483648".toList ++ [nul]), 11) ∧
      convertHex (Vector.replicate 12 ' ') 1 3735928559 =
        .ok (place (Vector.replicate 12 ' ') 1 ("DEADBEEF".toList ++ [nul]), 8) := by
  have text : decimal (-2147483648) = "-2147483648".toList := by decide +kernel
  have hex : upperHex 3735928559 = "DEADBEEF".toList := by decide +kernel
  have signed := (conversions_exact (Vector.replicate 12 ' ') 0).1 .int32 (-2147483648)
    (by decide) (by rw [text]; decide)
  have address := (conversions_exact (Vector.replicate 12 ' ') 1).2 3735928559
    (by decide) (by rw [hex]; decide)
  rw [text] at signed
  rw [hex] at address
  exact ⟨signed.1, address.1⟩

end Ccnet.Base
