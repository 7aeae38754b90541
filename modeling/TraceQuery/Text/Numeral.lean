/-
  Whole numbers as text.

  1. **Writing**: `writeNat` and `writeInt` give the decimal digits without leading zeros, after a
     minus sign for a negative number.
  2. **Reading**: a numeral is an optional sign and at least one ASCII digit; nothing else may stand
     beside it.  A reader has bounds.  Digits are taken from the left, and the first thing wrong is
     the fault: a character that is no digit, or the digit that leaves the bounds.  An unsigned
     reader has no minus sign, so `-` is a character that is no digit.
  3. **Bounds**: counts have 64 bits, bound integers 63 bits and a sign, hours of a look-back 32 bits.

  Numbers are natural numbers and integers without a bound here, and the bounds are checked where a text
  is read (`readDigits_le`), so later arithmetic cannot wrap; where the program saturates, it says so
  with `min`.

  Mathlib-free.
-/
namespace TraceQuery.Text

/-! ## Digits -/

/-- The ten ASCII digits; digits of other scripts are none. -/
def isDigit (c : Char) : Bool := '0' ≤ c && c ≤ '9'

/-- The value of an ASCII digit. -/
def digitValue? (c : Char) : Option Nat :=
  if isDigit c then some (c.toNat - '0'.toNat) else none

/-- The value of a run of digits, read after the value `start`. -/
def digitsValue (start : Nat) (cs : List Char) : Nat :=
  cs.foldl (fun n c => n * 10 + (c.toNat - '0'.toNat)) start

/-! ## Writing -/

/-- The decimal digits of a number, without leading zeros. -/
def writeNat (n : Nat) : String := String.ofList (Nat.toDigits 10 n)

/-- The decimal digits of a number, after a minus sign if it is negative. -/
def writeInt (n : Int) : String :=
  if n < 0 then "-" ++ writeNat n.natAbs else writeNat n.natAbs

/-! ## Reading -/

/-- What is wrong with a numeral. -/
inductive NumeralFault where
  | empty
  | notADigit
  | tooLarge
  | tooSmall
deriving DecidableEq, Repr

/-- What is told about the fault. -/
def NumeralFault.message : NumeralFault → String
  | .empty => "cannot parse integer from empty string"
  | .notADigit => "invalid digit found in string"
  | .tooLarge => "number too large to fit in target type"
  | .tooSmall => "number too small to fit in target type"

/-- Digits up to the end of the text, continuing the value `start`; `excess` is the fault of a
    value above `limit`. -/
def readDigits (limit : Nat) (excess : NumeralFault) : Nat → List Char → Except NumeralFault Nat
  | start, [] => .ok start
  | start, c :: rest =>
    match digitValue? c with
    | none => .error .notADigit
    | some d =>
      if limit < start * 10 + d then .error excess
      else readDigits limit excess (start * 10 + d) rest

/-- A natural number up to `limit`, with an optional plus sign. -/
def readNat (limit : Nat) : List Char → Except NumeralFault Nat
  | [] => .error .empty
  | ['+'] => .error .notADigit
  | '+' :: digits => readDigits limit .tooLarge 0 digits
  | digits => readDigits limit .tooLarge 0 digits

/-- An integer from `-below` to `above`, with an optional sign. -/
def readInt (below above : Nat) : List Char → Except NumeralFault Int
  | [] => .error .empty
  | ['+'] => .error .notADigit
  | ['-'] => .error .notADigit
  | '+' :: digits => (readDigits above .tooLarge 0 digits).map Int.ofNat
  | '-' :: digits => (readDigits below .tooSmall 0 digits).map fun n => -Int.ofNat n
  | digits => (readDigits above .tooLarge 0 digits).map Int.ofNat

/-! ## The bounds that the program uses -/

/-- The largest count, page size or offset that can be asked for: 64 bits. -/
def maxCount : Nat := 18446744073709551615

/-- The largest value of a bound integer: 63 bits and a sign. -/
def maxInteger : Nat := 9223372036854775807

/-- The largest number of hours in a look-back: 32 bits. -/
def maxHours : Nat := 4294967295

/-- A count of 64 bits. -/
def readCount (s : String) : Except NumeralFault Nat := readNat maxCount s.toList

/-- A signed integer of 64 bits. -/
def readInteger (s : String) : Except NumeralFault Int :=
  readInt (maxInteger + 1) maxInteger s.toList

/-- A number of hours, of 32 bits. -/
def readHours (s : String) : Except NumeralFault Nat := readNat maxHours s.toList

/-! ## Laws -/

/-- A number that is read stays within its bound, if what was read before does. -/
theorem readDigits_le {limit : Nat} {excess : NumeralFault} {cs : List Char} {start n : Nat}
    (hs : start ≤ limit) (h : readDigits limit excess start cs = .ok n) : n ≤ limit := by
  induction cs generalizing start with
  | nil =>
    have : start = n := by simpa [readDigits] using h
    omega
  | cons c rest ih =>
    unfold readDigits at h
    split at h
    · simp at h
    · split at h
      · simp at h
      · exact ih (by omega) h

/-- A run of digits can be read in two parts, the second after the value of the first. -/
theorem digitsValue_append (start : Nat) (xs ys : List Char) :
    digitsValue start (xs ++ ys) = digitsValue (digitsValue start xs) ys := by
  simp [digitsValue]

end TraceQuery.Text
