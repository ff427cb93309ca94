import RobotManager.Library.Double
import Mathlib.Algebra.Order.Field.Rat

/-!
# Reading numbers from C strings

The functions `strtol`, with base 10, and `strtod` of the C library in the "C" locale, for a
64-bit `long` and a binary64 `double`.  A string ends at its first NUL.  Each reader returns
the value together with the characters it leaves, which are all of them if it has read no
number, and tells whether it reports `ERANGE`.
-/

namespace NumberText

/-- What `c_str()` shows of a string. -/
def cString (string : List Char) : List Char := string.takeWhile fun symbol => symbol ≠ '\x00'

structure Reading (Value : Type) where
  value : Value
  rest : List Char
  rangeError : Bool := false
deriving DecidableEq

def isSpace (symbol : Char) : Bool :=
  symbol == ' ' || (9 ≤ symbol.toNat && symbol.toNat ≤ 13)

/-- The value of a digit or hexadecimal digit. -/
def digitValue (symbol : Char) : Option ℕ :=
  if symbol.isDigit then some (symbol.toNat - 48)
  else if 'a' ≤ symbol.toLower ∧ symbol.toLower ≤ 'f' then some (symbol.toLower.toNat - 87)
  else none

def isDigit (base : ℕ) (symbol : Char) : Bool := (digitValue symbol).any fun digit => digit < base

/-- The number that a row of digits stands for. -/
def numeral (base : ℕ) (digits : List Char) : ℕ :=
  digits.foldl (fun number symbol => number * base + (digitValue symbol).getD 0) 0

/-- Read an optional sign; the flag stands for a minus sign. -/
def readSign : List Char → Bool × List Char
  | '-' :: rest => (true, rest)
  | '+' :: rest => (false, rest)
  | rest => (false, rest)

/-! ### Integers -/

/-- `strtol` with base 10; a number outside the range of `long` is replaced by the nearest bound. -/
def strtol (string : List Char) : Reading ℤ :=
  let (negative, unsigned) := readSign (string.dropWhile isSpace)
  let digits := unsigned.takeWhile (isDigit 10)
  let rest := unsigned.dropWhile (isDigit 10)
  if digits.isEmpty then ⟨0, string, false⟩
  else
    let number : ℤ := if negative then -(numeral 10 digits : ℤ) else numeral 10 digits
    if number < -2 ^ 63 then ⟨-2 ^ 63, rest, true⟩
    else if 2 ^ 63 ≤ number then ⟨2 ^ 63 - 1, rest, true⟩
    else ⟨number, rest, false⟩

example : strtol " -42kg".toList = ⟨-42, ['k', 'g'], false⟩ := by decide

/-! ### Rounding to doubles -/

/-- The number `significand * base ^ exponent`. -/
def scaled (significand base : ℕ) : ℤ → ℚ
  | .ofNat exponent => (significand * base ^ exponent : ℕ)
  | .negSucc exponent => mkRat significand (base ^ (exponent + 1))

/-- The exponent of the greatest power of two that is not above a positive number. -/
def binaryExponent (number : ℚ) : ℤ :=
  let exponent : ℤ := number.num.natAbs.log2 - number.den.log2
  if scaled 1 2 exponent ≤ number then exponent else exponent - 1

/-- The nearest multiple of `2 ^ exponent`, the even one of two. -/
def roundTo (exponent : ℤ) (number : ℚ) : ℚ :=
  let steps := number / scaled 1 2 exponent
  let lower := steps.floor
  let excess := steps - lower
  let nearest := if excess < 1 / 2 ∨ (excess = 1 / 2 ∧ lower % 2 = 0) then lower else lower + 1
  nearest * scaled 1 2 exponent

/-- A nonnegative number as a binary64, rounded to nearest.  A result that is too large is infinite
and a range error; one that is inexact and, with an unbounded exponent, below the normal numbers is
a range error as well. -/
def toDouble (number : ℚ) : Double × Bool :=
  if number = 0 then (.finite 0, false)
  else
    let exponent := binaryExponent number
    let rounded := roundTo (max (exponent - 52) (-1074)) number
    if 2 ^ 1024 ≤ rounded then (.posInf, true)
    else
      (.finite rounded,
        decide (rounded ≠ number ∧ roundTo (exponent - 52) number < scaled 1 2 (-1022)))

/-! ### Floating-point numbers -/

/-- Digits with an optional point, at least one of them: their number without the point, how many
of them follow the point, and the rest. -/
def readSignificand (base : ℕ) (string : List Char) : Option (ℕ × ℕ × List Char) :=
  let whole := string.takeWhile (isDigit base)
  match string.dropWhile (isDigit base) with
  | '.' :: rest =>
      let fraction := rest.takeWhile (isDigit base)
      if whole.isEmpty && fraction.isEmpty then none
      else
        some (numeral base (whole ++ fraction), fraction.length, rest.dropWhile (isDigit base))
  | rest => if whole.isEmpty then none else some (numeral base whole, 0, rest)

/-- An optional exponent part. -/
def readExponent (marker : Char) : List Char → ℤ × List Char
  | [] => (0, [])
  | symbol :: string =>
      let (negative, unsigned) := readSign string
      let digits := unsigned.takeWhile (isDigit 10)
      if symbol.toLower ≠ marker ∨ digits.isEmpty then (0, symbol :: string)
      else
        (if negative then -(numeral 10 digits : ℤ) else numeral 10 digits,
          unsigned.dropWhile (isDigit 10))

/-- A word in upper or lower case. -/
def readWord : List Char → List Char → Option (List Char)
  | [], string => some string
  | _ :: _, [] => none
  | letter :: word, symbol :: string =>
      if symbol.toLower = letter then readWord word string else none

/-- The optional parenthesised characters after `nan`. -/
def readNanTail (string : List Char) : List Char :=
  match string with
  | '(' :: tail =>
      match tail.dropWhile fun symbol => symbol.isAlphanum || symbol == '_' with
      | ')' :: rest => rest
      | _ => string
  | _ => string

/-- An infinity or NaN. -/
def readSpecial (string : List Char) : Option (Reading Double) :=
  match readWord "infinity".toList string with
  | some rest => some ⟨.posInf, rest, false⟩
  | none =>
      match readWord "inf".toList string with
      | some rest => some ⟨.posInf, rest, false⟩
      | none => (readWord "nan".toList string).map fun rest => ⟨.nan, readNanTail rest, false⟩

/-- A number whose digits have the given base and whose exponent scales by the given factor, which
each digit after the point lowers by so many steps. -/
def readScaled (base factor steps : ℕ) (marker : Char) (string : List Char) :
    Option (Reading Double) :=
  (readSignificand base string).map fun (significand, places, rest) =>
    let (exponent, rest) := readExponent marker rest
    let (value, rangeError) := toDouble (scaled significand factor (exponent - steps * places))
    ⟨value, rest, rangeError⟩

def readHexadecimal : List Char → Option (Reading Double)
  | '0' :: mark :: string => if mark.toLower = 'x' then readScaled 16 2 4 'p' string else none
  | _ => none

def readUnsigned (string : List Char) : Option (Reading Double) :=
  (readSpecial string).or ((readHexadecimal string).or (readScaled 10 10 1 'e' string))

def strtod (string : List Char) : Reading Double :=
  let (negative, unsigned) := readSign (string.dropWhile isSpace)
  match readUnsigned unsigned with
  | none => ⟨.finite 0, string, false⟩
  | some reading => if negative then { reading with value := reading.value.neg } else reading

example : strtod "-0x1.8p1;".toList = ⟨.finite (-3), [';'], false⟩ := by decide +kernel

end NumberText
