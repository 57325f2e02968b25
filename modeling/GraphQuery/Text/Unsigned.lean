/-!
# Text — unsigned numerals

An unsigned numeral is an optional plus sign and one or more decimal digits.  `readUnsigned`
reads one whose value stays below a bound, from left to right, and names the first fault.  The
bound is compared after every digit, so a value is never wrapped into range.
-/

namespace GraphQuery.Text

/-- Why a text is no unsigned numeral below the bound. -/
inductive UnsignedFault where
  /-- The text is empty. -/
  | empty
  /-- A character that is no decimal digit. -/
  | invalidDigit
  /-- The digits so far have reached the bound. -/
  | tooLarge
deriving DecidableEq, Repr

/-- The value of a decimal digit. -/
def digitValue (c : Char) : Nat :=
  c.toNat - '0'.toNat

/-- Reads digits to the end of the text, `n` being the value of the digits before them. -/
def readDigits (bound : Nat) (n : Nat) : List Char → Except UnsignedFault Nat
  | [] => .ok n
  | c :: cs =>
    if c.isDigit then
      if 10 * n + digitValue c < bound then readDigits bound (10 * n + digitValue c) cs
      else .error .tooLarge
    else .error .invalidDigit

/-- Reads an unsigned numeral whose value is below `bound`. -/
def readUnsigned (bound : Nat) : List Char → Except UnsignedFault Nat
  | [] => .error .empty
  | ['+'] => .error .invalidDigit
  | '+' :: cs => readDigits bound 0 cs
  | cs => readDigits bound 0 cs

end GraphQuery.Text
