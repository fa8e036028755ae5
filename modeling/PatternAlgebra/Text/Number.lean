import PatternAlgebra.Text.Basic

/-!
# Numbers as text

Natural numbers in decimal and in lower case hexadecimal. A number that is read has at most
64 bits.
-/
namespace PatternAlgebra.Text

def decimal (n : Nat) : Text := Nat.toDigits 10 n

def hex (n : Nat) : Text := Nat.toDigits 16 n

def digitValue (c : Char) : Nat := c.toNat - '0'.toNat

def isHexDigit (c : Char) : Bool :=
  c.isDigit || ('a' ≤ c && c ≤ 'f') || ('A' ≤ c && c ≤ 'F')

def hexDigitValue (c : Char) : Nat :=
  if c.isDigit then digitValue c
  else if 'a' ≤ c then c.toNat - 'a'.toNat + 10
  else c.toNat - 'A'.toNat + 10

def decimalValue (digits : Text) : Nat := digits.foldl (fun n d => n * 10 + digitValue d) 0

def hexValue (digits : Text) : Nat := digits.foldl (fun n d => n * 16 + hexDigitValue d) 0

/-- Reads a run of decimal digits whose value fits in 64 bits. -/
def readDecimal? (t : Text) : Option (Nat × Text) :=
  let digits := t.takeWhile Char.isDigit
  if digits.isEmpty || 0x10000000000000000 ≤ decimalValue digits then none
  else some (decimalValue digits, t.drop digits.length)

end PatternAlgebra.Text
