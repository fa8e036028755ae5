import PatternAlgebra.Text.Basic
import PatternAlgebra.Text.Category

/-!
# Word characters, digits and white space

The three classes of characters that patterns name most. Each has its ASCII members written out
and takes the rest from the general categories, white space apart, which is a list of its own.
-/
namespace PatternAlgebra

/-- Whether a symbol is a letter in a circle or a square. -/
def isFramedLetter (c : Char) : Bool :=
  ('\u24b6' ≤ c && c ≤ '\u24e9') ||
    (0x1f130 ≤ c.toNat && c.toNat ≤ 0x1f189 && (c.toNat - 0x1f130) % 32 < 26)

/-- Letters, also framed ones, marks, decimal digits, letter numbers, connectors and the two
joiners. -/
def isWordChar (c : Char) : Bool :=
  if c.toNat < 128 then c.isAlphanum || c == '_'
  else
    let k := Category.ofChar c
    k.isLetter || k.isMark || k == .decimalNumber || k == .letterNumber || k == .connector ||
      isFramedLetter c || c == '\u200c' || c == '\u200d'

def isDigitChar (c : Char) : Bool :=
  if c.toNat < 128 then c.isDigit else Category.ofChar c == .decimalNumber

/-- The characters with the White_Space property. -/
def isSpaceChar (c : Char) : Bool :=
  ('\t' ≤ c && c ≤ '\r') || c == ' ' || c == '\u0085' || c == '\u00a0' || c == '\u1680' ||
    ('\u2000' ≤ c && c ≤ '\u200a') || c == '\u2028' || c == '\u2029' || c == '\u202f' ||
    c == '\u205f' || c == '\u3000'

end PatternAlgebra
