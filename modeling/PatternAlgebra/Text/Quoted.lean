import PatternAlgebra.Text.Category
import PatternAlgebra.Text.Number

/-!
# Quoted text

A text between double quotes in which everything invisible is written with a backslash: the
usual short escapes, and the code point in hexadecimal for every other character that does not
print or that extends the one before it.
-/
namespace PatternAlgebra.Text

/-- Characters that print: all but controls, formats, separators other than the blank, and code
points without an assigned character. -/
def isPrinting (c : Char) : Bool :=
  let k := Category.ofChar c
  c == ' ' || !(k.isOther || k.isSeparator)

/-- Characters with the Grapheme_Extend property that are not nonspacing or enclosing marks, as in
version 16 of the Unicode character database. -/
def otherExtenders : List (Nat × Nat) :=
  [(0x9be, 0x9be), (0x9d7, 0x9d7), (0xb3e, 0xb3e), (0xb57, 0xb57), (0xbbe, 0xbbe), (0xbd7, 0xbd7),
   (0xcc0, 0xcc0), (0xcc2, 0xcc2), (0xcc7, 0xcc8), (0xcca, 0xccb), (0xcd5, 0xcd6), (0xd3e, 0xd3e),
   (0xd57, 0xd57), (0xdcf, 0xdcf), (0xddf, 0xddf), (0x1715, 0x1715), (0x1734, 0x1734),
   (0x1b35, 0x1b35), (0x1b3b, 0x1b3b), (0x1b3d, 0x1b3d), (0x1b43, 0x1b44), (0x1baa, 0x1baa),
   (0x1bf2, 0x1bf3), (0x200c, 0x200c), (0x302e, 0x302f), (0xa953, 0xa953), (0xa9c0, 0xa9c0),
   (0xff9e, 0xff9f), (0x111c0, 0x111c0), (0x11235, 0x11235), (0x1133e, 0x1133e),
   (0x1134d, 0x1134d), (0x11357, 0x11357), (0x113b8, 0x113b8), (0x113c2, 0x113c2),
   (0x113c5, 0x113c5), (0x113c7, 0x113c9), (0x113cf, 0x113cf), (0x114b0, 0x114b0),
   (0x114bd, 0x114bd), (0x115af, 0x115af), (0x116b6, 0x116b6), (0x11930, 0x11930),
   (0x1193d, 0x1193d), (0x11f41, 0x11f41), (0x16ff0, 0x16ff1), (0x1d165, 0x1d166),
   (0x1d16d, 0x1d172), (0xe0020, 0xe007f)]

/-- Characters that extend the one before them. -/
def isExtender (c : Char) : Bool :=
  let k := Category.ofChar c
  k == .nonspacingMark || k == .enclosingMark ||
    otherExtenders.any fun (lo, hi) => lo ≤ c.toNat && c.toNat ≤ hi

def quoteChar (c : Char) : Text :=
  match c with
  | '\x00' => ['\\', '0']
  | '\t' => ['\\', 't']
  | '\r' => ['\\', 'r']
  | '\n' => ['\\', 'n']
  | '\\' => ['\\', '\\']
  | '"' => ['\\', '"']
  | c =>
    if isPrinting c && !isExtender c then [c]
    else "\\u\x7b".toList ++ hex c.toNat ++ "\x7d".toList

def quote (t : Text) : Text := '"' :: t.flatMap quoteChar ++ ['"']

end PatternAlgebra.Text
