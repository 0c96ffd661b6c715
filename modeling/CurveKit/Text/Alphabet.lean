/-!
# Characters of keywords and numbers

Keywords are ASCII, so only letters whose lower case is an ASCII letter matter:
the capitals of ASCII and the kelvin sign. Every other character stays as it is
and can match no keyword.

A run of ten code points, from the zero of a script on, holds its decimal digits.

White space is ignored around a keyword or a number. A keyword may also be
surrounded by the four information separators, a number may not.
-/
namespace CurveKit.Text

/-- The lower case of a letter, as far as it can occur in a keyword. -/
def lower (c : Char) : Char := if c == '\u212a' then 'k' else c.toLower

/-- The zeros of the scripts that have decimal digits, in Unicode 14. -/
def zeros : List Nat := [
  0x30, 0x660, 0x6f0, 0x7c0, 0x966, 0x9e6, 0xa66, 0xae6, 0xb66, 0xbe6, 0xc66, 0xce6, 0xd66, 0xde6,
  0xe50, 0xed0, 0xf20, 0x1040, 0x1090, 0x17e0, 0x1810, 0x1946, 0x19d0, 0x1a80, 0x1a90, 0x1b50,
  0x1bb0, 0x1c40, 0x1c50, 0xa620, 0xa8d0, 0xa900, 0xa9d0, 0xa9f0, 0xaa50, 0xabf0, 0xff10, 0x104a0,
  0x10d30, 0x11066, 0x110f0, 0x11136, 0x111d0, 0x112f0, 0x11450, 0x114d0, 0x11650, 0x116c0,
  0x11730, 0x118e0, 0x11950, 0x11c50, 0x11d50, 0x11da0, 0x16a60, 0x16ac0, 0x16b50, 0x1d7ce,
  0x1d7d8, 0x1d7e2, 0x1d7ec, 0x1d7f6, 0x1e140, 0x1e2f0, 0x1e950, 0x1fbf0]

def digitValue? (c : Char) : Option Nat :=
  (zeros.find? fun z => z ≤ c.toNat && c.toNat < z + 10).map (c.toNat - ·)

/-- White space that may surround a number. -/
def isBlank (c : Char) : Bool :=
  let n := c.toNat
  (9 ≤ n && n ≤ 13) || n == 0x20 || n == 0x85 || n == 0xa0 || n == 0x1680
    || (0x2000 ≤ n && n ≤ 0x200a) || n == 0x2028 || n == 0x2029 || n == 0x202f
    || n == 0x205f || n == 0x3000

/-- White space that may surround a keyword. -/
def isGap (c : Char) : Bool := isBlank c || (0x1c ≤ c.toNat && c.toNat ≤ 0x1f)

/-- The text without the characters of a class on both ends. -/
def trim (ignored : Char → Bool) (cs : List Char) : List Char :=
  ((cs.dropWhile ignored).reverse.dropWhile ignored).reverse

end CurveKit.Text
