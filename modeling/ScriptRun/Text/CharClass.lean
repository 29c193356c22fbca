import ScriptRun.Text.Basic
import ScriptRun.Text.HiddenRanges
import ScriptRun.Text.Ranges
import ScriptRun.Text.WordRanges

/-!
# Classes of characters

Blanks, decimal digits, word characters and visible characters of the whole of Unicode, and the
comparison of letters without regard to case. Beyond ASCII the word characters and the characters
without a visible form come from tables of ranges.
-/

namespace ScriptRun.Text

/-- White space: the ASCII blanks, the four information separators U+001C to U+001F, U+0085 and the
Unicode spaces and separators. A zero-width space or a byte order mark is not white space. -/
def isBlank (c : Char) : Bool :=
  let n := c.toNat
  (9 ≤ n && n ≤ 13) || (0x1c ≤ n && n ≤ 0x20) || n == 0x85 || n == 0xa0 || n == 0x1680 ||
    (0x2000 ≤ n && n ≤ 0x200a) || n == 0x2028 || n == 0x2029 || n == 0x202f || n == 0x205f ||
    n == 0x3000

/-- The zero digits of the decimal numeral systems from U+0080 on. Each is followed by the digits
one to nine of its system. -/
def zeroDigits : List Nat :=
  [0x660, 0x6f0, 0x7c0, 0x966, 0x9e6, 0xa66, 0xae6, 0xb66, 0xbe6, 0xc66, 0xce6, 0xd66, 0xde6,
   0xe50, 0xed0, 0xf20, 0x1040, 0x1090, 0x17e0, 0x1810, 0x1946, 0x19d0, 0x1a80, 0x1a90, 0x1b50,
   0x1bb0, 0x1c40, 0x1c50, 0xa620, 0xa8d0, 0xa900, 0xa9d0, 0xa9f0, 0xaa50, 0xabf0, 0xff10,
   0x104a0, 0x10d30, 0x11066, 0x110f0, 0x11136, 0x111d0, 0x112f0, 0x11450, 0x114d0, 0x11650,
   0x116c0, 0x11730, 0x118e0, 0x11950, 0x11c50, 0x11d50, 0x11da0, 0x16a60, 0x16ac0, 0x16b50,
   0x1d7ce, 0x1d7d8, 0x1d7e2, 0x1d7ec, 0x1d7f6, 0x1e140, 0x1e2f0, 0x1e950, 0x1fbf0]

/-- The value of a decimal digit of any numeral system. -/
def digitValue? (c : Char) : Option Nat :=
  let n := c.toNat
  if n < 0x80 then
    if 0x30 ≤ n && n ≤ 0x39 then some (n - 0x30) else none
  else
    (zeroDigits.find? fun z => z ≤ n && n ≤ z + 9).map (n - ·)

def isDigit (c : Char) : Bool := (digitValue? c).isSome

/-- Letters, numbers and the underscore. Combining marks are not word characters. -/
def isWord (c : Char) : Bool :=
  let n := c.toNat
  if n < 0x80 then
    (0x30 ≤ n && n ≤ 0x39) || (0x41 ≤ n && n ≤ 0x5a) || (0x61 ≤ n && n ≤ 0x7a) || n == 0x5f
  else inRanges n wordRanges

/-- Characters that show as themselves: the space and all that is not a control, format, private
use or unassigned character or another separator. -/
def isPrintable (c : Char) : Bool :=
  let n := c.toNat
  if n < 0x80 then 0x20 ≤ n && n ≤ 0x7e else !inRanges n hiddenRanges

/-- The characters at which a line ends: the line feed, vertical tab, form feed and carriage
return, U+001C to U+001E, U+0085 and the Unicode line and paragraph separators. -/
def isLineEnd (c : Char) : Bool :=
  let n := c.toNat
  (0x0a ≤ n && n ≤ 0x0d) || (0x1c ≤ n && n ≤ 0x1e) || n == 0x85 || n == 0x2028 || n == 0x2029

/-- The lower-case form of an ASCII letter; every other character is its own. -/
def lowerAscii (c : Char) : Char :=
  if 'A' ≤ c ∧ c ≤ 'Z' then Char.ofNat (c.toNat + 32) else c

/-- Whether a character is the given one without regard to case. Besides the two cases of a letter,
the long s counts as an s, the kelvin sign as a k, and the dotted capital and the dotless small i
as an i. -/
def sameLetter (expected c : Char) : Bool :=
  let e := lowerAscii expected
  lowerAscii c == e ||
    (e == 's' && c.toNat == 0x17f) || (e == 'k' && c.toNat == 0x212a) ||
    (e == 'i' && (c.toNat == 0x130 || c.toNat == 0x131))

/-- The text after a leading part that is compared without regard to case. -/
def dropLeadAnyCase? : Text → Text → Option Text
  | [], t => some t
  | _ :: _, [] => none
  | p :: lead, c :: t => if sameLetter p c then dropLeadAnyCase? lead t else none

def trimStart (t : Text) : Text := t.dropWhile isBlank

def trimEnd (t : Text) : Text := (t.reverse.dropWhile isBlank).reverse

def trim (t : Text) : Text := trimEnd (trimStart t)

/-- The number that a run of decimal digits denotes; a character that is no digit counts as zero. -/
def digitsValue (digits : Text) : Nat :=
  digits.foldl (fun n c => n * 10 + (digitValue? c).getD 0) 0

end ScriptRun.Text
