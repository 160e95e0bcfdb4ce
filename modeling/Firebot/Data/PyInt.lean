/-!
# `int` of a text

`int(text)` of Python 3.12: white space around the number, a sign, and decimal digits of any script with single
underscores between them. More than 4300 digits are refused. What `int` skips as white space is less than what
`str.strip` takes away (`isIntSpace`).
-/

namespace Firebot

/-- `c.isspace()`. -/
def isSpace (c : Char) : Bool :=
  let n := c.toNat
  (9 ≤ n && n ≤ 13) || (0x1c ≤ n && n ≤ 0x20) || n == 0x85 || n == 0xa0 || n == 0x1680 ||
    (0x2000 ≤ n && n ≤ 0x200a) || n == 0x2028 || n == 0x2029 || n == 0x202f || n == 0x205f || n == 0x3000

/-- White space to `int`, which raises at U+001C to U+001F: of ASCII it skips what `isspace` of C names. -/
def isIntSpace (c : Char) : Bool := isSpace c && !(0x1c ≤ c.toNat && c.toNat ≤ 0x1f)

/-- The zeros of the scripts that have decimal digits. The digits of a script follow one another. -/
def zeros : List Nat :=
  [0x30, 0x660, 0x6f0, 0x7c0, 0x966, 0x9e6, 0xa66, 0xae6, 0xb66, 0xbe6, 0xc66, 0xce6, 0xd66, 0xde6, 0xe50,
    0xed0, 0xf20, 0x1040, 0x1090, 0x17e0, 0x1810, 0x1946, 0x19d0, 0x1a80, 0x1a90, 0x1b50, 0x1bb0, 0x1c40,
    0x1c50, 0xa620, 0xa8d0, 0xa900, 0xa9d0, 0xa9f0, 0xaa50, 0xabf0, 0xff10, 0x104a0, 0x10d30, 0x11066,
    0x110f0, 0x11136, 0x111d0, 0x112f0, 0x11450, 0x114d0, 0x11650, 0x116c0, 0x11730, 0x118e0, 0x11950,
    0x11c50, 0x11d50, 0x11da0, 0x11f50, 0x16a60, 0x16ac0, 0x16b50, 0x1d7ce, 0x1d7d8, 0x1d7e2, 0x1d7ec,
    0x1d7f6, 0x1e140, 0x1e2f0, 0x1e4f0, 0x1e950, 0x1fbf0]

/-- The value of a decimal digit. -/
def digitValue (c : Char) : Option Nat :=
  (zeros.find? fun first => first ≤ c.toNat && c.toNat < first + 10).map fun first => c.toNat - first

/-- The number that digits make; `afterDigit` says that an underscore or the end may follow. -/
def readDigits (value : Nat) (afterDigit : Bool) : List Char → Option Nat
  | [] => if afterDigit then some value else none
  | c :: text =>
    if c = '_' then if afterDigit then readDigits value false text else none
    else
      match digitValue c with
      | some digit => readDigits (value * 10 + digit) true text
      | none => none

/-- A text without the white space around it. -/
def trim (space : Char → Bool) (text : List Char) : List Char :=
  ((text.dropWhile space).reverse.dropWhile space).reverse

/-- `text.strip()`. -/
def strip (text : List Char) : List Char := trim isSpace text

/-- `int(text)`; `none` where it raises a `ValueError`. -/
def pyInt (text : List Char) : Option Int :=
  let number := trim isIntSpace text
  if 4300 < (number.filter fun c => (digitValue c).isSome).length then none
  else
    match number with
    | '+' :: digits => (readDigits 0 false digits).map Int.ofNat
    | '-' :: digits => (readDigits 0 false digits).map fun n => -Int.ofNat n
    | digits => (readDigits 0 false digits).map Int.ofNat

end Firebot
