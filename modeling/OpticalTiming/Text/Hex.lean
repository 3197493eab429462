/-!
# Hexadecimal text

Numbers are written with the mark `0x` and lower-case digits: `hex` uses as many digits as the
number needs, `hexPadded` at least a given number of them.
-/

namespace OpticalTiming.Text

/-- The hexadecimal digits of `n`, most significant first; `0` has the one digit `0`. -/
def hexDigits (n : Nat) : List Char := Nat.toDigits 16 n

/-- `0x` and the digits of `n`, without leading zeros. -/
def hex (n : Nat) : String := String.ofList ('0' :: 'x' :: hexDigits n)

/-- `0x` and the digits of `n`, filled up with zeros on the left to at least `width` digits. -/
def hexPadded (width n : Nat) : String :=
  let digits := hexDigits n
  String.ofList ('0' :: 'x' :: List.replicate (width - digits.length) '0' ++ digits)

end OpticalTiming.Text
