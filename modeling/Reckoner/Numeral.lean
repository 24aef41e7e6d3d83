/-!
# Decimal numerals of natural numbers

Writing a natural number with decimal digits, reading digits back, and counting them. Long numbers
are written by halving their width, so that a numeral of a million digits takes few long divisions.
A quotient of natural numbers is rounded to the nearest one, and a tie goes to the even one.
-/

namespace Reckoner

namespace Numeral

/-- The digit of a value below ten. -/
def digitChar (d : Nat) : Char := Char.ofNat (48 + d)

/-- The `width` low digits of `n`, written in front of `tail`. -/
def lowDigits : Nat → Nat → List Char → List Char
  | 0, _, tail => tail
  | width + 1, n, tail => lowDigits width (n / 10) (digitChar (n % 10) :: tail)

/-- The `width` low digits of `n`, with zeros in front where `n` is shorter. -/
def padded (width n : Nat) : List Char :=
  if width ≤ 32 then lowDigits width n []
  else
    let unit := Nat.pow 10 (width / 2)
    padded (width - width / 2) (n / unit) ++ padded (width / 2) (n % unit)
termination_by width

/-- The least `k ≥ start` with `n < 10 ^ k`. -/
def widthFrom (n start : Nat) : Nat :=
  if h : n < Nat.pow 10 start then start
  else
    have : start < n :=
      Nat.lt_of_lt_of_le (Nat.lt_pow_self (by omega)) (Nat.le_of_not_lt h)
    widthFrom n (start + 1)
termination_by n - start

/-- How many digits the numeral of `n` has. The search starts just below the answer: 643 / 2136 is
less than the common logarithm of two, so `10 ^ (log2 n * 643 / 2136) ≤ n`. -/
def digitCount (n : Nat) : Nat := max 1 (widthFrom n (n.log2 * 643 / 2136))

/-- The numeral of `n`, with no zero in front. -/
def digits (n : Nat) : List Char := padded (digitCount n) n

/-- The numeral of an integer, with a minus before a negative one. -/
def signed : Int → List Char
  | .ofNat n => digits n
  | .negSucc n => '-' :: digits (n + 1)

/-- The number that a list of digit values denotes, the highest first. -/
def ofDigits (ds : List Nat) : Nat := ds.foldl (fun value d => 10 * value + d) 0

/-- The number that the decimal digits of a text denote; other characters are passed over. -/
def ofChars (value? : Char → Option Nat) (cs : List Char) : Nat := ofDigits (cs.filterMap value?)

end Numeral

/-- `n / d` to the nearest integer, a tie to the even one. -/
def roundQuotient (n d : Nat) : Nat :=
  let quotient := n / d
  let rest := n % d
  if 2 * rest < d then quotient
  else if d < 2 * rest then quotient + 1
  else quotient + quotient % 2

end Reckoner
