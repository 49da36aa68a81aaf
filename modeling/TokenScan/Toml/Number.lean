import TokenScan.Toml.Text

/-!
# Numbers

Integers and floating-point numbers as they are written in a configuration file. Digits may be
grouped by single underscores. An integer in decimal may have a sign and has no leading zero; in
the bases 16, 8 and 2 it has neither. Every integer fits into 64 bits, with one of them for the
sign.

Nothing here computes with floating-point numbers, so they are kept as they are spelled. One that
is too large is refused all the same, and `tooLarge` decides it exactly, in whole numbers: a double
holds at most $2^{1024} - 2^{971}$, and what is at least half a unit above that rounds to infinity.

## Main definitions

* `integer` — an integer
* `float` — a floating-point number
-/

namespace TokenScan.Toml

/-- Reads digits of a base, grouped by underscores or not. -/
def digits (base : Nat) : Reader (List Nat) := do
  let first ← digit base
  let others ← many (maybe (mark '_') *> digit base)
  return first :: others

/-- Reads digits without a leading zero. -/
def wholeDigits : Reader (List Nat) := do
  let value ← digits 10
  match value with
  | 0 :: _ :: _ => failure
  | _ => return value

/-- Reads a sign, or none, and says whether it is a minus. -/
def sign : Reader Bool := mark '-' *> pure true <|> mark '+' *> pure false <|> pure false

/-! ### Integers -/

/-- The smallest power of two that is too large for an integer. -/
def integerLimit : Nat := 0x8000000000000000

/-- Reads an integer in decimal. -/
def decimalInteger : Reader Int := do
  let negative ← sign
  let value := positional 10 (← wholeDigits)
  guard (value < integerLimit ∨ (negative ∧ value = integerLimit))
  return if negative then -value else value

/-- Reads an integer in another base, behind the mark of the base. -/
def markedInteger (start : String) (base : Nat) : Reader Int := do
  word start
  let value := positional base (← digits base)
  guard (value < integerLimit)
  return value

/-- Reads an integer. -/
def integer : Reader Int :=
  markedInteger "0x" 16 <|> markedInteger "0o" 8 <|> markedInteger "0b" 2 <|> decimalInteger

/-! ### Floating-point numbers -/

/-- Whether a number, `mantissa` times ten to the `exponent`, rounds to infinity. The number of
its digits decides it far from the limit, so no power is larger than that needs. -/
def tooLarge (mantissa : Nat) (exponent : Int) : Bool :=
  let length : Int := (Nat.toDigits 10 mantissa).length
  let limit := (Nat.pow 2 54 - 1) * Nat.pow 2 970
  if mantissa = 0 ∨ exponent + length < 309 then false
  else if 310 ≤ exponent + length then true
  else if 0 ≤ exponent then limit ≤ mantissa * Nat.pow 10 exponent.toNat
  else limit * Nat.pow 10 (-exponent).toNat ≤ mantissa

/-- Reads the part of a number behind the point. -/
def fraction : Reader (List Nat) := mark '.' *> digits 10

/-- Reads an exponent. -/
def exponent : Reader Int := do
  mark 'e' <|> mark 'E'
  let negative ← sign
  let value := positional 10 (← digits 10)
  return if negative then -value else value

/-- Reads a floating-point number with digits: it has a point or an exponent, or both. -/
def decimalFloat : Reader Unit := do
  let negative ← sign
  let whole ← wholeDigits
  let (behind, power) ← (do
      let behind ← fraction
      let power ← maybe exponent
      return (behind, power.getD 0)) <|> (do return ([], ← exponent))
  guard (negative || !tooLarge (positional 10 (whole ++ behind)) (power - behind.length))

/-- Reads a number that has no digits. -/
def specialFloat : Reader Unit := do
  let _ ← sign
  word "inf" <|> word "nan"

/-- Reads a floating-point number and returns how it is spelled. -/
def float : Reader String := spelling (decimalFloat <|> specialFloat)

end TokenScan.Toml
