/-! Reading whole numbers. A sign and leading zeros are allowed; the digits are read from the
left, and the first thing wrong decides. -/

namespace GameServer.Text

inductive NumberFault
  | empty
  | invalidDigit
  | tooLarge
  | tooSmall
  deriving DecidableEq

def NumberFault.message : NumberFault → String
  | .empty => "cannot parse integer from empty string"
  | .invalidDigit => "invalid digit found in string"
  | .tooLarge => "number too large to fit in target type"
  | .tooSmall => "number too small to fit in target type"

def digit? (c : Char) : Option Nat :=
  if '0' ≤ c ∧ c ≤ '9' then some (c.toNat - '0'.toNat) else none

/-- Reads digits behind a number that is `value` so far and may be `bound` at most. -/
def readDigits (bound : Nat) (excess : NumberFault) : (value : Nat) → List Char →
    Except NumberFault Nat
  | value, [] => .ok value
  | value, c :: rest =>
    match digit? c with
    | none => .error .invalidDigit
    | some digit =>
      if 10 * value + digit ≤ bound then readDigits bound excess (10 * value + digit) rest
      else .error excess

/-- Reads a number from `-low` to `high`. Where no number is below zero, a minus is no sign. -/
def readInteger (low high : Nat) : List Char → Except NumberFault Int
  | [] => .error .empty
  | ['+'] | ['-'] => .error .invalidDigit
  | '+' :: digits => (fun n : Nat => (n : Int)) <$> readDigits high .tooLarge 0 digits
  | '-' :: digits =>
    if low = 0 then .error .invalidDigit
    else (fun n : Nat => -(n : Int)) <$> readDigits low .tooSmall 0 digits
  | digits => (fun n : Nat => (n : Int)) <$> readDigits high .tooLarge 0 digits

end GameServer.Text
