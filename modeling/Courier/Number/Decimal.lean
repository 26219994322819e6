import Courier.Number.Power
/-
Whole numbers in decimal: the digits of a natural number, and reading an
optionally signed run of digits back within given bounds.
-/

namespace Courier.Number

/-- The digit of a number below ten. -/
def digitChar (d : Nat) : Char := Char.ofNat (48 + d)

/-- The value of an ASCII digit. -/
def digit? (c : Char) : Option Nat :=
  if '0' ≤ c ∧ c ≤ '9' then some (c.toNat - 48) else none

/-- Whether a character is an ASCII digit. -/
def isDigit (c : Char) : Bool := (digit? c).isSome

/-- The decimal digits of a number, the leading one first. -/
def digits (n : Nat) : List Char :=
  if n < 10 then [digitChar n] else digits (n / 10) ++ [digitChar (n % 10)]
termination_by n
decreasing_by omega

/-- A whole number in decimal, with a minus sign if it is negative. -/
def decimal : Int → List Char
  | .ofNat n => digits n
  | .negSucc n => '-' :: digits (n + 1)

/-- A whole number in decimal as a string. -/
def text (n : Int) : String := String.ofList (decimal n)

/-- The value of digits read after a number `acc`; no value if some character is no digit. -/
def readDigits (acc : Nat) : List Char → Option Nat
  | [] => some acc
  | c :: r =>
    match digit? c with
    | some d => readDigits (acc * 10 + d) r
    | none => none

/-- A natural number: at least one digit, and nothing but digits. -/
def nat? : List Char → Option Nat
  | [] => none
  | cs => readDigits 0 cs

/-- A whole number with an optional sign. -/
def int? : List Char → Option Int
  | '-' :: r => (nat? r).map fun n => -(n : Int)
  | '+' :: r => (nat? r).map fun n => (n : Int)
  | r => (nat? r).map fun n => (n : Int)

/-- A whole number with an optional sign that lies between two bounds. -/
def intWithin? (lo hi : Int) (cs : List Char) : Option Int :=
  match int? cs with
  | some n => if lo ≤ n ∧ n ≤ hi then some n else none
  | none => none

/-- A natural number with an optional plus sign, not above a bound. -/
def natWithin? (hi : Nat) (cs : List Char) : Option Nat :=
  let body := match cs with
    | '+' :: r => r
    | r => r
  match nat? body with
  | some n => if n ≤ hi then some n else none
  | none => none

theorem digit?_digitChar {d : Nat} (h : d < 10) : digit? (digitChar d) = some d := by
  revert d; decide

theorem readDigits_append (acc : Nat) (xs ys : List Char) :
    readDigits acc (xs ++ ys) = (readDigits acc xs).bind fun n => readDigits n ys := by
  induction xs generalizing acc with
  | nil => rfl
  | cons c r ih =>
    simp only [List.cons_append, readDigits]
    cases digit? c with
    | none => rfl
    | some d => exact ih _

/-- The digits of a number read back as the number. -/
theorem readDigits_digits (n : Nat) : readDigits 0 (digits n) = some n := by
  induction n using digits.induct with
  | case1 n h => rw [digits, if_pos h]; simp [readDigits, digit?_digitChar h]
  | case2 n h ih =>
    rw [digits, if_neg h, readDigits_append, ih]
    simp only [Option.bind_some, readDigits, digit?_digitChar (Nat.mod_lt n (by omega : 0 < 10))]
    congr 1; omega

end Courier.Number
