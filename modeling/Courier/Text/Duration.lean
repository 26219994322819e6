import Courier.Number.Decimal
/-
Lengths of time in billionths of a second. In messages a length is written in
the greatest unit of which it has at least one, with as many decimal places as
it needs.
-/

namespace Courier

structure Duration where
  nanos : Nat
  deriving DecidableEq, Repr, Inhabited

namespace Duration

def ofMillis (ms : Nat) : Duration := ⟨ms * 1000000⟩

def ofSeconds (s : Nat) : Duration := ⟨s * 1000000000⟩

/-- The whole thousandths of a second. -/
def millis (d : Duration) : Nat := d.nanos / 1000000

/-- The digits after the point of `n` parts, `10^places` of which make a unit, without zeros at the end. -/
def fractionDigits (places n : Nat) : List Char :=
  let ds := Number.digits n
  let all := List.replicate (places - ds.length) '0' ++ ds
  (all.reverse.dropWhile (· = '0')).reverse

/-- A number of units of `10^places` billionths. -/
def inUnit (n places : Nat) (unit : String) : String :=
  let fraction := fractionDigits places (n % 10 ^ places)
  String.ofList (Number.digits (n / 10 ^ places) ++ (if fraction.isEmpty then [] else '.' :: fraction)) ++ unit

/-- A length of time as messages show it. -/
def text (d : Duration) : String :=
  if 1000000000 ≤ d.nanos then inUnit d.nanos 9 "s"
  else if 1000000 ≤ d.nanos then inUnit d.nanos 6 "ms"
  else if 1000 ≤ d.nanos then inUnit d.nanos 3 "µs"
  else inUnit d.nanos 0 "ns"

end Duration
end Courier
