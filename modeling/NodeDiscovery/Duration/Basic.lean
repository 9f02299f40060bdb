/-! Spans of time and their text. -/
namespace NodeDiscovery

structure Duration where
  nanoseconds : Nat
deriving DecidableEq, Repr

namespace Duration

def ofSeconds (n : Nat) : Duration := ⟨n * 1000000000⟩

/-- `whole` and the fraction `part / scale` in decimal digits, without zeros at the end. -/
def decimal (whole part scale : Nat) : String :=
  let digits := (Nat.toDigits 10 (scale + part)).drop 1
  let digits := (digits.reverse.dropWhile (· = '0')).reverse
  toString whole ++ String.ofList (if digits.isEmpty then [] else '.' :: digits)

/-- The span in the largest unit up to seconds of which it holds a whole one. -/
def text (d : Duration) : String :=
  let n := d.nanoseconds
  if 1000000000 ≤ n then decimal (n / 1000000000) (n % 1000000000) 1000000000 ++ "s"
  else if 1000000 ≤ n then decimal (n / 1000000) (n % 1000000) 1000000 ++ "ms"
  else if 1000 ≤ n then decimal (n / 1000) (n % 1000) 1000 ++ "µs"
  else toString n ++ "ns"

end Duration
end NodeDiscovery
