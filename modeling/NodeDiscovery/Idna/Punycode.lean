/-! Punycode: a label in ASCII. The ASCII characters come first; the others follow as differences,
in the order of their code points, each with its place. -/
namespace NodeDiscovery.Idna.Punycode

/-- Digits of base 36, the letters first. -/
def digitChar (d : Nat) : Char :=
  if d < 26 then Char.ofNat ('a'.toNat + d) else Char.ofNat ('0'.toNat + (d - 26))

def digitValue? (c : Char) : Option Nat :=
  if c.isLower then some (c.toNat - 'a'.toNat)
  else if c.isUpper then some (c.toNat - 'A'.toNat)
  else if c.isDigit then some (c.toNat - '0'.toNat + 26)
  else none

/-- Where a digit ends a number: smaller digits are its last ones. -/
def threshold (bias position : Nat) : Nat :=
  if position ≤ bias then 1 else min 26 (position - bias)

theorem threshold_pos (bias position : Nat) : 0 < threshold bias position := by
  unfold threshold
  split
  · exact Nat.one_pos
  · omega

/-- Divides a difference until it is small. -/
def reduce (position delta : Nat) : Nat × Nat :=
  if 455 < delta then reduce (position + 36) (delta / 35) else (position, delta)
termination_by delta
decreasing_by exact Nat.div_lt_self (by omega) (by omega)

/-- The bias for the next difference, from this one among `count` characters. -/
def adapt (delta count : Nat) (isFirst : Bool) : Nat :=
  let delta := if isFirst then delta / 700 else delta / 2
  let (position, delta) := reduce 0 (delta + delta / count)
  position + 36 * delta / (delta + 38)

/-- The digits of a number, the lowest first. -/
def number (bias position q : Nat) : List Char :=
  let t := threshold bias position
  if q < t then [digitChar q]
  else digitChar (t + (q - t) % (36 - t)) :: number bias (position + 36) ((q - t) / (36 - t))
termination_by q
decreasing_by
  have ht := threshold_pos bias position
  have := Nat.div_le_self (q - threshold bias position) (36 - threshold bias position)
  omega

/-- What is known between two differences: the next code point to write, the distance covered since
the last difference, the bias, and how many characters are written. -/
structure Progress where
  next : Nat
  delta : Nat
  bias : Nat
  written : Nat

/-- Writes the places of one code point in a text. -/
def writePlaces (basic : Nat) (p : Progress) (n : Nat) : List Char → List Char × Progress
  | [] => ([], p)
  | c :: rest =>
    if c.toNat < n then writePlaces basic { p with delta := p.delta + 1 } n rest
    else if c.toNat = n then
      let bias := adapt p.delta (p.written + 1) (p.written == basic)
      let (digits, q) := writePlaces basic ⟨p.next, 0, bias, p.written + 1⟩ n rest
      (number p.bias 36 p.delta ++ digits, q)
    else writePlaces basic p n rest

/-- Writes some code points in turn. -/
def writeAll (cs : List Char) (basic : Nat) (p : Progress) : List Nat → List Char
  | [] => []
  | n :: rest =>
    let start := { p with delta := p.delta + (n - p.next) * (p.written + 1) }
    let (digits, q) := writePlaces basic start n cs
    digits ++ writeAll cs basic { q with next := n + 1, delta := q.delta + 1 } rest

def encode (cs : List Char) : List Char :=
  let basic := cs.filter (· ≤ '\x7f')
  let others := ((cs.filter ('\x7f' < ·)).map Char.toNat).mergeSort.eraseReps
  let start := if basic.isEmpty then [] else basic ++ ['-']
  start ++ writeAll cs basic.length ⟨128, 0, 72, basic.length⟩ others

/-- A text half read: its characters so far, the latest code point, the place for the next one, and
the number begun. -/
structure Reading where
  text : List Char
  latest : Nat
  place : Nat
  start : Nat
  weight : Nat
  position : Nat
  bias : Nat

/-- Reads one more digit. A number that is complete puts a character in its place. -/
def Reading.add (r : Reading) (digit : Nat) : Option Reading :=
  let place := r.place + digit * r.weight
  let t := threshold r.bias r.position
  if t ≤ digit then
    some { r with place, weight := r.weight * (36 - t), position := r.position + 36 }
  else
    let count := r.text.length + 1
    let n := r.latest + place / count
    if h : n.isValidChar then
      some {
        text := r.text.insertIdx (place % count) (Char.ofNatAux n h)
        latest := n
        place := place % count + 1
        start := place % count + 1
        weight := 1
        position := 36
        bias := adapt (place - r.start) count (r.start == 0) }
    else none

def decodeFrom (r : Reading) : List Char → Option (List Char)
  | [] => if r.position = 36 then some r.text else none
  | c :: rest => do decodeFrom (← r.add (← digitValue? c)) rest

/-- The text that is written so. A dash that ends the ASCII characters has some in front of it. -/
def decode? (cs : List Char) : Option (List Char) :=
  let digits := (cs.reverse.takeWhile (· ≠ '-')).reverse
  let basic := cs.take (cs.length - digits.length - 1)
  if digits.length < cs.length && basic.isEmpty then none
  else if basic.all (· ≤ '\x7f') then decodeFrom ⟨basic, 128, 0, 0, 1, 36, 72⟩ digits
  else none

end NodeDiscovery.Idna.Punycode
