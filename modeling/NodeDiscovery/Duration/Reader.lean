import NodeDiscovery.Duration.Basic
import NodeDiscovery.Text.Blank
import NodeDiscovery.Text.Numeral
import NodeDiscovery.Text.Quoted

/-! Reading spans of time such as `1h 30m` or `1.5s`: numbers with units, which add up. -/
namespace NodeDiscovery.Duration
open NodeDiscovery.Text

/-- What is wrong with the text of a span. Offsets count bytes. -/
inductive Fault
  | empty
  | numberExpected (offset : Nat)
  | invalidCharacter (offset : Nat)
  | unknownUnit (unit : String) (value : Nat)
  | overflow
deriving DecidableEq, Repr

def Fault.message : Fault → String
  | empty => "value was empty"
  | numberExpected offset => "expected number at " ++ toString offset
  | invalidCharacter offset => "invalid character at " ++ toString offset
  | unknownUnit unit value =>
    if unit = "" then
      let value := toString value
      "time unit needed, for example " ++ value ++ "sec or " ++ value ++ "ms"
    else "unknown time unit " ++ quoted unit ++ ", supported units: ns, us/µs, ms, sec, min, " ++
      "hours, days, weeks, months, years (and few variations)"
  | overflow => "number is too large or cannot be represented without a lack of precision " ++
      "(values below 1ns are not supported)"

/-- A unit is a number of nanoseconds. Fractions of it are counted in grains: a second, or a
nanosecond. -/
structure Unit where
  nanoseconds : Nat
  grain : Nat
deriving DecidableEq, Repr

def second : Nat := 1000000000

def unit? : String → Option Unit
  | "nanos" | "nsec" | "ns" => some ⟨1, 1⟩
  | "usec" | "us" | "µs" => some ⟨1000, 1⟩
  | "millis" | "msec" | "ms" => some ⟨1000000, 1⟩
  | "seconds" | "second" | "secs" | "sec" | "s" => some ⟨second, 1⟩
  | "minutes" | "minute" | "min" | "mins" | "m" => some ⟨60 * second, 1⟩
  | "hours" | "hour" | "hrs" | "hr" | "h" => some ⟨3600 * second, second⟩
  | "days" | "day" | "d" => some ⟨86400 * second, second⟩
  | "weeks" | "week" | "wk" | "wks" | "w" => some ⟨604800 * second, second⟩
  | "months" | "month" | "M" => some ⟨2630016 * second, second⟩
  | "years" | "year" | "yr" | "yrs" | "y" => some ⟨31557600 * second, second⟩
  | _ => none

/-- Counts are kept in words of 64 bits. -/
def word (n : Nat) : Except Fault Nat := if n < UInt64.size then .ok n else .error .overflow

/-- The digits after a decimal point: `numerator / denominator`. -/
structure Fraction where
  numerator : Nat
  denominator : Nat
deriving DecidableEq, Repr

/-- Adds to a span. Its seconds, and the nanoseconds beyond them, each have to fit into a word. -/
def add (total seconds nanoseconds : Nat) : Except Fault Nat := do
  let beyond ← word (total % second + nanoseconds)
  let _ ← word (total / second + seconds + beyond / second)
  return total + seconds * second + nanoseconds

/-- Adds `n` units. Those of a second and more are counted in seconds. -/
def addWhole (unit : Unit) (total n : Nat) : Except Fault Nat := do
  if unit.nanoseconds < second then add total 0 (← word (n * unit.nanoseconds))
  else add total (← word (n * (unit.nanoseconds / second))) 0

/-- Adds a fraction of a unit; it has to be a whole number of grains. -/
def addFraction (unit : Unit) (total : Nat) (f : Fraction) : Except Fault Nat := do
  if unit.nanoseconds = 1 then throw .overflow
  let scaled ← word (f.numerator * (unit.nanoseconds / unit.grain))
  if scaled % f.denominator ≠ 0 then throw .overflow
  let grains := scaled / f.denominator
  if unit.grain = second then add total grains 0 else add total 0 grains

/-- Adds `n` units and a fraction of one. -/
def addUnits (total n : Nat) (fraction : Option Fraction) (name : List Char) :
    Except Fault Nat := do
  let name := String.ofList name
  match unit? name with
  | none => throw (.unknownUnit name n)
  | some unit =>
    let total ← addWhole unit total n
    match fraction with
    | none => return total
    | some f => addFraction unit total f

/-- Where the reader stands. -/
inductive Phase
  /-- Before a number; `first` if there was none yet, and `start` is where the blanks begin. -/
  | gap (first : Bool) (start : Nat)
  | number (n : Nat)
  /-- After the point of a number; a fault here is told to be at `offset`. -/
  | fraction (n : Nat) (f : Fraction) (offset : Nat)
  /-- In the name of a unit, latest letter first. -/
  | unit (n : Nat) (f : Option Fraction) (letters : List Char)

def isUnitLetter (c : Char) : Bool := c.isAlpha || c == 'µ'

/-- Reads on from a phase; `offset` bytes are behind, which sum up to `total`. -/
def readFrom (phase : Phase) (offset total : Nat) (cs : List Char) : Except Fault Nat :=
  match cs with
  | [] =>
    match phase with
    | .gap true _ => .error .empty
    | .gap false _ => .ok total
    | .number n => addUnits total n none []
    | .fraction n f at_ =>
      if f.denominator = 1 then .error (.invalidCharacter at_) else addUnits total n (some f) []
    | .unit n f letters => addUnits total n f letters.reverse
  | c :: rest =>
    let next := offset + c.utf8Size
    match phase with
    | .gap first start =>
      if c.isDigit then readFrom (.number (digitValue c)) next total rest
      else if isBlank c then readFrom (.gap first start) next total rest
      else .error (.numberExpected start)
    | .number n =>
      if c.isDigit then do
        let n ← word (10 * n + digitValue c)
        readFrom (.number n) next total rest
      else if isBlank c then readFrom (.number n) next total rest
      else if isUnitLetter c then readFrom (.unit n none [c]) next total rest
      else if c = '.' then readFrom (.fraction n ⟨0, 1⟩ offset) next total rest
      else .error (.invalidCharacter offset)
    | .fraction n f at_ =>
      if c.isDigit then do
        let denominator ← word (10 * f.denominator)
        let numerator ← word (10 * f.numerator + digitValue c)
        readFrom (.fraction n ⟨numerator, denominator⟩ next) next total rest
      else if isBlank c then readFrom (.fraction n f next) next total rest
      else if isUnitLetter c && f.denominator != 1 then
        readFrom (.unit n (some f) [c]) next total rest
      else .error (.invalidCharacter at_)
    | .unit n f letters =>
      if c.isDigit then do
        let total ← addUnits total n f letters.reverse
        readFrom (.number (digitValue c)) next total rest
      else if isBlank c then do
        let total ← addUnits total n f letters.reverse
        readFrom (.gap false next) next total rest
      else if isUnitLetter c then readFrom (.unit n f (c :: letters)) next total rest
      else .error (.invalidCharacter offset)

/-- The span that a text stands for. A lone zero needs no unit. -/
def read (s : String) : Except Fault Duration :=
  if s = "0" then .ok ⟨0⟩ else (readFrom (.gap true 0) 0 0 s.toList).map Duration.mk

end NodeDiscovery.Duration
