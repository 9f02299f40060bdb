import NodeDiscovery.Shell.Double
import NodeDiscovery.Shell.Escape
import NodeDiscovery.Shell.Machine

/-! Formats: a text with places in it where arguments are written. -/
namespace NodeDiscovery.Shell

structure Conversion where
  leftAligned : Bool := false
  zeroFilled : Bool := false
  plus : Bool := false
  space : Bool := false
  alternate : Bool := false
  width : Option Nat := none
  precision : Option Nat := none
  letter : Char := 's'

namespace Conversion

def pad (c : Conversion) (t : Text) : Text :=
  let gap := List.replicate (c.width.getD 0 - t.length) ' '
  if c.leftAligned then t ++ gap else gap ++ t

def number (c : Conversion) (lead digits : Text) (mayFill : Bool) : Text :=
  let digits :=
    if c.zeroFilled && !c.leftAligned && mayFill then
      List.replicate (c.width.getD 0 - lead.length - digits.length) '0' ++ digits
    else digits
  c.pad (lead ++ digits)

/-- The digits of a whole number; where no digit has to be written, zero has none. -/
def digits (c : Conversion) (base n : Nat) : Text :=
  let digits := if n = 0 && c.precision = some 0 then [] else Nat.toDigits base n
  List.replicate (c.precision.getD 1 - digits.length) '0' ++ digits

def sign (c : Conversion) (isNegative : Bool) : Text :=
  if isNegative then ['-'] else if c.plus then ['+'] else if c.space then [' '] else []

def signedNumber (c : Conversion) (k : Int) : Text :=
  c.number (c.sign (k < 0)) (c.digits 10 k.natAbs) c.precision.isNone

def unsignedNumber (c : Conversion) (n : Nat) : Text :=
  match c.letter with
  | 'o' =>
    let digits := c.digits 8 n
    let digits := if c.alternate && digits.head? != some '0' then '0' :: digits else digits
    c.number [] digits c.precision.isNone
  | 'x' =>
    c.number (if c.alternate && n != 0 then ['0', 'x'] else []) (c.digits 16 n) c.precision.isNone
  | 'X' =>
    c.number (if c.alternate && n != 0 then ['0', 'X'] else [])
      ((c.digits 16 n).map Char.toUpper) c.precision.isNone
  | _ => c.number [] (c.digits 10 n) c.precision.isNone

def floatNumber (c : Conversion) (d : Double) : Text :=
  let t := d.text c.letter c.alternate c.precision
  let (lead, t) := match t with
    | '0' :: 'x' :: rest => (c.sign d.isNegative ++ ['0', 'x'], rest)
    | t => (c.sign d.isNegative, t)
  let t := c.number lead t d.isFinite
  if c.letter.isUpper then t.map Char.toUpper else t

def cut (c : Conversion) (t : Text) : Text :=
  match c.precision with
  | some n => t.take n
  | none => t

def setFlag (c : Conversion) : Char → Option Conversion
  | '-' => some { c with leftAligned := true }
  | '0' => some { c with zeroFilled := true }
  | '+' => some { c with plus := true }
  | ' ' => some { c with space := true }
  | '#' => some { c with alternate := true }
  | _ => none

def readFlags (c : Conversion) : Text → Conversion × Text
  | [] => (c, [])
  | f :: rest =>
    match c.setFlag f with
    | some c => readFlags c rest
    | none => (c, f :: rest)

end Conversion

structure Printing where
  arguments : List Text
  /-- Whether an argument was asked for. -/
  hasUsed : Bool
  /-- Whether an argument was no number. -/
  hasFailed : Bool

abbrev Printer := StateT Printing Machine

namespace Printer

def next? : Printer (Option Text) := do
  let s ← get
  match s.arguments with
  | [] => return none
  | t :: rest =>
    set { s with arguments := rest, hasUsed := true }
    return some t

def complain (t : Text) (reason : String) : Printer Unit := do
  Machine.warn (t ++ (": " ++ reason).toList)
  modify fun s => { s with hasFailed := true }

def check (t rest : Text) (isOutside : Bool) : Printer Unit := do
  if !rest.isEmpty then
    complain t (if rest.length = t.length then "expected numeric value"
      else "not completely converted")
  else if isOutside then complain t "Numerical result out of range"

/-- The code of the character after a quote. -/
def quoted? : Text → Option Nat
  | '\'' :: rest | '\"' :: rest => some ((rest.head?.map Char.toNat).getD 0)
  | _ => none

def nextNumber (least greatest : Int) : Printer Int := do
  match ← next? with
  | none => return 0
  | some t =>
    match quoted? t with
    | some n => return n
    | none =>
      let (k, rest) := (scanInteger 0 t).getD (0, t)
      let inside := max least (min greatest k)
      check t rest (inside ≠ k)
      return inside

def nextSigned : Printer Int := nextNumber leastNumber greatestNumber

/-- The next argument as a word of 64 bits; negative ones wrap around. -/
def nextUnsigned : Printer Nat := do
  let greatest := 18446744073709551615
  let k ← nextNumber (-greatest - 1) greatest
  return if k < -greatest then greatest.toNat else (UInt64.ofInt k).toNat

def nextDouble : Printer Double := do
  match ← next? with
  | none => return .zero
  | some t =>
    match quoted? t with
    | some n => return .ofFraction false n 1
    | none =>
      let (d, rest) := (Double.scan t).getD (.zero, t)
      check t rest ((d matches .infinite _) && t.any Char.isDigit)
      return d

/-- A width or precision: digits, or a star for the next argument. -/
def readSize : Text → Printer (Option Int × Text)
  | '*' :: rest => return (some (← nextSigned), rest)
  | t => return ((natural? (t.takeWhile Char.isDigit)).map Int.ofNat, t.dropWhile Char.isDigit)

/-- Writes what a conversion stands for, and says whether the output goes on. -/
def convert (c : Conversion) (directive : Text) : Printer Bool := do
  match c.letter with
  | 's' => Machine.emit (c.pad (c.cut ((← next?).getD [])))
  | 'c' => Machine.emit (c.pad [((← next?).getD []).head?.getD '\x00'])
  | 'b' =>
    let (t, ended) := unescape ((← next?).getD [])
    Machine.emit (c.pad (c.cut t))
    if ended then return false
  | 'd' | 'i' => Machine.emit (c.signedNumber (← nextSigned))
  | 'o' | 'u' | 'x' | 'X' => Machine.emit (c.unsignedNumber (← nextUnsigned))
  | 'a' | 'A' | 'e' | 'E' | 'f' | 'F' | 'g' | 'G' => Machine.emit (c.floatNumber (← nextDouble))
  | _ => Machine.fail (directive ++ ": invalid directive".toList)
  return true

/-- Writes what the text after a percent sign stands for. The rest of the format comes out, unless
the output ends here. -/
def readConversion (t : Text) : Printer (Option Text) := do
  let (c, rest) := Conversion.readFlags {} t
  let (width, rest) ← readSize rest
  let c := match width with
    | some k => { c with width := some k.natAbs, leftAligned := c.leftAligned || k < 0 }
    | none => c
  let (c, rest) ← match rest with
    | '.' :: rest => do
      let (precision, rest) ← readSize rest
      let precision := precision.getD 0
      pure ({ c with precision := if precision < 0 then none else some precision.toNat }, rest)
    | rest => pure (c, rest)
  match rest with
  | [] => Machine.failWith "missing format character"
  | letter :: rest =>
    let directive := '%' :: t.take (t.length - rest.length)
    return if ← convert { c with letter } directive then some rest else none

/-- Goes through a format once; the number bounds its length. It says whether the output goes on. -/
def printOnce : Nat → Text → Printer Bool
  | 0, _ | _, [] => return true
  | n + 1, '%' :: '%' :: rest => do
    Machine.emit ['%']
    printOnce n rest
  | n + 1, '%' :: rest => do
    match ← readConversion rest with
    | some rest => printOnce n rest
    | none => return false
  | n + 1, '\\' :: rest => do
    let (c, rest) := readEscape rest
    Machine.emit [c]
    printOnce n rest
  | n + 1, c :: rest => do
    Machine.emit [c]
    printOnce n rest

/-- Goes through a format as long as it uses up arguments; the number bounds these. -/
def printAll (format : Text) : Nat → Printer Unit
  | 0 => pure ()
  | n + 1 => do
    let goesOn ← printOnce (format.length + 1) format
    let s ← get
    if goesOn && s.hasUsed && !s.arguments.isEmpty then printAll format n

end Printer

def printf (format : Text) (arguments : List Text) : Machine Unit := do
  let ((), s) ← (Printer.printAll format (arguments.length + 1)).run ⟨arguments, false, false⟩
  Machine.setStatus (if s.hasFailed then 1 else 0)

end NodeDiscovery.Shell
