import NodeDiscovery.Shell.Text
import NodeDiscovery.Text.Numeral

/-! Whole numbers in texts, as the commands of a shell read them. -/
namespace NodeDiscovery.Shell
open NodeDiscovery.Text (hexValue?)

/-- The least and the greatest number of 64 bits with a sign. -/
def leastNumber : Int := -9223372036854775808

def greatestNumber : Int := 9223372036854775807

def clampNumber (k : Int) : Int := max leastNumber (min greatestNumber k)

def digitsOf (base : Nat) (t : Text) : Text :=
  t.takeWhile fun c => (hexValue? c).any (· < base)

def valueOfDigits (base : Nat) (digits : Text) : Nat :=
  digits.foldl (fun n c => base * n + (hexValue? c).getD 0) 0

/-- The number at the beginning of a text, and what comes after it. With base zero the digits begin
with `0x` for hexadecimal and with `0` for octal ones. -/
def scanNatural (base : Nat) (t : Text) : Option (Nat × Text) :=
  let scan (base : Nat) (t : Text) : Option (Nat × Text) :=
    let digits := digitsOf base t
    if digits.isEmpty then none else some (valueOfDigits base digits, t.drop digits.length)
  match base, t with
  | 0, '0' :: x :: rest =>
    if x = 'x' || x = 'X' then (scan 16 rest).or (some (0, x :: rest)) else scan 8 t
  | 0, _ => scan 10 t
  | _, _ => scan base t

/-- The same with blanks and a sign before it. -/
def scanInteger (base : Nat) (t : Text) : Option (Int × Text) :=
  match t.dropWhile isSpace with
  | '-' :: rest => (scanNatural base rest).map fun (n, rest) => (-(n : Int), rest)
  | '+' :: rest => (scanNatural base rest).map fun (n, rest) => ((n : Int), rest)
  | rest => (scanNatural base rest).map fun (n, rest) => ((n : Int), rest)

/-- The number of 64 bits that a whole text stands for; blanks may stand around it. In a text of
base zero nothing stands for zero. -/
def integer? (base : Nat) (t : Text) : Option Int :=
  match scanInteger base t with
  | none => if base = 0 && t.all isSpace then some 0 else none
  | some (k, rest) => if rest.all isSpace && clampNumber k = k then some k else none

def count? (t : Text) : Option Nat :=
  (integer? 10 t).bind fun k => if 0 ≤ k && k < 2147483648 then some k.toNat else none

def natural? (t : Text) : Option Nat :=
  if !t.isEmpty && t.all Char.isDigit then some (valueOfDigits 10 t) else none

def textOfNat (n : Nat) : Text := (toString n).toList

def textOfInt (k : Int) : Text := (toString k).toList

end NodeDiscovery.Shell
