import NodeDiscovery.Shell.Number

/-! Floating point numbers of 64 bits: rounded from a text, and written exactly. -/
namespace NodeDiscovery.Shell

/-- A finite one is `significand * 2 ^ exponent`. -/
inductive Double
  | finite (isNegative : Bool) (significand : Nat) (exponent : Int)
  | infinite (isNegative : Bool)
  | nan (isNegative : Bool)
deriving DecidableEq, Repr

/-- A quotient rounded to the nearest number; of two, to the even one. -/
def roundedQuotient (n d : Nat) : Nat :=
  let q := n / d
  let twice := 2 * (n % d)
  if d < twice || (twice = d && q % 2 = 1) then q + 1 else q

/-- The fraction `n / d` times a power of a base. -/
def scaled (base : Nat) (power : Int) (n d : Nat) : Nat × Nat :=
  if 0 ≤ power then (n * Nat.pow base power.toNat, d) else (n, d * Nat.pow base (-power).toNat)

namespace Double

def zero : Double := finite false 0 0

def ofFraction (isNegative : Bool) (n d : Nat) : Double :=
  if n = 0 then finite isNegative 0 0
  else
    let quotient (e : Int) : Nat :=
      let (n, d) := scaled 2 (-e) n d
      n / d
    let guess : Int := (n.log2 : Int) - d.log2 - 52
    let exact := if 0x20000000000000 ≤ quotient guess then guess + 1
      else if quotient guess < 0x10000000000000 then guess - 1 else guess
    let e := max exact (-1074)
    let (n, d) := scaled 2 (-e) n d
    let m := roundedQuotient n d
    let (m, e) := if m = 0x20000000000000 then (0x10000000000000, e + 1) else (m, e)
    if 971 < e then infinite isNegative else finite isNegative m e

/-- The number at the beginning of a text, which may be hexadecimal, and what comes after it. -/
def scanUnsigned (isNegative : Bool) (t : Text) : Option (Double × Text) :=
  let startsWith (s : String) : Bool :=
    s.toList.isPrefixOf ((t.take s.length).map Char.toLower)
  if startsWith "infinity" then some (infinite isNegative, t.drop 8)
  else if startsWith "inf" then some (infinite isNegative, t.drop 3)
  else if startsWith "nan" then some (nan isNegative, t.drop 3)
  else
    let hexadecimal := startsWith "0x" && !(digitsOf 16 ((t.drop 2).filter (· ≠ '.'))).isEmpty
    let base := if hexadecimal then 16 else 10
    let t := if hexadecimal then t.drop 2 else t
    let whole := digitsOf base t
    let rest := t.drop whole.length
    let (part, rest) := match rest with
      | '.' :: after =>
        let part := digitsOf base after
        if whole.isEmpty && part.isEmpty then ([], rest) else (part, after.drop part.length)
      | rest => ([], rest)
    if whole.isEmpty && part.isEmpty then none
    else
      let marks := if hexadecimal then ['p', 'P'] else ['e', 'E']
      let (power, rest) : Int × Text := match rest with
        | c :: after =>
          if !marks.contains c then (0, rest)
          else
            let (negative, after) := match after with
              | '-' :: after => (true, after)
              | '+' :: after => (false, after)
              | after => (false, after)
            let digits := digitsOf 10 after
            if digits.isEmpty then (0, rest)
            else
              let n : Int := valueOfDigits 10 digits
              (if negative then -n else n, after.drop digits.length)
        | [] => (0, rest)
      let n := valueOfDigits base (whole ++ part)
      let value :=
        if n = 0 then finite isNegative 0 0
        else if hexadecimal then
          let power := max (-5000) (min 5000 (power - 4 * part.length))
          let (n, d) := scaled 2 power n 1
          ofFraction isNegative n d
        else
          let power := power - part.length
          let size : Int := (toString n).length
          if 400 < power + size then infinite isNegative
          else if power + size < -400 then finite isNegative 0 0
          else
            let (n, d) := scaled 10 power n 1
            ofFraction isNegative n d
      some (value, rest)

/-- The number at the beginning of a text, after blanks and a sign. -/
def scan (t : Text) : Option (Double × Text) :=
  match t.dropWhile isSpace with
  | '-' :: rest => scanUnsigned true rest
  | '+' :: rest => scanUnsigned false rest
  | rest => scanUnsigned false rest

def isNegative : Double → Bool
  | finite s _ _ | infinite s | nan s => s

/-- The same without its sign as a fraction. -/
def fraction (m : Nat) (e : Int) : Nat × Nat := scaled 2 e m 1

/-- Digits with a point before the last `places` of them. -/
def withPoint (alternate : Bool) (places : Nat) (digits : Text) : Text :=
  let digits := List.replicate (places + 1 - digits.length) '0' ++ digits
  let whole := digits.take (digits.length - places)
  let part := digits.drop (digits.length - places)
  if part.isEmpty && !alternate then whole else whole ++ '.' :: part

def fixedText (alternate : Bool) (places : Nat) (m : Nat) (e : Int) : Text :=
  let (n, d) := fraction m e
  withPoint alternate places (textOfNat (roundedQuotient (n * Nat.pow 10 places) d))

/-- The decimal exponent, and the digits of the number rounded to one digit more than `places`. -/
def decimalDigits (places : Nat) (m : Nat) (e : Int) : Int × Nat :=
  if m = 0 then (0, 0)
  else
    let (n, d) := fraction m e
    let atLeast (x : Int) : Bool :=
      let (a, b) := scaled 10 (-x) n d
      b ≤ a
    let guess : Int := (((n.log2 : Int) - d.log2) * 30103).fdiv 100000
    let x := if atLeast (guess + 2) then guess + 2 else if atLeast (guess + 1) then guess + 1
      else if atLeast guess then guess else if atLeast (guess - 1) then guess - 1 else guess - 2
    let (a, b) := scaled 10 ((places : Int) - x) n d
    let q := roundedQuotient a b
    if q = Nat.pow 10 (places + 1) then (x + 1, Nat.pow 10 places) else (x, q)

def exponentText (mark : Char) (least : Nat) (x : Int) : Text :=
  let digits := textOfNat x.natAbs
  mark :: (if x < 0 then '-' else '+') :: List.replicate (least - digits.length) '0' ++ digits

def exponentialText (alternate : Bool) (places : Nat) (m : Nat) (e : Int) : Text :=
  let (x, q) := decimalDigits places m e
  withPoint alternate places (textOfNat q) ++ exponentText 'e' 2 x

/-- Without the zeros at the end of the digits after a point. -/
def dropZeros (t : Text) : Text :=
  if t.contains '.' then
    let t := (t.reverse.dropWhile (· = '0')).reverse
    if t.getLast? = some '.' then t.dropLast else t
  else t

/-- With some number of digits, in the shorter of both forms. -/
def generalText (alternate : Bool) (precision : Nat) (m : Nat) (e : Int) : Text :=
  let precision := max 1 precision
  let (x, q) := decimalDigits (precision - 1) m e
  let trim (t : Text) : Text := if alternate then t else dropZeros t
  if -4 ≤ x && x < precision then
    trim (fixedText alternate (precision - 1 - x).toNat m e)
  else trim (withPoint alternate (precision - 1) (textOfNat q)) ++ exponentText 'e' 2 x

def hexadecimalText (alternate : Bool) (precision : Option Nat) (m : Nat) (e : Int) : Text :=
  let x : Int := if m = 0 then 0 else if m < 0x10000000000000 then -1022 else e + 52
  let digits (n places : Nat) : Text :=
    let t := Nat.toDigits 16 n
    List.replicate (places + 1 - t.length) '0' ++ t
  let t := match precision with
    | none => dropZeros (withPoint true 13 (digits m 13))
    | some places =>
      if places < 13 then
        withPoint alternate places (digits (roundedQuotient m (Nat.pow 16 (13 - places))) places)
      else withPoint alternate places (digits m 13 ++ List.replicate (places - 13) '0')
  "0x".toList ++ t ++ exponentText 'p' 1 x

/-- What stands after the sign, by the letter of a conversion; it is no number of digits for
infinite numbers. -/
def text (letter : Char) (alternate : Bool) (precision : Option Nat) : Double → Text
  | infinite _ => "inf".toList
  | nan _ => "nan".toList
  | finite _ m e =>
    match letter.toLower with
    | 'f' => fixedText alternate (precision.getD 6) m e
    | 'e' => exponentialText alternate (precision.getD 6) m e
    | 'g' => generalText alternate (precision.getD 6) m e
    | _ => hexadecimalText alternate precision m e

def isFinite : Double → Bool
  | finite _ _ _ => true
  | _ => false

end Double
end NodeDiscovery.Shell
