/-! Digits, and whole numbers written in decimal digits, read up to a bound. -/
namespace NodeDiscovery.Text

def digitValue (c : Char) : Nat := c.toNat - '0'.toNat

theorem digitValue_lt {c : Char} (h : c.isDigit = true) : digitValue c < 10 := by
  have hc : 48 ≤ c.toNat ∧ c.toNat ≤ 57 := Char.isDigit_iff_toNat.mp h
  have hvalue : digitValue c = c.toNat - 48 := rfl
  omega

theorem digitChar_digitValue {c : Char} (h : c.isDigit = true) :
    Nat.digitChar (digitValue c) = c := by
  have hc : 48 ≤ c.toNat ∧ c.toNat ≤ 57 := Char.isDigit_iff_toNat.mp h
  have hvalue : digitValue c = c.toNat - 48 := rfl
  apply Char.toNat_inj.mp
  rw [hvalue, Nat.toNat_digitChar_of_lt_ten (by omega)]
  omega

/-- The number that a run of decimal digits stands for. -/
def digitsValue (digits : List Char) : Nat :=
  digits.foldl (fun n c => 10 * n + digitValue c) 0

/-- The value of a hexadecimal digit in either case. -/
def hexValue? (c : Char) : Option Nat :=
  if c.isDigit then some (digitValue c)
  else if 'a' ≤ c ∧ c ≤ 'f' then some (c.toNat - 'a'.toNat + 10)
  else if 'A' ≤ c ∧ c ≤ 'F' then some (c.toNat - 'A'.toNat + 10)
  else none

/-- The case that letters are written in. -/
inductive LetterCase
  | lower
  | upper

/-- The hexadecimal digit of a number below 16. -/
def hexDigit (letters : LetterCase) (n : Nat) : Char :=
  match letters with
  | .lower => Nat.digitChar n
  | .upper => (Nat.digitChar n).toUpper

theorem hexValue_hexDigit (letters : LetterCase) {n : Nat} (h : n < 16) :
    hexValue? (hexDigit letters n) = some n := by
  have hall : ∀ m : Fin 16, hexValue? (hexDigit letters m) = some m.val := by
    cases letters <;> decide
  exact hall ⟨n, h⟩

/-- Why a text is no whole number below the bound. -/
inductive NumeralFault
  | empty
  | invalidDigit
  | tooLarge
deriving DecidableEq, Repr

def NumeralFault.message : NumeralFault → String
  | empty => "cannot parse integer from empty string"
  | invalidDigit => "invalid digit found in string"
  | tooLarge => "number too large to fit in target type"

/-- Reads digits after those of `n`. The first fault from the left is reported. -/
def readDigits (bound : Nat) (n : Nat) : List Char → Except NumeralFault Nat
  | [] => .ok n
  | c :: rest =>
    if !c.isDigit then .error .invalidDigit
    else if 10 * n + digitValue c < bound then readDigits bound (10 * n + digitValue c) rest
    else .error .tooLarge

/-- Reads a number below `bound`. One plus sign may stand before the digits. -/
def readNumeral (bound : Nat) : List Char → Except NumeralFault Nat
  | [] => .error .empty
  | ['+'] => .error .invalidDigit
  | '+' :: digits => readDigits bound 0 digits
  | digits => readDigits bound 0 digits

theorem readDigits_lt {bound n m : Nat} {cs : List Char} (hn : n < bound)
    (h : readDigits bound n cs = .ok m) : m < bound := by
  induction cs generalizing n with
  | nil => cases h; exact hn
  | cons c rest ih =>
    unfold readDigits at h
    split at h
    · cases h
    · split at h
      · next hb => exact ih hb h
      · cases h

/-- Digits that are read after those of a number make up, with these, the digits of what is read. -/
theorem toDigits_append_of_readDigits {bound n m : Nat} {cs : List Char} (hn : 0 < n)
    (h : readDigits bound n cs = .ok m) : Nat.toDigits 10 n ++ cs = Nat.toDigits 10 m := by
  induction cs generalizing n with
  | nil =>
    obtain rfl := Except.ok.inj h
    exact List.append_nil _
  | cons c rest ih =>
    unfold readDigits at h
    split at h
    · cases h
    · next hdigit =>
      rw [Bool.not_eq_true', Bool.not_eq_false] at hdigit
      split at h
      · have hone : Nat.toDigits 10 n ++ [c] = Nat.toDigits 10 (10 * n + digitValue c) := by
          rw [← Nat.toDigits_append_toDigits (by decide) hn (digitValue_lt hdigit),
            Nat.toDigits_of_lt_base (digitValue_lt hdigit), digitChar_digitValue hdigit]
        calc
          Nat.toDigits 10 n ++ c :: rest = Nat.toDigits 10 n ++ [c] ++ rest := by
            rw [List.append_assoc, List.singleton_append]
          _ = Nat.toDigits 10 (10 * n + digitValue c) ++ rest := by rw [hone]
          _ = Nat.toDigits 10 m := ih (by omega) h
      · cases h

/-- Digits without a leading zero are those of the number that they are read as. -/
theorem eq_toDigits_of_readDigits {bound m : Nat} {c : Char} {rest : List Char} (hc : c ≠ '0')
    (h : readDigits bound 0 (c :: rest) = .ok m) : c :: rest = Nat.toDigits 10 m := by
  unfold readDigits at h
  split at h
  · cases h
  · next hdigit =>
    rw [Bool.not_eq_true', Bool.not_eq_false] at hdigit
    split at h
    · rw [Nat.mul_zero, Nat.zero_add] at h
      have hpos : 0 < digitValue c := by
        rw [Nat.pos_iff_ne_zero]
        intro hzero
        have hchar := digitChar_digitValue hdigit
        rw [hzero] at hchar
        exact hc hchar.symm
      rw [← toDigits_append_of_readDigits hpos h, Nat.toDigits_of_lt_base (digitValue_lt hdigit),
        digitChar_digitValue hdigit, List.singleton_append]
    · cases h

/-- Numbers are told apart by their digits. -/
theorem toString_injective {n m : Nat} (h : toString n = toString m) : n = m := by
  have hdigits : Nat.toDigits 10 n = Nat.toDigits 10 m := by
    rw [← Nat.toList_repr, ← Nat.toList_repr]
    exact congrArg String.toList h
  rw [← Nat.ofDigitChars_ten_toDigits (n := n), hdigits, Nat.ofDigitChars_ten_toDigits]

end NodeDiscovery.Text
