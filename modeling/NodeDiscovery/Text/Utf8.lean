/-! UTF-8: writing characters as bytes, and reading any bytes as characters. Reading undoes writing
(`decode_encode`); bytes that no writing produces are read as replacement characters. -/
namespace NodeDiscovery.Text.Utf8

def encodeChar (c : Char) : List UInt8 :=
  let n := c.toNat
  if n < 0x80 then [UInt8.ofNat n]
  else if n < 0x800 then [UInt8.ofNat (0xc0 + n / 0x40), UInt8.ofNat (0x80 + n % 0x40)]
  else if n < 0x10000 then
    [UInt8.ofNat (0xe0 + n / 0x1000), UInt8.ofNat (0x80 + n / 0x40 % 0x40),
      UInt8.ofNat (0x80 + n % 0x40)]
  else
    [UInt8.ofNat (0xf0 + n / 0x40000), UInt8.ofNat (0x80 + n / 0x1000 % 0x40),
      UInt8.ofNat (0x80 + n / 0x40 % 0x40), UInt8.ofNat (0x80 + n % 0x40)]

def encode (cs : List Char) : List UInt8 := cs.flatMap encodeChar

/-- Stands for bytes that are no character. -/
def replacement : Char := '\ufffd'

/-- Reads `count` more bytes of a character begun as `n`. The next one has to lie from `lo` to `hi`;
the first that does not is left unread, and those before it give one replacement character. -/
def finishChar : (count n lo hi : Nat) → List UInt8 → Char × List UInt8
  | 0, n, _, _, rest => (Char.ofNat n, rest)
  | _ + 1, _, _, _, [] => (replacement, [])
  | count + 1, n, lo, hi, b :: rest =>
    if lo ≤ b.toNat ∧ b.toNat ≤ hi then
      finishChar count (n * 0x40 + (b.toNat - 0x80)) 0x80 0xbf rest
    else (replacement, b :: rest)

/-- Reads the character that begins with byte `b`. The ranges of second bytes leave out what has a
shorter form, the surrogates, and all beyond the last code point. -/
def readChar (b : UInt8) (rest : List UInt8) : Char × List UInt8 :=
  let n := b.toNat
  if n < 0x80 then (Char.ofNat n, rest)
  else if n < 0xc2 then (replacement, rest)
  else if n < 0xe0 then finishChar 1 (n - 0xc0) 0x80 0xbf rest
  else if n = 0xe0 then finishChar 2 0 0xa0 0xbf rest
  else if n = 0xed then finishChar 2 0xd 0x80 0x9f rest
  else if n < 0xf0 then finishChar 2 (n - 0xe0) 0x80 0xbf rest
  else if n = 0xf0 then finishChar 3 0 0x90 0xbf rest
  else if n < 0xf4 then finishChar 3 (n - 0xf0) 0x80 0xbf rest
  else if n = 0xf4 then finishChar 3 4 0x80 0x8f rest
  else (replacement, rest)

theorem finishChar_length (count n lo hi : Nat) (bytes : List UInt8) :
    (finishChar count n lo hi bytes).2.length ≤ bytes.length := by
  fun_induction finishChar count n lo hi bytes with
  | case1 => exact Nat.le_refl _
  | case2 => exact Nat.le_refl _
  | case3 _ _ _ _ _ _ _ ih => exact Nat.le_succ_of_le ih
  | case4 => exact Nat.le_refl _

theorem readChar_length (b : UInt8) (rest : List UInt8) :
    (readChar b rest).2.length ≤ rest.length := by
  unfold readChar
  dsimp only
  repeat' split
  all_goals first | exact Nat.le_refl _ | exact finishChar_length ..

/-- Reads bytes as characters. -/
def decode : List UInt8 → List Char
  | [] => []
  | b :: rest => (readChar b rest).1 :: decode (readChar b rest).2
termination_by bytes => bytes.length
decreasing_by
  have := readChar_length b rest
  simp only [List.length_cons]; omega

theorem finishChar_cons {count n lo hi m : Nat} {rest : List UInt8} (hlo : lo ≤ m) (hhi : m ≤ hi)
    (hm : m < 0x100) :
    finishChar (count + 1) n lo hi (UInt8.ofNat m :: rest) =
      finishChar count (n * 0x40 + (m - 0x80)) 0x80 0xbf rest := by
  have hb : (UInt8.ofNat m).toNat = m := by
    simp [UInt8.toNat_ofNat', Nat.mod_eq_of_lt hm]
  simp [finishChar, hb, hlo, hhi]

theorem readChar_encodeChar (c : Char) (rest : List UInt8) :
    ∃ b bs, encodeChar c = b :: bs ∧ readChar b (bs ++ rest) = (c, rest) := by
  have hmax : c.toNat < 0x110000 := by
    rcases c.valid with h | h
    · exact Nat.lt_trans h (by decide)
    · exact h.2
  have hgap : c.toNat < 0xd800 ∨ 0xdfff < c.toNat := c.valid.imp id And.left
  have byte {m : Nat} (hm : m < 0x100) : (UInt8.ofNat m).toNat = m := by
    simp [UInt8.toNat_ofNat', Nat.mod_eq_of_lt hm]
  have back {m : Nat} (hm : m = c.toNat) : Char.ofNat m = c := by rw [hm, Char.ofNat_toNat]
  generalize hn : c.toNat = n at *
  unfold encodeChar
  simp only [hn]
  split
  · next h =>
    refine ⟨_, _, rfl, ?_⟩
    simp only [readChar, byte (show n < 0x100 by omega), h, if_true, List.nil_append]
    rw [back rfl]
  · split
    · next h0 h =>
      refine ⟨_, _, rfl, ?_⟩
      unfold readChar
      simp only [byte (show 0xc0 + n / 0x40 < 0x100 by omega), List.cons_append, List.nil_append]
      rw [if_neg (by omega), if_neg (by omega), if_pos (by omega),
        finishChar_cons (by omega) (by omega) (by omega), finishChar, back (by omega)]
    · split
      · next h0 h1 h =>
        refine ⟨_, _, rfl, ?_⟩
        unfold readChar
        simp only [byte (show 0xe0 + n / 0x1000 < 0x100 by omega), List.cons_append,
          List.nil_append]
        rw [if_neg (by omega), if_neg (by omega), if_neg (by omega)]
        split
        · rw [finishChar_cons (by omega) (by omega) (by omega),
            finishChar_cons (by omega) (by omega) (by omega), finishChar, back (by omega)]
        · split
          · rw [finishChar_cons (by omega) (by omega) (by omega),
              finishChar_cons (by omega) (by omega) (by omega), finishChar, back (by omega)]
          · rw [if_pos (by omega), finishChar_cons (by omega) (by omega) (by omega),
              finishChar_cons (by omega) (by omega) (by omega), finishChar, back (by omega)]
      · next h0 h1 h2 =>
        refine ⟨_, _, rfl, ?_⟩
        unfold readChar
        simp only [byte (show 0xf0 + n / 0x40000 < 0x100 by omega), List.cons_append,
          List.nil_append]
        rw [if_neg (by omega), if_neg (by omega), if_neg (by omega), if_neg (by omega),
          if_neg (by omega), if_neg (by omega)]
        split
        · rw [finishChar_cons (by omega) (by omega) (by omega),
            finishChar_cons (by omega) (by omega) (by omega),
            finishChar_cons (by omega) (by omega) (by omega), finishChar, back (by omega)]
        · split
          · rw [finishChar_cons (by omega) (by omega) (by omega),
              finishChar_cons (by omega) (by omega) (by omega),
              finishChar_cons (by omega) (by omega) (by omega), finishChar, back (by omega)]
          · rw [if_pos (by omega), finishChar_cons (by omega) (by omega) (by omega),
              finishChar_cons (by omega) (by omega) (by omega),
              finishChar_cons (by omega) (by omega) (by omega), finishChar, back (by omega)]

theorem decode_encodeChar (c : Char) (rest : List UInt8) :
    decode (encodeChar c ++ rest) = c :: decode rest := by
  obtain ⟨b, bs, he, hr⟩ := readChar_encodeChar c rest
  rw [he, List.cons_append, decode, hr]

theorem decode_encode (cs : List Char) : decode (encode cs) = cs := by
  induction cs with
  | nil => simp [encode, decode]
  | cons c rest ih =>
    rw [encode, List.flatMap_cons, decode_encodeChar]
    exact congrArg (c :: ·) ih

/-! ASCII bytes. None is part of a longer character. -/

section Ascii
variable {a : UInt8}

/-- A character that has begun does not go on with an ASCII byte. -/
theorem finishChar_append_ascii (ha : a.toNat < 0x80) {count n lo hi : Nat} (hlo : 0x80 ≤ lo)
    (bytes rest : List UInt8) :
    finishChar count n lo hi (bytes ++ a :: rest) =
      ((finishChar count n lo hi bytes).1, (finishChar count n lo hi bytes).2 ++ a :: rest) := by
  fun_induction finishChar count n lo hi bytes with
  | case1 => rfl
  | case2 => rw [List.nil_append, finishChar, if_neg (by omega)]
  | case3 n lo hi count b bytes hb ih =>
    rw [List.cons_append, finishChar, if_pos hb, ih (Nat.le_refl _)]
  | case4 n lo hi count b bytes hb => rw [List.cons_append, finishChar, if_neg hb]

theorem readChar_append_ascii (ha : a.toNat < 0x80) (b : UInt8) (bytes rest : List UInt8) :
    readChar b (bytes ++ a :: rest) =
      ((readChar b bytes).1, (readChar b bytes).2 ++ a :: rest) := by
  unfold readChar
  dsimp only
  repeat' split
  all_goals first | rfl | exact finishChar_append_ascii ha (by decide) bytes rest

theorem decode_ascii_cons (ha : a.toNat < 0x80) (rest : List UInt8) :
    decode (a :: rest) = Char.ofNat a.toNat :: decode rest := by
  rw [decode, readChar, if_pos ha]

/-- An ASCII byte is a character of its own, whatever bytes stand around it. -/
theorem decode_append_ascii (ha : a.toNat < 0x80) (bytes rest : List UInt8) :
    decode (bytes ++ a :: rest) = decode bytes ++ Char.ofNat a.toNat :: decode rest := by
  fun_induction decode bytes with
  | case1 => exact decode_ascii_cons ha rest
  | case2 b bytes ih =>
    rw [List.cons_append, decode, readChar_append_ascii ha, ih, List.cons_append]

end Ascii

end NodeDiscovery.Text.Utf8
