import NodeDiscovery.Proofs.Json.Writing
import Mathlib.Data.List.Forall2

/-! Documents of arrays, texts and numbers. What is written is read, wherever a value may stand. -/
namespace NodeDiscovery.Json

/-- Behind a value: no number or word goes on there. -/
def Ends (rest : List Char) : Prop :=
  ∀ c ∈ rest.head?, isNumberChar c = false ∧ c.isAlpha = false

theorem ends_nil : Ends [] := nofun

theorem ends_cons {c : Char} (h : isNumberChar c = false ∧ c.isAlpha = false) (rest : List Char) :
    Ends (c :: rest) := by
  intro d hd
  obtain rfl := Option.some.inj hd
  exact h

theorem takeWhile_append_of_ends {p : Char → Bool} {written rest : List Char}
    (hp : ∀ c, isNumberChar c = false ∧ c.isAlpha = false → p c = false)
    (hwritten : ∀ c ∈ written, p c = true) (hrest : Ends rest) :
    (written ++ rest).takeWhile p = written ∧ (written ++ rest).dropWhile p = rest := by
  rw [List.takeWhile_append_of_pos hwritten, List.dropWhile_append_of_pos hwritten]
  cases rest with
  | nil => exact ⟨List.append_nil _, rfl⟩
  | cons c rest =>
    have hc : p c = false := hp c (hrest c rfl)
    rw [List.takeWhile_cons_of_neg (by simp [hc]), List.dropWhile_cons_of_neg (by simp [hc]),
      List.append_nil]
    exact ⟨rfl, rfl⟩

/-- The text `written` is read as this value. -/
def Denotes (written : List Char) (j : Json) : Prop :=
  ∃ first more, first ≠ .closeArray ∧
    (∀ before rest, Ends rest → tokensFrom before (written ++ rest) =
      tokensFrom ((first :: more).reverse ++ before) rest) ∧
    ∀ stack rest, build none stack (first :: more ++ rest) = build (some j) stack rest

theorem Denotes.parse_eq {written : List Char} {j : Json} (h : Denotes written j) :
    parse? (String.ofList written) = some j := by
  obtain ⟨first, more, -, htokens, hbuild⟩ := h
  have hread := htokens [] [] ends_nil
  have hbuilt := hbuild [] []
  rw [List.append_nil, List.append_nil] at hread
  rw [List.append_nil] at hbuilt
  rw [parse?, tokens, String.toList_ofList, hread, tokensFrom, List.reverse_reverse]
  exact hbuilt

theorem denotes_scalar {written : List Char} {j : Json}
    (h : ∀ before rest, Ends rest →
      tokensFrom before (written ++ rest) = tokensFrom (.scalar j :: before) rest) :
    Denotes written j :=
  ⟨.scalar j, [], nofun, h, fun _ _ => by simp [build]⟩

theorem denotes_writeText (s : String) : Denotes (writeText s) (.text (some s)) :=
  denotes_scalar fun before rest _ => reads_writeText s before rest

theorem denotes_null : Denotes "null".toList .null := by
  refine denotes_scalar fun before rest hrest => ?_
  have hletters : "ull".toList.all Char.isAlpha = true := by decide
  obtain ⟨htake, hdrop⟩ :=
    takeWhile_append_of_ends (fun c h => h.2) (List.all_eq_true.1 hletters) hrest
  have hread : readToken 'n' ("ull".toList ++ rest) = some (.scalar .null, rest) := by
    have hletter : punctuation? 'n' = none ∧ 'n' ≠ '\"' ∧ isNumberChar 'n' = false := by decide
    obtain ⟨hnone, hquote, hnumber⟩ := hletter
    rw [readToken, hnone]
    simp only [hquote, hnumber, if_false, htake, hdrop]
    rfl
  exact tokensFrom_cons rfl hread before

theorem head?_toDigits {n : Nat} (h : 0 < n) : (Nat.toDigits 10 n).head? ≠ some '0' := by
  induction n using Nat.strongRecOn with
  | ind n ih =>
    by_cases hsmall : n < 10
    · rw [Nat.toDigits_of_lt_base hsmall]
      intro hzero
      have hvalue := congrArg Char.toNat (Option.some.inj hzero)
      rw [Nat.toNat_digitChar_of_lt_ten hsmall] at hvalue
      have hnumeral : '0'.toNat = 48 := rfl
      omega
    · have hrest : 0 < n / 10 := by omega
      obtain ⟨c, cs, hdigits⟩ :=
        List.exists_cons_of_ne_nil (Nat.toDigits_ne_nil (n := n / 10) (b := 10))
      have hfirst := ih (n / 10) (by omega) hrest
      rw [hdigits] at hfirst
      rw [Nat.toDigits_of_base_le (by decide) (by omega), hdigits]
      exact hfirst

theorem isDigit_toDigits (n : Nat) : ∀ c ∈ Nat.toDigits 10 n, c.isDigit = true :=
  fun _ hc => Nat.isDigit_of_mem_toDigits (by decide) (by decide) hc

theorem isNumber_toDigits (n : Nat) : isNumber (Nat.toDigits 10 n) = true := by
  have hdigits := isDigit_toDigits n
  obtain ⟨htake, hdrop⟩ := takeWhile_append_of_ends (p := Char.isDigit) (fun c hc => by
    simp only [isNumberChar, Bool.or_eq_false_iff] at hc
    exact hc.1.1.1.1.1.1) hdigits ends_nil
  rw [List.append_nil] at htake hdrop
  have hfirst : (Nat.toDigits 10 n).length = 1 ∨ (Nat.toDigits 10 n).head? ≠ some '0' := by
    rcases Nat.eq_zero_or_pos n with rfl | hpos
    · exact .inl rfl
    · exact .inr (head?_toDigits hpos)
  have hwhole : isWhole (Nat.toDigits 10 n) = true := by
    simp only [isWhole, Bool.and_eq_true, Bool.or_eq_true, List.all_eq_true, beq_iff_eq,
      bne_iff_ne, Bool.not_eq_true', List.isEmpty_eq_false_iff]
    exact ⟨⟨Nat.toDigits_ne_nil, hdigits⟩, hfirst⟩
  simp only [isNumber]
  split
  · next rest hsign =>
    have hminus := hdigits '-' (by rw [hsign]; exact List.mem_cons_self)
    exact absurd hminus (by decide)
  · rw [htake, hdrop, hwhole]
    rfl

theorem of_isDigit {c : Char} (h : c.isDigit = true) :
    punctuation? c = none ∧ c ≠ '\"' ∧ isSpace c = false := by
  have hall : ∀ n : Fin 10, punctuation? (Nat.digitChar n) = none ∧ Nat.digitChar n ≠ '\"' ∧
      isSpace (Nat.digitChar n) = false := by decide
  rw [← Text.digitChar_digitValue h]
  exact hall ⟨Text.digitValue c, Text.digitValue_lt h⟩

theorem denotes_natural (n : Nat) : Denotes (Nat.toDigits 10 n) (.number n.repr) := by
  refine denotes_scalar fun before rest hrest => ?_
  have htext : String.ofList (Nat.toDigits 10 n) = n.repr := rfl
  have hnumber := isNumber_toDigits n
  have hdigits := isDigit_toDigits n
  obtain ⟨c, cs, hwritten⟩ := List.exists_cons_of_ne_nil (Nat.toDigits_ne_nil (n := n) (b := 10))
  rw [hwritten] at htext hnumber hdigits ⊢
  have hchar : ∀ d ∈ c :: cs, isNumberChar d = true := fun d hd => by
    simp [isNumberChar, hdigits d hd]
  obtain ⟨htake, hdrop⟩ := takeWhile_append_of_ends (fun _ h => h.1)
    (fun d hd => hchar d (List.mem_cons_of_mem c hd)) hrest
  obtain ⟨hnone, hquote, hspace⟩ := of_isDigit (hdigits c List.mem_cons_self)
  have hread : readToken c (cs ++ rest) = some (.scalar (.number n.repr), rest) := by
    rw [readToken, hnone]
    simp only [hquote, hchar c List.mem_cons_self, htake, hdrop, hnumber, htext, if_true, if_false]
  exact tokensFrom_cons hspace hread before

@[simp] theorem natural?_number (n : Nat) : (number n.repr).natural? = some n := by
  have htext : n.repr.toList = Nat.toDigits 10 n := Nat.toList_repr
  have hall : (Nat.toDigits 10 n).all Char.isDigit = true :=
    List.all_eq_true.mpr (isDigit_toDigits n)
  have hvalue : Text.digitsValue (Nat.toDigits 10 n) = n := Nat.ofDigitChars_ten_toDigits
  rw [natural?, htext, if_pos hall, hvalue]

theorem word32?_number (n : UInt32) : (number n.toNat.repr).word32? = some n := by
  rw [word32?, natural?_number]
  simp [n.toNat_lt]

theorem word64?_number (n : UInt64) : (number n.toNat.repr).word64? = some n := by
  rw [word64?, natural?_number]
  simp [n.toNat_lt]

def writeArray (parts : List (List Char)) : List Char :=
  '[' :: [','].intercalate parts ++ [']']

theorem ends_elements (parts : List (List Char)) (rest : List Char) :
    Ends (parts.flatMap (',' :: ·) ++ ']' :: rest) := by
  cases parts with
  | nil => exact ends_cons (by decide) _
  | cons next parts => exact ends_cons (by decide) _

/-- Behind an element of an array the others are read, up to the closing bracket. -/
theorem exists_reads_elements {parts : List (List Char)} {elements : List Json}
    (h : List.Forall₂ Denotes parts elements) :
    ∃ read : List Token,
      (∀ before rest, tokensFrom before (parts.flatMap (',' :: ·) ++ ']' :: rest) =
        tokensFrom (read.reverse ++ before) rest) ∧
      ∀ earlier j stack rest, build (some j) (.array earlier :: stack) (read ++ rest) =
        build (some (.array (earlier.reverse ++ j :: elements))) stack rest := by
  have hclose : Reads [']'] [.closeArray] := reads_punctuation rfl rfl
  have hcomma : Reads [','] [.comma] := reads_punctuation rfl rfl
  induction h with
  | nil => exact ⟨[.closeArray], hclose, fun _ _ _ _ => by simp [build]⟩
  | @cons part element parts elements hpart _ ih =>
    obtain ⟨first, more, -, htokens, hbuild⟩ := hpart
    obtain ⟨read, hread, hrest⟩ := ih
    refine ⟨.comma :: first :: more ++ read, fun before rest => ?_, fun earlier j stack rest => ?_⟩
    · rw [List.flatMap_cons, List.append_assoc]
      exact (hcomma before _).trans ((htokens _ _ (ends_elements parts rest)).trans
        ((hread _ rest).trans (by simp)))
    · have hstep := hbuild (.array (j :: earlier) :: stack) (read ++ rest)
      have hcons := hrest (j :: earlier) element stack rest
      simp only [List.cons_append, List.append_assoc, build] at hstep ⊢
      rw [hstep, hcons]
      simp

theorem denotes_writeArray {parts : List (List Char)} {elements : List Json}
    (h : List.Forall₂ Denotes parts elements) : Denotes (writeArray parts) (.array elements) := by
  have hopen : Reads ['['] [.openArray] := reads_punctuation rfl rfl
  have hclose : Reads [']'] [.closeArray] := reads_punctuation rfl rfl
  cases h with
  | nil =>
    exact ⟨.openArray, [.closeArray], nofun, fun before rest _ => hopen.append hclose before rest,
      fun _ _ => by simp [build]⟩
  | @cons part element parts elements hpart hparts =>
    obtain ⟨first, more, hfirst, htokens, hbuild⟩ := hpart
    obtain ⟨read, hread, hrest⟩ := exists_reads_elements hparts
    refine ⟨.openArray, first :: more ++ read, nofun, fun before rest _ => ?_, fun stack rest => ?_⟩
    · have hwritten : writeArray (part :: parts) ++ rest =
          '[' :: (part ++ (parts.flatMap (',' :: ·) ++ ']' :: rest)) := by
        rw [writeArray, intercalate_singleton_cons]
        simp
      rw [hwritten]
      exact (hopen before _).trans ((htokens _ _ (ends_elements parts rest)).trans
        ((hread _ rest).trans (by simp)))
    · have hstep := hbuild (.array [] :: stack) (read ++ rest)
      have hcons := hrest [] element stack rest
      simp only [List.cons_append, List.append_assoc] at hstep ⊢
      rw [build, hstep, hcons]
      · rfl
      · simpa using hfirst

theorem denotes_writeArray_map {α : Type} {write : α → List Char} {value : α → Json}
    (h : ∀ a, Denotes (write a) (value a)) (as : List α) :
    Denotes (writeArray (as.map write)) (.array (as.map value)) := by
  refine denotes_writeArray ?_
  rw [List.forall₂_map_left_iff, List.forall₂_map_right_iff, List.forall₂_same]
  exact fun a _ => h a

theorem list?_array_map {α : Type} {read : Json → Option α} {value : α → Json}
    (h : ∀ a, read (value a) = some a) (as : List α) :
    list? read (.array (as.map value)) = some as :=
  mapM_map_eq_some h as

end NodeDiscovery.Json
