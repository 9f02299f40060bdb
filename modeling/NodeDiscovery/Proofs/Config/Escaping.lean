import NodeDiscovery.Proofs.Config.Fault
import Mathlib.Algebra.Ring.Parity
import Mathlib.Data.List.DropRight

/-! Backslashes and quotes between quotes. Backslashes come in pairs up to the quote that closes a
text, and any other quote has an odd number of them right in front of it; so their number decides
where a text ends, and what is wrong with one that does not. -/
namespace NodeDiscovery.Config
open NodeDiscovery.Text

def trailingBackslashes (cs : List Char) : Nat := (cs.rtakeWhile (· = '\\')).length

/-- No quote in the text stands without a backslash of its own in front of it. -/
def QuotesEscaped (cs : List Char) : Prop :=
  ∀ before after, cs = before ++ '\"' :: after → Odd (trailingBackslashes before)

/-- How a text that nothing closes is read. It is read to its end, where a backslash may be left
over. -/
inductive Unclosed (cs : List Char) : QuotedText → Prop where
  | unterminated {text : List Char} (hodd : Odd (trailingBackslashes cs))
      (h : EscapedToSlash text cs) : Unclosed cs (.unterminated text)
  | unbalanced {text : List Char} (heven : Even (trailingBackslashes cs)) (h : Escaped text cs) :
      Unclosed cs (.unbalanced text)

def QuotedText.text : QuotedText → List Char
  | closed text _ | unbalanced text | unterminated text => text

def unclosedFault (cs : List Char) (key : String) : SyntaxError :=
  if Odd (trailingBackslashes cs) then .unterminatedEscape key else .unbalancedQuotes key

/-! Counting backslashes -/

theorem trailingBackslashes_append (cs ds : List Char) :
    trailingBackslashes (cs ++ ds) =
      if trailingBackslashes ds = ds.length then ds.length + trailingBackslashes cs
      else trailingBackslashes ds := by
  simp only [trailingBackslashes, List.rtakeWhile, List.reverse_append, List.length_reverse,
    List.takeWhile_append]
  split <;> simp

theorem even_trailingBackslashes_append {cs : List Char} (h : Even (trailingBackslashes cs))
    (ds : List Char) :
    Even (trailingBackslashes (cs ++ ds)) ↔ Even (trailingBackslashes ds) := by
  rw [trailingBackslashes_append]
  split
  · next hall => rw [hall, Nat.even_add, iff_true_right h]
  · rfl

theorem odd_trailingBackslashes_append {cs : List Char} (h : Even (trailingBackslashes cs))
    (ds : List Char) :
    Odd (trailingBackslashes (cs ++ ds)) ↔ Odd (trailingBackslashes ds) := by
  rw [← Nat.not_even_iff_odd, ← Nat.not_even_iff_odd, even_trailingBackslashes_append h]

theorem even_trailingBackslashes_singleton {c : Char} (hslash : c ≠ '\\') :
    Even (trailingBackslashes [c]) := by
  simp [trailingBackslashes, List.rtakeWhile, hslash]

theorem even_trailingBackslashes_pair (c : Char) : Even (trailingBackslashes ['\\', c]) := by
  by_cases hc : c = '\\'
  · subst hc
    decide
  · simp [trailingBackslashes, List.rtakeWhile, hc]

theorem trailingBackslashes_concat (cs : List Char) :
    trailingBackslashes (cs ++ ['\\']) = trailingBackslashes cs + 1 := by
  rw [trailingBackslashes, trailingBackslashes, List.rtakeWhile_concat_pos _ _ _ (by simp),
    List.length_append, List.length_singleton]

/-! Spellings -/

theorem Escaped.even_trailingBackslashes {text spelling : List Char} (h : Escaped text spelling) :
    Even (trailingBackslashes spelling) := by
  induction h with
  | nil => simp [trailingBackslashes]
  | plain _ hslash _ ih =>
    exact (even_trailingBackslashes_append (even_trailingBackslashes_singleton hslash) _).mpr ih
  | @escaped c _ _ _ ih =>
    exact (even_trailingBackslashes_append (even_trailingBackslashes_pair c) _).mpr ih

theorem EscapedToSlash.odd_trailingBackslashes {text cs : List Char} (h : EscapedToSlash text cs) :
    Odd (trailingBackslashes cs) := by
  obtain ⟨spelling, hescaped, rfl⟩ := h
  rw [trailingBackslashes_concat]
  exact hescaped.even_trailingBackslashes.add_one

/-- Every quote in a spelling is escaped, also if something without quotes stands behind it. -/
theorem Escaped.odd_before_quote {text spelling before after tail : List Char}
    (h : Escaped text spelling) (htail : '\"' ∉ tail)
    (hsplit : spelling ++ tail = before ++ '\"' :: after) : Odd (trailingBackslashes before) := by
  induction h generalizing before with
  | nil =>
    rw [List.nil_append] at hsplit
    exact absurd (hsplit ▸ List.mem_append_right _ List.mem_cons_self) htail
  | plain hquote hslash _ ih =>
    cases before with
    | nil => exact absurd (List.cons.inj hsplit).1 hquote
    | cons d before =>
      obtain ⟨rfl, hrest⟩ := List.cons.inj hsplit
      have hplain := even_trailingBackslashes_singleton hslash
      exact (odd_trailingBackslashes_append hplain before).mpr (ih hrest)
  | @escaped c text spelling _ ih =>
    rcases before with _ | ⟨d, _ | ⟨e, before⟩⟩
    · exact absurd (List.cons.inj hsplit).1 (by decide)
    · -- the quote is the character that the backslash in front of it stands for
      obtain ⟨rfl, -⟩ := List.cons.inj hsplit
      decide
    · rw [List.cons_append, List.cons_append, List.cons_append, List.cons_append,
        List.cons.injEq, List.cons.injEq] at hsplit
      obtain ⟨rfl, rfl, hrest⟩ := hsplit
      have hpair := even_trailingBackslashes_pair c
      exact (odd_trailingBackslashes_append hpair before).mpr (ih hrest)

theorem Escaped.quotesEscaped {text cs : List Char} (h : Escaped text cs) : QuotesEscaped cs := by
  intro before after hsplit
  exact h.odd_before_quote List.not_mem_nil ((List.append_nil cs).trans hsplit)

theorem EscapedToSlash.quotesEscaped {text cs : List Char} (h : EscapedToSlash text cs) :
    QuotesEscaped cs := by
  intro before after hsplit
  obtain ⟨spelling, hescaped, rfl⟩ := h
  exact hescaped.odd_before_quote (by decide) hsplit

/-! Texts that nothing closes -/

/-- The quote that closes a text is the first one that is not escaped. -/
theorem quotesEscaped_iff {cs : List Char} :
    QuotesEscaped cs ↔ ∀ text rest, readQuoted cs ≠ .closed text rest := by
  constructor
  · intro h text rest hclosed
    obtain ⟨spelling, hescaped, hsplit⟩ := readQuoted_eq_closed_iff.mp hclosed
    exact Nat.not_even_iff_odd.mpr (h spelling rest hsplit) hescaped.even_trailingBackslashes
  · intro h
    cases hq : readQuoted cs with
    | closed text rest => exact absurd hq (h text rest)
    | unbalanced text => exact (readQuoted_eq_unbalanced_iff.mp hq).quotesEscaped
    | unterminated text =>
      exact EscapedToSlash.quotesEscaped (readQuoted_eq_unterminated_iff.mp hq)

theorem QuotesEscaped.unclosed {cs : List Char} (h : QuotesEscaped cs) :
    Unclosed cs (readQuoted cs) := by
  cases hq : readQuoted cs with
  | closed text rest => exact absurd hq (quotesEscaped_iff.mp h text rest)
  | unbalanced text =>
    have hescaped := readQuoted_eq_unbalanced_iff.mp hq
    exact .unbalanced hescaped.even_trailingBackslashes hescaped
  | unterminated text =>
    have hescaped : EscapedToSlash text cs := readQuoted_eq_unterminated_iff.mp hq
    exact .unterminated hescaped.odd_trailingBackslashes hescaped

/-- The fault is the same one at a key and at a value. A value tells of its key, and a key of its
first word. -/
theorem Unclosed.fault {cs : List Char} (h : Unclosed cs (readQuoted cs)) :
    readKey ('\"' :: cs) =
        .error (unclosedFault cs (String.ofList (keyStem (readQuoted cs).text))) ∧
      ∀ key spaced, readValue key spaced ('\"' :: cs) = .error (unclosedFault cs key) := by
  generalize readQuoted cs = q at h
  cases h with
  | unterminated hodd h =>
    have hfault (key : String) : unclosedFault cs key = .unterminatedEscape key := if_pos hodd
    simp only [hfault]
    exact ⟨readKey_of_escapedToSlash h (stem_iff.mpr rfl), readValue_of_escapedToSlash h⟩
  | unbalanced heven h =>
    have hfault (key : String) : unclosedFault cs key = .unbalancedQuotes key :=
      if_neg (Nat.not_odd_iff_even.mpr heven)
    simp only [hfault]
    exact ⟨readKey_of_escaped h (stem_iff.mpr rfl), readValue_of_escaped h⟩

/-- Between quotes, reading undoes escaping.

However a text is spelled and whatever comes after the quote that closes it, the text is read and
the rest is left, at a key and at a value. Only a text in which every quote is escaped is read to
its end and not closed. Then the fault is the backslash left over at the end, if the text ends with
an odd number of them, and otherwise the missing quote. -/
theorem readQuoted_undoes_escaping :
    (∀ (text : String) (spelling rest : List Char), Escaped text.toList spelling →
      readQuoted (spelling ++ '\"' :: rest) = .closed text.toList rest ∧
      readKey ('\"' :: (spelling ++ '\"' :: rest)) = .ok (text, rest) ∧
      ∀ key spaced, readValue key spaced ('\"' :: (spelling ++ '\"' :: rest)) = .ok (text, rest)) ∧
    ∀ cs,
      (QuotesEscaped cs ↔ ∀ text rest, readQuoted cs ≠ .closed text rest) ∧
      (QuotesEscaped cs → Unclosed cs (readQuoted cs) ∧
        readKey ('\"' :: cs) =
          .error (unclosedFault cs (String.ofList (keyStem (readQuoted cs).text))) ∧
        ∀ key spaced, readValue key spaced ('\"' :: cs) = .error (unclosedFault cs key)) := by
  refine ⟨fun text spelling rest hescaped => ?_, fun cs => ⟨quotesEscaped_iff, fun h => ?_⟩⟩
  · have hq : readQuoted (spelling ++ '\"' :: rest) = .closed text.toList rest :=
      readQuoted_eq_closed_iff.mpr ⟨spelling, hescaped, rfl⟩
    refine ⟨hq, ?_, fun key spaced => ?_⟩
    · rw [readKey, hq]
      simp
    · rw [readValue, hq]
      simp
  · exact ⟨h.unclosed, h.unclosed.fault⟩

/-- A text with a quote and a backslash in it, spelled with a backslash that it does not need, and
two texts that nothing closes, one of which breaks off in an escape. -/
theorem readQuoted_undoes_escaping_sample :
    let spelling := "\\a\\\"\\\\".toList
    let slashed := "k\\\"=\\\\\\".toList
    let unbalanced := "k\\\"=\\\\".toList
    (Escaped "a\"\\".toList spelling ∧
      readQuoted (spelling ++ '\"' :: "\"=b".toList) = .closed "a\"\\".toList "\"=b".toList) ∧
    (QuotesEscaped slashed ∧
      readKey ('\"' :: slashed) = .error (.unterminatedEscape "k\"")) ∧
    QuotesEscaped unbalanced ∧
      readValue "tag" false ('\"' :: unbalanced) = .error (.unbalancedQuotes "tag") := by
  intro spelling slashed unbalanced
  obtain ⟨hclosed, hunclosed⟩ := readQuoted_undoes_escaping
  have hspelling : Escaped "a\"\\".toList spelling := .escaped (.escaped (.escaped .nil))
  have hunbalanced : Escaped "k\"=\\".toList unbalanced :=
    .plain (by decide) (by decide) (.escaped (.plain (by decide) (by decide) (.escaped .nil)))
  have hslashed : EscapedToSlash "k\"=\\".toList slashed := ⟨unbalanced, hunbalanced, rfl⟩
  have hkey := ((hunclosed slashed).2 hslashed.quotesEscaped).2.1
  have hvalue := ((hunclosed unbalanced).2 hunbalanced.quotesEscaped).2.2 "tag" false
  have hkeyFault : unclosedFault slashed (String.ofList (keyStem (readQuoted slashed).text)) =
      .unterminatedEscape "k\"" := by decide +kernel
  have hvalueFault : unclosedFault unbalanced "tag" = .unbalancedQuotes "tag" := by decide +kernel
  rw [hkeyFault] at hkey
  rw [hvalueFault] at hvalue
  exact ⟨⟨hspelling, (hclosed _ _ _ hspelling).1⟩, ⟨hslashed.quotesEscaped, hkey⟩,
    hunbalanced.quotesEscaped, hvalue⟩

end NodeDiscovery.Config
