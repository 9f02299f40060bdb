import NodeDiscovery.Proofs.Config.Disclosure
import NodeDiscovery.Proofs.Config.Fault

/-! What a fault at a key carries. Where a key is cut off or stands bare this is a word of its own,
but quotes that are closed may hold other options, and then all of them show. -/
namespace NodeDiscovery

/-- The fault is of what stands before the equals sign of a pair. -/
def SyntaxError.IsAtKey : SyntaxError → Prop
  | .missingKey | .missingEquals _ | .unbalancedQuotes _ | .unterminatedEscape _ => True
  | .missingValue _ | .duplicateKey _ | .unquotedEquals _ => False

namespace Config
open NodeDiscovery.Text

/-- A text without blanks and equals signs, which is no text of more options than one. -/
def SingleWord (text : List Char) : Prop := ∀ c ∈ text, isBlank c = false ∧ c ≠ '='

/-- A text in quotes that are closed stands in front of `after`. -/
def ClosedQuote (r text after : List Char) : Prop :=
  ∃ spelling, Escaped text spelling ∧ r = '\"' :: spelling ++ '\"' :: after

theorem Stem.singleWord {stem text : List Char} (h : Stem stem text) : SingleWord stem := by
  obtain ⟨cut, -, hstem, -⟩ := h
  exact hstem

theorem ClosedQuote.readKey {r text after : List Char} (h : ClosedQuote r text after) :
    readKey r = .ok (String.ofList text, after) := by
  obtain ⟨spelling, he, rfl⟩ := h
  have hquoted : readQuoted (spelling ++ '\"' :: after) = .closed text after :=
    readQuoted_eq_closed_iff.mpr ⟨spelling, he, rfl⟩
  rw [List.cons_append, Config.readKey, hquoted]

theorem KeyToken.closedQuote {key : String} {token : List Char} (h : KeyToken key token)
    (after : List Char) :
    SingleWord key.toList ∨ ∃ text, ClosedQuote (token ++ after) text after := by
  cases h with
  | @bare word hne hword =>
    left
    rw [String.toList_ofList]
    intro c hc
    exact ⟨(hword c hc).1, (hword c hc).2.1⟩
  | @quoted text spelling he =>
    right
    exact ⟨text, spelling, he, by simp⟩

theorem ClosedQuote.readPair {r text after : List Char} (h : ClosedQuote r text after)
    (hsign : ∀ key rest, ¬ SignedKey r key rest) :
    readPair r = .error (.missingEquals (String.ofList text)) := by
  apply (readPair_of_readKey h.readKey).2
  intro hhead
  obtain ⟨spelling, he, rfl⟩ := h
  obtain ⟨rest, hrest⟩ := List.head?_eq_some_iff.mp hhead
  obtain ⟨w, hw, hafter⟩ := exists_blanks_append_skipBlanks after
  -- With the equals sign there the closed quotes would be a key that has it.
  apply hsign (String.ofList text) rest
  refine ⟨'\"' :: spelling ++ ['\"'], w, .quoted he, hw, ?_⟩
  rw [hafter, hrest]
  simp

theorem OpenQuote.singleWord {meets : List Char → List Char → Prop} {r : List Char} {key : String}
    (h : OpenQuote meets r key) (hsign : ∀ key rest, ¬ SignedKey r key rest) :
    SingleWord key.toList := by
  rcases h with ⟨text, inner, -, -, hstem⟩ | ⟨after, w, text, inner, hkey, -⟩
  · exact hstem.singleWord
  · exact absurd hkey (hsign key after)

theorem Fault.isAtKey {keys : List String} {r : List Char} {e : SyntaxError} (h : Fault keys r e)
    (hsign : ∀ key rest, ¬ SignedKey r key rest) : e.IsAtKey := by
  cases e with
  | missingKey | missingEquals | unbalancedQuotes | unterminatedEscape => trivial
  | missingValue key =>
    obtain ⟨after, hkey, -⟩ := h
    exact hsign key after hkey
  | unquotedEquals key =>
    obtain ⟨after, hkey, -⟩ := h
    exact hsign key after hkey
  | duplicateKey key =>
    obtain ⟨-, value, text, tail, rfl, hpair⟩ := h
    cases hpair with
    | @mk keyText w₁ w₂ valueText hkey hw =>
      exact hsign key (w₂ ++ valueText ++ tail) ⟨keyText, w₁, hkey, hw, by simp⟩

/-- What a fault at a key carries is a word, unless it is all that closed quotes hold. -/
theorem Fault.singleWord_or {keys : List String} {r : List Char} {e : SyntaxError}
    (h : Fault keys r e) (hsign : ∀ key rest, ¬ SignedKey r key rest) {carried : String}
    (hcarried : e.key? = some carried) :
    SingleWord carried.toList ∨ ∃ text after, ClosedQuote r text after := by
  cases e with
  | missingKey => cases hcarried
  | missingEquals key =>
    cases hcarried
    obtain ⟨token, after, rfl, hwhole, -⟩ := h
    rcases hwhole.1.closedQuote after with hword | ⟨text, hclosed⟩
    · exact .inl hword
    · exact .inr ⟨text, after, hclosed⟩
  | unbalancedQuotes key =>
    cases hcarried
    exact .inl (OpenQuote.singleWord h hsign)
  | unterminatedEscape key =>
    cases hcarried
    exact .inl (OpenQuote.singleWord h hsign)
  | missingValue | duplicateKey | unquotedEquals => exact absurd (h.isAtKey hsign) id

theorem stopsAt_of_readKey {s : String} {e : SyntaxError}
    (h : readKey (skipBlanks s.toList) = .error e) (hb : ¬ Blanks s.toList) :
    ∃ p, StopsAt s [] p (skipBlanks s.toList) := by
  apply StopsAt.of_scans .done List.nodup_nil hb
  intro key value after hp
  rw [readPair_eq_error_of_readKey h] at hp
  cases hp

/-- Where reading stops and no key with its equals sign stands, the text is refused for a fault at a
key. Closed quotes show whole in it, whatever they hold, which may be other options with their
values; a word, or quotes that are not closed, show as a single word. So no more than that shows if
and only if no closed quotes with more in them stand there. -/
theorem key_fault_single_word_iff {s : String} {pairs : List (String × String)} {p r : List Char}
    (hstop : StopsAt s pairs p r) (hsign : ∀ key rest, ¬ SignedKey r key rest) :
    ∃ e, parse s = .error e ∧ e.IsAtKey ∧
      (∀ text after, ClosedQuote r text after → e = .missingEquals (String.ofList text)) ∧
      ((∀ carried, e.key? = some carried → SingleWord carried.toList) ↔
        ∀ text after, ClosedQuote r text after → SingleWord text) := by
  obtain ⟨e, he⟩ := hstop.exists_error
  have hfault : Fault (pairs.map Prod.fst) r e := hstop.parse_eq_error_iff_fault.mp he
  have hclosed : ∀ text after, ClosedQuote r text after →
      e = .missingEquals (String.ofList text) := by
    intro text after h
    have hparse := hstop.parse_eq_error_iff.mpr (.inl (h.readPair hsign))
    rw [he] at hparse
    exact Except.error.inj hparse
  refine ⟨e, he, hfault.isAtKey hsign, hclosed, ?_, ?_⟩
  · intro hwords text after h
    have hword := hwords (String.ofList text) (by rw [hclosed text after h]; rfl)
    rwa [String.toList_ofList] at hword
  · intro hquotes carried hcarried
    rcases hfault.singleWord_or hsign hcarried with hword | ⟨text, after, h⟩
    · exact hword
    · rw [hclosed text after h] at hcarried
      cases hcarried
      rw [String.toList_ofList]
      exact hquotes text after h

/-- Quotes that break off, with a secret in them, of which only the first word shows. -/
theorem key_fault_single_word_sample :
    let s := "\"k secret_access_key=X\\"
    (∃ p, StopsAt s [] p s.toList) ∧ (∀ key rest, ¬ SignedKey s.toList key rest) ∧
      parse s = .error (.unterminatedEscape "k") ∧
        ∃ e, parse s = .error e ∧ ∀ carried, e.key? = some carried → SingleWord carried.toList := by
  intro s
  have hread : readKey s.toList = .error (.unterminatedEscape "k") := by decide +kernel
  have hparse : parse s = .error (.unterminatedEscape "k") := by decide +kernel
  have hsign : ∀ key rest, ¬ SignedKey s.toList key rest := by
    intro key rest h
    obtain ⟨w, -, hkey⟩ := h.readKey
    rw [hread] at hkey
    cases hkey
  have hskip : skipBlanks s.toList = s.toList := by decide +kernel
  obtain ⟨p, hstop⟩ := stopsAt_of_readKey (s := s) (hskip.symm ▸ hread) (by decide +kernel)
  rw [hskip] at hstop
  obtain ⟨e, he, -, -, hwords⟩ := key_fault_single_word_iff hstop hsign
  refine ⟨⟨p, hstop⟩, hsign, hparse, e, he, hwords.mpr ?_⟩
  intro text after h
  rw [h.readKey] at hread
  cases hread

/-- Quotes that begin too early and are closed by those of a later value. The key they make shows
whole, with a token in it. -/
theorem closed_quotes_show_options :
    let shown := "provider=aws token=s3cr3t tag="
    parse "\"provider=aws token=s3cr3t tag=\"x\"" = .error (.missingEquals shown) ∧
      ' ' ∈ shown.toList ∧ '=' ∈ shown.toList := by
  decide +kernel

end Config
end NodeDiscovery
