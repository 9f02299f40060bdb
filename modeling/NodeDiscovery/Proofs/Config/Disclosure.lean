import NodeDiscovery.Proofs.Config.Concatenation

/-! What the fault of a text gives away. The values of the pairs in front of it do not matter, and a
value that cannot be read shows as its key. -/
namespace NodeDiscovery

def SyntaxError.key? : SyntaxError → Option String
  | .missingKey => none
  | .missingEquals key | .missingValue key | .unbalancedQuotes key | .unterminatedEscape key
  | .duplicateKey key | .unquotedEquals key => some key

namespace Config
open NodeDiscovery.Text

def SameKeys (c c' : Config) : Prop := ∀ key, c'.contains key = c.contains key

/-- No value stands at the front, not even after blanks. -/
def NoValue (cs : List Char) : Prop :=
  ∀ w text tail value, cs = w ++ (text ++ tail) → Blanks w → ¬ ValueToken tail value text

/-! Values that were read -/

theorem SameKeys.insert {c c' : Config} (h : SameKeys c c') (key value value' : String) :
    SameKeys (c.insert key value) (c'.insert key value') := by
  intro other
  rw [Bool.eq_iff_iff, Table.contains_insert, Table.contains_insert, h other]

/-- How reading goes on depends on the keys so far, and not on their values. -/
theorem readPairs_map_forget {c c' : Config} (h : SameKeys c c') (cs : List Char) :
    (readPairs c' cs).map (fun _ => ()) = (readPairs c cs).map fun _ => () := by
  -- Along the reading from `c`; the other one takes the same steps, with other values so far.
  fun_induction readPairs c cs generalizing c' with
  | case1 c cs hempty =>
    have hb : Blanks cs := skipBlanks_eq_nil_iff.mp (List.isEmpty_iff.mp hempty)
    rw [readPairs_of_blanks hb]
    rfl
  | case2 c cs hempty e he =>
    have hb : ¬ Blanks cs := fun hb => hempty (List.isEmpty_iff.mpr (skipBlanks_eq_nil_iff.mpr hb))
    rw [readPairs_of_error hb he]
  | case3 c cs hempty key value after hp hc =>
    rw [readPairs_of_pair hp, h key, if_pos hc]
  | case4 c cs hempty key value after hp hc ih =>
    rw [readPairs_of_pair hp, h key, if_neg hc]
    exact ih (h.insert key value value)

/-- After texts with the same keys the same text is accepted, or refused for the same fault. -/
theorem parse_append_of_sameKeys {s s' w : String} {c c' : Config} (h : parse s = .ok c)
    (h' : parse s' = .ok c') (hkeys : SameKeys c c') (hw : Blanks w.toList) (hne : w ≠ "")
    (r : String) :
    ((∃ d, parse (s ++ w ++ r) = .ok d) ∧ ∃ d', parse (s' ++ w ++ r) = .ok d') ∨
      ∃ e, parse (s ++ w ++ r) = .error e ∧ parse (s' ++ w ++ r) = .error e := by
  have hforget := readPairs_map_forget hkeys r.toList
  rw [parse_append_eq h hw hne, parse_append_eq h' hw hne]
  cases hread : readPairs c r.toList with
  | ok d =>
    rw [hread] at hforget
    cases hread' : readPairs c' r.toList with
    | ok d' => exact .inl ⟨⟨d, rfl⟩, d', rfl⟩
    | error e =>
      rw [hread'] at hforget
      cases hforget
  | error e =>
    rw [hread] at hforget
    cases hread' : readPairs c' r.toList with
    | ok d' =>
      rw [hread'] at hforget
      cases hforget
    | error e' =>
      rw [hread'] at hforget
      obtain rfl : e' = e := Except.error.inj hforget
      exact .inr ⟨e', rfl, rfl⟩

/-! Values that cannot be read -/

theorem key?_of_readValue {key : String} {spaced : Bool} {cs : List Char} {e : SyntaxError}
    (h : readValue key spaced cs = .error e) : e.key? = some key := by
  unfold readValue at h
  split at h
  · cases h
    rfl
  · split at h
    · cases h
    · cases h
      rfl
    · cases h
      rfl
  · dsimp only at h
    split at h
    · cases spaced <;> cases h <;> rfl
    · cases h

/-- Reading a value fails just where none stands. -/
theorem noValue_iff {key : String} {spaced : Bool} {after : List Char} :
    NoValue after ↔ ∃ e, readValue key spaced (skipBlanks after) = .error e := by
  constructor
  · intro hnone
    cases hread : readValue key spaced (skipBlanks after) with
    | error e => exact ⟨e, rfl⟩
    | ok p =>
      obtain ⟨value, rest⟩ := p
      obtain ⟨text, htext, hvalue⟩ := (readValue_eq_ok_iff (head_skipBlanks after)).mp hread
      obtain ⟨w, hw, hafter⟩ := exists_blanks_append_skipBlanks after
      rw [htext] at hafter
      exact absurd hvalue (hnone w text rest value hafter hw)
  · rintro ⟨e, he⟩ w text tail value rfl hw hvalue
    have hread : readValue key spaced (text ++ tail) = .ok (value, tail) :=
      (readValue_eq_ok_iff hvalue.head_not_blank).mpr ⟨text, rfl, hvalue⟩
    rw [skipBlanks_append hw, skipBlanks_eq_self hvalue.head_not_blank, hread] at he
    cases he

theorem parse_append_eq_of_blanks {s w r : String} {c : Config} (h : parse s = .ok c)
    (hw : Blanks w.toList) (hne : s = "" ∨ w ≠ "") :
    parse (s ++ w ++ r) = readPairs c r.toList := by
  rcases hne with rfl | hne
  · have hempty : parse "" = .ok .empty := readPairs_of_blanks blanks_nil
    rw [hempty] at h
    cases h
    rw [parse, String.empty_append, String.toList_append, readPairs_blanks_append hw]
  · exact parse_append_eq h hw hne

theorem SignedKey.ne_nil {cs after : List Char} {key : String} (h : SignedKey cs key after) :
    cs ≠ [] := by
  obtain ⟨token, gap, htoken, -, rfl⟩ := h
  simp [htoken.ne_nil]

theorem SignedKey.head_not_blank {cs after : List Char} {key : String}
    (h : SignedKey cs key after) : ∀ c ∈ cs.head?, isBlank c = false := by
  obtain ⟨token, gap, htoken, -, rfl⟩ := h
  intro c hc
  refine htoken.head_not_blank c ?_
  rwa [List.append_assoc, List.head?_append_of_ne_nil _ htoken.ne_nil] at hc

theorem parse_append_of_readValue {s w r : String} {c : Config} {key : String} {after : List Char}
    {e : SyntaxError} (h : parse s = .ok c) (hw : Blanks w.toList) (hne : s = "" ∨ w ≠ "")
    (hkey : SignedKey r.toList key after)
    (hvalue : readValue key (after.head?.any isBlank) (skipBlanks after) = .error e) :
    parse (s ++ w ++ r) = .error e := by
  have hself : skipBlanks r.toList = r.toList := skipBlanks_eq_self hkey.head_not_blank
  have hblank : ¬ Blanks r.toList := by
    intro hb
    exact hkey.ne_nil (hself.symm.trans (skipBlanks_eq_nil_iff.mpr hb))
  have hpair : readPair (skipBlanks r.toList) = .error e := by
    rw [hself]
    exact hkey.readPair_error hvalue
  rw [parse_append_eq_of_blanks h hw hne, readPairs_of_error hblank hpair]

/-- Faults tell of keys only.

Texts that are accepted and have the same keys can stand for each other in front of any other text:
with either of them in front it is accepted, or refused for one and the same fault. And where no
value stands after a key and its equals sign, reading the value fails, its fault is that of the
whole text, and it carries the key, whatever stands there instead. -/
theorem faults_tell_of_keys :
    (∀ (s s' w r : String) (c c' : Config), parse s = .ok c → parse s' = .ok c' → SameKeys c c' →
      Blanks w.toList → w ≠ "" →
      ((∃ d, parse (s ++ w ++ r) = .ok d) ∧ ∃ d', parse (s' ++ w ++ r) = .ok d') ∨
        ∃ e, parse (s ++ w ++ r) = .error e ∧ parse (s' ++ w ++ r) = .error e) ∧
    ∀ (s w r : String) (c : Config) (key : String) (after : List Char), parse s = .ok c →
      Blanks w.toList → s = "" ∨ w ≠ "" → SignedKey r.toList key after →
      (NoValue after ↔
        ∃ e, readValue key (after.head?.any isBlank) (skipBlanks after) = .error e) ∧
      ∀ e, readValue key (after.head?.any isBlank) (skipBlanks after) = .error e →
        parse (s ++ w ++ r) = .error e ∧ e.key? = some key := by
  constructor
  · intro s s' w r c c' h h' hkeys hw hne
    exact parse_append_of_sameKeys h h' hkeys hw hne r
  · intro s w r c key after h hw hne hkey
    refine ⟨noValue_iff, fun e he => ⟨?_, key?_of_readValue he⟩⟩
    exact parse_append_of_readValue h hw hne hkey he

/-- A key that comes twice, after two texts for different values, and a quoted value that does not
end, in front of nothing and after a pair. -/
theorem faults_tell_of_keys_sample :
    let one : Config := .ofList [("a", "1")]
    let two : Config := .ofList [("a", "2 3")]
    (SameKeys one two ∧ parse ("a=\"2 3\"" ++ " " ++ "a=x") = .error (.duplicateKey "a")) ∧
    parse ("" ++ "" ++ "b=\"secret") = .error (.unbalancedQuotes "b") ∧
      parse ("a=1" ++ " " ++ "b=\"secret") = .error (.unbalancedQuotes "b") := by
  intro one two
  have hone : parse "a=1" = .ok one := by decide +kernel
  have htwo : parse "a=\"2 3\"" = .ok two := by decide +kernel
  have hempty : parse "" = .ok .empty := readPairs_of_blanks blanks_nil
  have htwice : parse ("a=1" ++ " " ++ "a=x") = .error (.duplicateKey "a") := by decide +kernel
  have hsame : SameKeys one two := by
    intro key
    rw [Bool.eq_iff_iff, Table.contains_ofList, Table.contains_ofList]
    rfl
  have hkey : SignedKey "b=\"secret".toList "b" "\"secret".toList :=
    ⟨['b'], [], .bare (by decide) (List.forall_mem_singleton.mpr (by decide)), blanks_nil, rfl⟩
  have hvalue : readValue "b" ("\"secret".toList.head?.any isBlank)
      (skipBlanks "\"secret".toList) = .error (.unbalancedQuotes "b") := by rfl
  obtain ⟨hshared, hunread⟩ := faults_tell_of_keys
  refine ⟨⟨hsame, ?_⟩, ?_, ?_⟩
  · obtain ⟨⟨d, hd⟩, -⟩ | ⟨e, he, he'⟩ :=
      hshared "a=1" "a=\"2 3\"" " " "a=x" one two hone htwo hsame (by decide) (by decide)
    · rw [htwice] at hd
      cases hd
    · rw [htwice] at he
      rw [he', he]
  · obtain ⟨-, hfault⟩ := hunread "" "" "b=\"secret" .empty "b" "\"secret".toList hempty
      blanks_nil (.inl rfl) hkey
    exact (hfault _ hvalue).1
  · obtain ⟨-, hfault⟩ := hunread "a=1" " " "b=\"secret" one "b" "\"secret".toList hone
      (by decide) (.inr (by decide)) hkey
    exact (hfault _ hvalue).1

end Config
end NodeDiscovery
