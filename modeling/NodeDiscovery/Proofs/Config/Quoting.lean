import NodeDiscovery.Proofs.Config.RoundTrip

/-! Which tokens are written without quotes. They are those that can stand bare as a key: with any
other token in its place, the text is refused or means something else. -/
namespace NodeDiscovery.Config
open NodeDiscovery.Text

/-- Quotes take two characters, so a spelling without room for them is the bare key. -/
theorem KeyToken.bare_of_length_lt {key : String} {token : List Char} (h : KeyToken key token)
    (hlength : token.length < key.toList.length + 2) :
    token = key.toList ∧ needsQuotes token = false := by
  cases h with
  | bare hne hword =>
    rw [String.toList_ofList]
    exact ⟨rfl, needsQuotes_eq_false_iff.mpr ⟨hne, hword⟩⟩
  | quoted hescaped =>
    have hle := hescaped.length_le
    rw [String.toList_ofList, List.length_append, List.length_cons,
      List.length_singleton] at hlength
    omega

/-- What is written for a token is longer than the token if it is in quotes. -/
theorem writeToken_eq_self_iff {token : List Char} :
    writeToken token = token ↔ needsQuotes token = false := by
  rw [writeToken]
  split
  · next hquotes =>
    have hle := (escaped_flatMap_escape token).length_le
    refine ⟨fun h => ?_, fun h => absurd hquotes (by simp [h])⟩
    have hlength := congrArg List.length h
    rw [List.length_append, List.length_cons, List.length_singleton] at hlength
    omega
  · next hquotes => simpa using hquotes

theorem Spells.exists_keyToken {rest text : List Char} {pairs : List (String × String)}
    (h : Spells rest pairs text) {key value : String} (hmem : (key, value) ∈ pairs) :
    ∃ keyText, KeyToken key keyText ∧ keyText.length + 2 ≤ text.length := by
  induction h with
  | blanks _ => exact absurd hmem List.not_mem_nil
  | pair _ hpair _ ih =>
    rcases List.mem_cons.mp hmem with hfirst | hlater
    · obtain ⟨rfl, rfl⟩ := Prod.mk.inj hfirst
      obtain ⟨hkey, -, -, hvalue⟩ := hpair
      have hlength := List.length_pos_iff.mpr hvalue.ne_nil
      refine ⟨_, hkey, ?_⟩
      simp only [List.length_append, List.length_cons]
      omega
    · obtain ⟨keyText, hkey, hlength⟩ := ih hlater
      refine ⟨keyText, hkey, ?_⟩
      rw [List.length_append]
      omega

theorem parse_of_tokens {s key value : String} {keyText valueText : List Char}
    (hkey : KeyToken key keyText) (hvalue : ValueToken [] value valueText)
    (hs : s.toList = keyText ++ '=' :: valueText) : parse s = .ok (.ofList [(key, value)]) := by
  have hspells := (PairText.mk hkey blanks_nil blanks_nil hvalue).spells
  refine parse_eq_ok_iff_yields.mpr ⟨[(key, value)], yields_iff_spells.mpr ?_, by simp, rfl⟩
  rw [hs]
  simpa using hspells

/-- A token is written as it is if and only if, standing bare in front of an equals sign, it is read
as the key of a pair, and of this pair only. Then it can also stand bare as a value. -/
theorem writeToken_eq_self_iff_parse (token : String) :
    (writeToken token.toList = token.toList ↔
      parse (token ++ "=x") = .ok (.ofList [(token, "x")])) ∧
    (writeToken token.toList = token.toList →
      parse ("x=" ++ token) = .ok (.ofList [("x", token)])) := by
  have hkeyX : KeyToken "x" ['x'] := keyToken_writeToken "x"
  have hvalueX : ValueToken [] "x" ['x'] := valueToken_writeToken (by simp) "x"
  refine ⟨⟨fun hbare => ?_, fun hparse => ?_⟩, fun hbare => ?_⟩
  · have hkey := keyToken_writeToken token
    rw [hbare] at hkey
    exact parse_of_tokens hkey hvalueX (by simp)
  · obtain ⟨pairs, hspells, -, hpairs⟩ := (parse_eq_ok_iff_spells _ _).mp hparse
    have hmem : (token, "x") ∈ pairs :=
      (hpairs token "x").mp ((Table.get?_ofList_eq_some_iff (by simp)).mpr (by simp))
    obtain ⟨keyText, hkey, hlength⟩ := hspells.exists_keyToken hmem
    -- the text is two characters longer than the token, so its key has no room for quotes
    have hroom : (token ++ "=x").toList.length = token.toList.length + 2 := by
      rw [String.toList_append, List.length_append]
      rfl
    obtain ⟨rfl, hquotes⟩ := hkey.bare_of_length_lt (by omega)
    exact writeToken_eq_self_iff.mpr hquotes
  · have hvalue : ValueToken [] token (writeToken token.toList) :=
      valueToken_writeToken (by simp) token
    rw [hbare] at hvalue
    exact parse_of_tokens hkeyX hvalue (by simp)

/-- A backslash needs no quotes. A key that is written in quotes is read as a key, but as another
one. -/
theorem writeToken_eq_self_iff_parse_sample :
    writeToken "a\\b".toList = "a\\b".toList ∧
      parse "a\\b=x" = .ok (.ofList [("a\\b", "x")]) ∧
      parse "x=a\\b" = .ok (.ofList [("x", "a\\b")]) ∧
      writeToken "\"a\"".toList ≠ "\"a\"".toList ∧
      parse "\"a\"=x" ≠ .ok (.ofList [("\"a\"", "x")]) := by
  have hbare : writeToken "a\\b".toList = "a\\b".toList := by decide +kernel
  have hquoted : writeToken "\"a\"".toList ≠ "\"a\"".toList := by decide +kernel
  obtain ⟨hkey, hvalue⟩ := writeToken_eq_self_iff_parse "a\\b"
  exact ⟨hbare, hkey.mp hbare, hvalue hbare, hquoted,
    mt (writeToken_eq_self_iff_parse "\"a\"").1.mpr hquoted⟩

end NodeDiscovery.Config
