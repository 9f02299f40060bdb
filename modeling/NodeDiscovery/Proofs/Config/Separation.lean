import NodeDiscovery.Proofs.Config.Concatenation

/-! The blanks between one pair and the next. They can be left out after a value in quotes, and
nowhere else. -/
namespace NodeDiscovery.Config
open NodeDiscovery.Text

/-- In front of `after`, `front` and `value` together spell the pairs, and `value` alone is the
value of the last one. -/
inductive LastValue (after : List Char) :
    List (String × String) → List Char → List Char → Prop where
  | mk {pairs : List (String × String)} {before keyText w₁ w₂ valueText : List Char}
      {key value : String}
      (hbefore : Spells (keyText ++ w₁ ++ '=' :: (w₂ ++ (valueText ++ after))) pairs before)
      (hkey : KeyToken key keyText) (h₁ : Blanks w₁) (h₂ : Blanks w₂)
      (hvalue : ValueToken after value valueText) :
      LastValue after (pairs ++ [(key, value)]) (before ++ (keyText ++ w₁ ++ '=' :: w₂)) valueText

/-- A place of the text where a pair is followed by another one: up to it stand `front` and the
value of the pair, after it the blanks of the gap and a text that starts with the next key. -/
structure Joint (s : String) (front value gap rest : List Char) : Prop where
  text : s.toList = front ++ value ++ gap ++ rest
  value : ∃ pairs, LastValue (gap ++ rest) pairs front value
  gap : Blanks gap
  next : ∃ key token, KeyToken key token ∧ token <+: rest

/-! Spellings of several pairs -/

theorem Spells.append {rest text₁ text₂ : List Char} {pairs₁ pairs₂ : List (String × String)}
    (h₁ : Spells (text₂ ++ rest) pairs₁ text₁) (h₂ : Spells rest pairs₂ text₂) :
    Spells rest (pairs₁ ++ pairs₂) (text₁ ++ text₂) := by
  induction h₁ with
  | blanks hw => exact h₂.blanks_append hw
  | pair hw hpair _ ih =>
    rw [List.append_assoc]
    refine .pair hw ?_ ih
    rwa [List.append_assoc]

theorem Spells.exists_append {rest text : List Char} {pairs₁ pairs₂ : List (String × String)}
    (h : Spells rest (pairs₁ ++ pairs₂) text) :
    ∃ text₁ text₂, text = text₁ ++ text₂ ∧ Spells (text₂ ++ rest) pairs₁ text₁ ∧
      Spells rest pairs₂ text₂ := by
  induction pairs₁ generalizing text with
  | nil => exact ⟨[], text, rfl, .blanks blanks_nil, h⟩
  | cons pair pairs₁ ih =>
    cases h with
    | @pair w pairText tail _ _ _ hw hpair htail =>
      obtain ⟨text₁, text₂, rfl, h₁, h₂⟩ := ih htail
      refine ⟨w ++ pairText ++ text₁, text₂, by simp, .pair hw ?_ h₁, h₂⟩
      rwa [← List.append_assoc]

/-! Runs over accepted texts -/

theorem Scans.concat {cs rest after : List Char} {pairs : List (String × String)}
    {pair : String × String} (h : Scans cs pairs rest)
    (hpair : readPair (skipBlanks rest) = .ok (pair, after)) :
    Scans cs (pairs ++ [pair]) after := by
  induction h with
  | done => exact .pair hpair .done
  | pair hp _ ih => exact .pair hp (ih hpair)

theorem Scans.of_parse {s : String} {c : Config} {rest : List Char} {pairs : List (String × String)}
    (h : Scans s.toList pairs rest) (hparse : parse s = .ok c) :
    (pairs.map Prod.fst).Nodup ∧ ∀ key value, (key, value) ∈ pairs → c.get? key = some value := by
  obtain ⟨all, ⟨last, hall, hblank⟩, hnodup, rfl⟩ := parse_eq_ok_iff_yields.mp hparse
  have hfirst : pairs <+: all := by
    rcases h.continues hall with ⟨more, rfl, -⟩ | ⟨more, rfl, hmore⟩
    · exact List.prefix_append _ _
    · simp [hmore.eq_nil_of_blanks hblank]
  refine ⟨hnodup.sublist (hfirst.sublist.map _), fun key value hmem => ?_⟩
  exact (Table.get?_ofList_eq_some_iff hnodup).mpr (hfirst.subset hmem)

theorem Scans.goes_on {s : String} {c : Config} {rest : List Char} {pairs : List (String × String)}
    (h : Scans s.toList pairs rest) (hparse : parse s = .ok c) (hrest : skipBlanks rest ≠ []) :
    ∃ pair after, readPair (skipBlanks rest) = .ok (pair, after) := by
  rw [parse_eq_of_scans h (h.of_parse hparse).1] at hparse
  cases hpair : readPair (skipBlanks rest) with
  | ok read => exact ⟨read.1, read.2, rfl⟩
  | error e =>
    rw [readPairs_of_error (mt skipBlanks_eq_nil_iff.mpr hrest) hpair] at hparse
    cases hparse

/-! Last values -/

theorem Spells.before_key {key : String} {keyText w text after : List Char}
    {pairs : List (String × String)} (h : Spells (keyText ++ w ++ after) pairs text)
    (hkey : KeyToken key keyText) (after' : List Char) :
    Spells (keyText ++ w ++ after') pairs text := by
  refine h.before fun hblank c hc => hblank c ?_
  rw [List.append_assoc, List.head?_append_of_ne_nil _ hkey.ne_nil] at hc ⊢
  exact hc

theorem ValueToken.before {after after' token : List Char} {value : String}
    (h : ValueToken after value token)
    (hafter : token.head? = some '\"' ∨ ∀ c ∈ after'.head?, isBlank c = true) :
    ValueToken after' value token := by
  cases h with
  | bare hne hquote hword _ => exact .bare hne hquote hword (hafter.resolve_left hquote)
  | quoted hescaped => exact .quoted hescaped

theorem LastValue.before {after after' front value : List Char} {pairs : List (String × String)}
    (h : LastValue after pairs front value)
    (hafter : value.head? = some '\"' ∨ ∀ c ∈ after'.head?, isBlank c = true) :
    LastValue after' pairs front value := by
  obtain ⟨hbefore, hkey, h₁, h₂, hvalue⟩ := h
  exact .mk (hbefore.before_key hkey _) hkey h₁ h₂ (hvalue.before hafter)

theorem LastValue.spells {after front value : List Char} {pairs : List (String × String)}
    (h : LastValue after pairs front value) : Spells after pairs (front ++ value) := by
  obtain ⟨hbefore, hkey, h₁, h₂, hvalue⟩ := h
  rename_i pairs before keyText w₁ w₂ key value
  have hlast := (PairText.mk hkey h₁ h₂ hvalue).spells
  have hall := Spells.append (by simpa using hbefore) hlast
  simpa using hall

theorem LastValue.parse_eq {s : String} {front value gap rest : List Char}
    {pairs : List (String × String)} (h : LastValue (gap ++ rest) pairs front value)
    (hs : s.toList = front ++ value ++ gap ++ rest) (hgap : Blanks gap)
    (hnodup : (pairs.map Prod.fst).Nodup) : parse s = readPairs (.ofList pairs) rest := by
  obtain ⟨w, hw, hscans⟩ := h.spells.scans
  rw [← List.append_assoc, ← hs] at hscans
  rw [parse_eq_of_scans hscans hnodup, readPairs_blanks_append hw, readPairs_blanks_append hgap]

/-- Read together with the text behind it, a bare value is longer, if it can be read at all. -/
theorem value_ne_of_readPair {keyText w₁ w₂ word rest after : List Char} {key : String}
    {pair : String × String} (hkey : KeyToken key keyText) (h₁ : Blanks w₁) (h₂ : Blanks w₂)
    (hne : word ≠ []) (hquote : word.head? ≠ some '\"')
    (hword : ∀ c ∈ word, isBlank c = false ∧ c ≠ '=') (hrest : rest ≠ [])
    (hhead : ∀ c ∈ rest.head?, isBlank c = false)
    (h : readPair (keyText ++ w₁ ++ '=' :: (w₂ ++ (word ++ rest))) = .ok (pair, after)) :
    pair.1 = key ∧ pair.2 ≠ String.ofList word := by
  have hk : readKey (keyText ++ w₁ ++ '=' :: (w₂ ++ (word ++ rest))) =
      .ok (key, w₁ ++ '=' :: (w₂ ++ (word ++ rest))) :=
    readKey_eq_ok_iff.mpr ⟨keyText, by simp, hkey.whole (head_blanks_append_sign h₁ _)⟩
  obtain ⟨c, word, rfl⟩ := List.exists_cons_of_ne_nil hne
  obtain ⟨d, rest, rfl⟩ := List.exists_cons_of_ne_nil hrest
  have hd : isBlank d = false := hhead d rfl
  have hskip : skipBlanks (w₂ ++ (c :: word ++ d :: rest)) = c :: word ++ d :: rest := by
    rw [skipBlanks_append h₂, skipBlanks_eq_self]
    simpa using (hword c List.mem_cons_self).1
  -- The word goes on at least up to the first character of the rest.
  have htake : (c :: word ++ d :: rest).takeWhile (!isBlank ·) =
      c :: word ++ d :: rest.takeWhile (!isBlank ·) := by
    rw [List.takeWhile_append_of_pos fun e he => by simp [(hword e he).1]]
    simp [hd]
  rw [(readPair_of_readKey hk).1 _ (skipBlanks_append_sign h₁ _), hskip,
    readValue_bare (by simp) (by simpa using hquote), htake] at h
  split at h
  · cases h
  · cases h
    refine ⟨rfl, fun he => ?_⟩
    have hlist := String.ofList_injective he
    simp at hlist

namespace Joint
variable {s : String} {front value gap rest : List Char} {c : Config}

theorem head_rest (h : Joint s front value gap rest) :
    rest ≠ [] ∧ ∀ c ∈ rest.head?, isBlank c = false := by
  obtain ⟨key, token, hkey, tail, rfl⟩ := h.next
  refine ⟨by simp [hkey.ne_nil], fun c hc => hkey.head_not_blank c ?_⟩
  rwa [List.head?_append_of_ne_nil _ hkey.ne_nil] at hc

/-- The gap is empty only after a value in quotes. -/
theorem separated (h : Joint s front value gap rest) : gap ≠ [] ∨ value.head? = some '\"' := by
  obtain ⟨pairs, -, -, -, -, hvalue⟩ := h.value
  cases hvalue with
  | quoted _ => exact .inr rfl
  | bare _ _ _ hafter =>
    refine .inl fun hnil => ?_
    obtain ⟨hne, hhead⟩ := h.head_rest
    obtain ⟨d, tail, rfl⟩ := List.exists_cons_of_ne_nil hne
    have hblank := hafter d (by simp [hnil])
    rw [hhead d rfl] at hblank
    cases hblank

theorem distinct {pairs : List (String × String)} (h : Joint s front value gap rest)
    (hlast : LastValue (gap ++ rest) pairs front value) (hparse : parse s = .ok c) :
    (pairs.map Prod.fst).Nodup ∧ ∀ key value, (key, value) ∈ pairs → c.get? key = some value := by
  obtain ⟨w, -, hscans⟩ := hlast.spells.scans
  rw [← List.append_assoc, ← h.text] at hscans
  exact hscans.of_parse hparse

/-- Other blanks in the gap make no difference, and none at all are needed after a value in
quotes. -/
theorem parse_of_blanks (h : Joint s front value gap rest) (hparse : parse s = .ok c)
    {w : List Char} (hw : Blanks w) (hsep : w ≠ [] ∨ value.head? = some '\"') :
    parse (String.ofList (front ++ value ++ w ++ rest)) = .ok c := by
  obtain ⟨pairs, hlast⟩ := h.value
  have hnodup := (h.distinct hlast hparse).1
  have hother : LastValue (w ++ rest) pairs front value := by
    refine hlast.before (hsep.symm.imp_right fun hne c hc => hw c ?_)
    rw [List.head?_append_of_ne_nil _ hne] at hc
    exact List.mem_of_mem_head? hc
  rw [hother.parse_eq String.toList_ofList hw hnodup, ← hlast.parse_eq h.text h.gap hnodup, hparse]

/-- Without blanks after it, a bare value takes in what follows. -/
theorem parse_ne_of_bare (h : Joint s front value gap rest) (hparse : parse s = .ok c)
    (hbare : value.head? ≠ some '\"') :
    parse (String.ofList (front ++ value ++ rest)) ≠ .ok c := by
  intro hglued
  obtain ⟨hne, hhead⟩ := h.head_rest
  obtain ⟨pairs, hlast⟩ := h.value
  have hoptions := (h.distinct hlast hparse).2
  obtain ⟨hbefore, hkey, h₁, h₂, hvalue⟩ := hlast
  rename_i pairs before keyText w₁ w₂ key text
  cases hvalue with
  | quoted _ => exact hbare rfl
  | bare hword hquote hplain _ =>
    obtain ⟨w, hw, hscans⟩ := (hbefore.before_key hkey ('=' :: (w₂ ++ (value ++ rest)))).scans
    have htext : before ++ (keyText ++ w₁ ++ '=' :: (w₂ ++ (value ++ rest))) =
        (String.ofList (before ++ (keyText ++ w₁ ++ '=' :: w₂) ++ value ++ rest)).toList := by
      simp
    have hskip : skipBlanks (w ++ (keyText ++ w₁ ++ '=' :: (w₂ ++ (value ++ rest)))) =
        keyText ++ w₁ ++ '=' :: (w₂ ++ (value ++ rest)) := by
      rw [skipBlanks_append hw, skipBlanks_eq_self]
      intro c hc
      rw [List.append_assoc, List.head?_append_of_ne_nil _ hkey.ne_nil] at hc
      exact hkey.head_not_blank c hc
    rw [htext] at hscans
    obtain ⟨pair, after, hpair⟩ := hscans.goes_on hglued (by rw [hskip]; simp)
    obtain ⟨hname, hother⟩ :=
      value_ne_of_readPair hkey h₁ h₂ hword hquote hplain hne hhead (hskip ▸ hpair)
    have hshort := hoptions key (String.ofList value) (by simp)
    have hlong := ((hscans.concat hpair).of_parse hglued).2 pair.1 pair.2 (by simp)
    rw [hname, hshort] at hlong
    exact hother (Option.some.inj hlong).symm

end Joint

theorem exists_joint {s : String} {before after : List (String × String)}
    {pair next : String × String} (h : Spells [] (before ++ pair :: next :: after) s.toList) :
    ∃ front value gap rest, Joint s front value gap rest ∧
      LastValue (gap ++ rest) (before ++ [pair]) front value := by
  obtain ⟨text₁, text₂, htext, hbefore, hrest⟩ := h.exists_append
  cases hrest with
  | @pair w _ tail key value _ hw hpair htail =>
  cases htail with
  | @pair gap _ tail key' value' _ hgap hpair' _ =>
  cases hpair with
  | @mk keyText w₁ w₂ valueText hkey h₁ h₂ hvalue =>
  cases hpair' with
  | @mk keyText' w₁' w₂' valueText' hkey' _ _ _ =>
  have hlast : LastValue (gap ++ (keyText' ++ w₁' ++ '=' :: (w₂' ++ valueText') ++ tail))
      (before ++ [(key, value)]) (text₁ ++ w ++ (keyText ++ w₁ ++ '=' :: w₂)) valueText := by
    refine .mk (.append_blanks hw (by simpa using hbefore)) hkey h₁ h₂ ?_
    simpa using hvalue
  refine ⟨_, _, gap, _, ⟨?_, ⟨_, hlast⟩, hgap, key', keyText', hkey', ?_⟩, hlast⟩
  · rw [htext]
    simp
  · simp

theorem joint_of_first {s key value key' : String} {keyText valueText gap token rest : List Char}
    (hs : s.toList = keyText ++ ['='] ++ valueText ++ gap ++ (token ++ rest))
    (hkey : KeyToken key keyText) (hvalue : ValueToken (gap ++ (token ++ rest)) value valueText)
    (hgap : Blanks gap) (hnext : KeyToken key' token) :
    Joint s (keyText ++ ['=']) valueText gap (token ++ rest) := by
  have hbefore : Spells (keyText ++ [] ++ '=' :: ([] ++ (valueText ++ (gap ++ (token ++ rest)))))
      [] [] := .blanks blanks_nil
  have hlast := LastValue.mk hbefore hkey blanks_nil blanks_nil hvalue
  rw [List.nil_append, List.nil_append, List.append_nil] at hlast
  exact ⟨hs, ⟨_, hlast⟩, hgap, key', token, hnext, List.prefix_append _ _⟩

/-- The blanks between two pairs.

Between every value of an accepted text and the key after it there are blanks, unless the value is
in quotes. The text is accepted with the same options whatever blanks stand there instead; it still
is with none at all if and only if the value is in quotes. -/
theorem separated_unless_quoted {s : String} {c : Config} (hparse : parse s = .ok c) :
    (∀ before pair next after, Spells [] (before ++ pair :: next :: after) s.toList →
      ∃ front value gap rest, Joint s front value gap rest ∧
        LastValue (gap ++ rest) (before ++ [pair]) front value) ∧
    ∀ front value gap rest, Joint s front value gap rest →
      (gap ≠ [] ∨ value.head? = some '\"') ∧
      ∀ w, Blanks w → (parse (String.ofList (front ++ value ++ w ++ rest)) = .ok c ↔
        w ≠ [] ∨ value.head? = some '\"') := by
  refine ⟨fun before pair next after h => exists_joint h, fun front value gap rest h => ?_⟩
  refine ⟨h.separated, fun w hw => ⟨fun hother => ?_, h.parse_of_blanks hparse hw⟩⟩
  by_contra hglued
  obtain ⟨hnil, hbare⟩ := not_or.mp hglued
  obtain rfl : w = [] := not_not.mp hnil
  rw [List.append_nil] at hother
  exact h.parse_ne_of_bare hparse hbare hother

/-- Two values with a blank after them, of which the one in quotes can do without. -/
theorem separated_unless_quoted_sample :
    let c : Config := .ofList [("a", "x"), ("b", "c")]
    (parse "a=\"x\" b=c" = .ok c ∧ parse "a=\"x\"b=c" = .ok c) ∧
      parse "a=x b=c" = .ok c ∧ parse "a=xb=c" ≠ .ok c := by
  intro c
  have hparse (s : String) (h : Scans s.toList [("a", "x"), ("b", "c")] []) : parse s = .ok c :=
    parse_eq_ok_iff_yields.mpr ⟨_, ⟨[], h, blanks_nil⟩, by decide, rfl⟩
  have hquoted : parse "a=\"x\" b=c" = .ok c := hparse _ (.pair (by rfl) (.pair (by rfl) .done))
  have hbare : parse "a=x b=c" = .ok c := hparse _ (.pair (by rfl) (.pair (by rfl) .done))
  have ha : KeyToken "a" "a".toList :=
    .bare (by decide) (List.forall_mem_singleton.mpr (by decide))
  have hb : KeyToken "b" "b".toList :=
    .bare (by decide) (List.forall_mem_singleton.mpr (by decide))
  have hx : ValueToken " b=c".toList "x" "\"x\"".toList :=
    .quoted (.plain (by decide) (by decide) .nil)
  have hx' : ValueToken " b=c".toList "x" "x".toList :=
    .bare (by decide) (by decide) (List.forall_mem_singleton.mpr (by decide))
      (by rintro _ ⟨⟩; decide)
  have hblank : Blanks " ".toList := by decide
  have hjoint : Joint "a=\"x\" b=c" "a=".toList "\"x\"".toList " ".toList "b=c".toList :=
    joint_of_first (by rfl) ha hx hblank hb
  have hjoint' : Joint "a=x b=c" "a=".toList "x".toList " ".toList "b=c".toList :=
    joint_of_first (by rfl) ha hx' hblank hb
  obtain ⟨-, hglued⟩ := (separated_unless_quoted hquoted).2 _ _ _ _ hjoint
  obtain ⟨-, hglued'⟩ := (separated_unless_quoted hbare).2 _ _ _ _ hjoint'
  refine ⟨⟨hquoted, (hglued [] blanks_nil).mpr (.inr rfl)⟩, hbare, ?_⟩
  exact mt (hglued' [] blanks_nil).mp (by decide)

/-- A value in quotes with the next key right after it. -/
theorem joined_after_quotes :
    parse "a=\"x\"b=c" = .ok (.ofList [("a", "x"), ("b", "c")]) ∧
      Joint "a=\"x\"b=c" "a=".toList "\"x\"".toList [] "b=c".toList := by
  have ha : KeyToken "a" "a".toList :=
    .bare (by decide) (List.forall_mem_singleton.mpr (by decide))
  have hb : KeyToken "b" "b".toList :=
    .bare (by decide) (List.forall_mem_singleton.mpr (by decide))
  have hx : ValueToken "b=c".toList "x" "\"x\"".toList :=
    .quoted (.plain (by decide) (by decide) .nil)
  have hscans : Scans "a=\"x\"b=c".toList [("a", "x"), ("b", "c")] [] :=
    .pair (by rfl) (.pair (by rfl) .done)
  exact ⟨parse_eq_ok_iff_yields.mpr ⟨_, ⟨[], hscans, blanks_nil⟩, by decide, rfl⟩,
    joint_of_first (by rfl) ha hx blanks_nil hb⟩

end NodeDiscovery.Config
