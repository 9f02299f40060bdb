import NodeDiscovery.Config.Parser
import Mathlib.Data.List.TakeWhile

/-! Spellings of keys, values and pairs, said without the readers. Each reader takes one spelling
off the front of a text, and takes it off every text that begins with one. -/
namespace NodeDiscovery.Config
open NodeDiscovery.Text

/-- The spellings of a text between quotes: quotes and backslashes need a backslash in front of
them, any other character may have one. -/
inductive Escaped : List Char → List Char → Prop where
  | nil : Escaped [] []
  | plain {c : Char} {text spelling : List Char} (hquote : c ≠ '\"') (hslash : c ≠ '\\')
      (h : Escaped text spelling) : Escaped (c :: text) (c :: spelling)
  | escaped {c : Char} {text spelling : List Char} (h : Escaped text spelling) :
      Escaped (c :: text) ('\\' :: c :: spelling)

/-- The spellings of a key: a bare word, or a text in quotes. -/
inductive KeyToken : String → List Char → Prop where
  | bare {word : List Char} (hne : word ≠ [])
      (hword : ∀ c ∈ word, isBlank c = false ∧ c ≠ '=' ∧ c ≠ '\"') :
      KeyToken (String.ofList word) word
  | quoted {text spelling : List Char} (h : Escaped text spelling) :
      KeyToken (String.ofList text) ('\"' :: spelling ++ ['\"'])

/-- A spelling of a key in front of `after` that is not the beginning of a longer one. -/
def WholeKey (after : List Char) (key : String) (token : List Char) : Prop :=
  KeyToken key token ∧
    (token.head? ≠ some '\"' → ∀ c ∈ after.head?, isBlank c = true ∨ c = '=' ∨ c = '\"')

/-- The spellings of a value in front of `after`. A bare word does not begin with a quote and goes
on up to a blank or the end. -/
inductive ValueToken (after : List Char) : String → List Char → Prop where
  | bare {word : List Char} (hne : word ≠ []) (hquote : word.head? ≠ some '\"')
      (hword : ∀ c ∈ word, isBlank c = false ∧ c ≠ '=')
      (hafter : ∀ c ∈ after.head?, isBlank c = true) : ValueToken after (String.ofList word) word
  | quoted {text spelling : List Char} (h : Escaped text spelling) :
      ValueToken after (String.ofList text) ('\"' :: spelling ++ ['\"'])

inductive PairText (after : List Char) (key value : String) : List Char → Prop where
  | mk {keyText w₁ w₂ valueText : List Char} (hkey : KeyToken key keyText) (h₁ : Blanks w₁)
      (h₂ : Blanks w₂) (hvalue : ValueToken after value valueText) :
      PairText after key value (keyText ++ w₁ ++ '=' :: (w₂ ++ valueText))

theorem Escaped.length_le {text spelling : List Char} (h : Escaped text spelling) :
    text.length ≤ spelling.length := by
  induction h with
  | nil => exact Nat.le_refl _
  | plain _ _ _ ih =>
    rw [List.length_cons, List.length_cons]
    omega
  | escaped _ ih =>
    rw [List.length_cons, List.length_cons, List.length_cons]
    omega

/-! Quoted texts -/

theorem readQuoted_cons {c : Char} (hquote : c ≠ '\"') (hslash : c ≠ '\\') (cs : List Char) :
    readQuoted (c :: cs) = (readQuoted cs).push c := by
  rw [readQuoted] <;> simp_all

theorem readQuoted_append {text spelling : List Char} (h : Escaped text spelling)
    (rest : List Char) :
    readQuoted (spelling ++ rest) = text.foldr QuotedText.push (readQuoted rest) := by
  induction h with
  | nil => rfl
  | plain hquote hslash _ ih =>
    rw [List.cons_append, readQuoted_cons hquote hslash, ih, List.foldr_cons]
  | escaped _ ih => rw [List.cons_append, List.cons_append, readQuoted, ih, List.foldr_cons]

def QuotedText.prepend (text : List Char) : QuotedText → QuotedText
  | closed t rest => closed (text ++ t) rest
  | unbalanced t => unbalanced (text ++ t)
  | unterminated t => unterminated (text ++ t)

theorem foldr_push (text : List Char) (q : QuotedText) :
    text.foldr QuotedText.push q = q.prepend text := by
  induction text with
  | nil => cases q <;> rfl
  | cons c text ih =>
    rw [List.foldr_cons, ih]
    cases q <;> rfl

/-- What was read is spelled by what stands in front of the place where the reading ended. -/
def QuotedText.Spelled (cs : List Char) : QuotedText → Prop
  | closed text rest => ∃ spelling, Escaped text spelling ∧ cs = spelling ++ '\"' :: rest
  | unbalanced text => Escaped text cs
  | unterminated text => ∃ spelling, Escaped text spelling ∧ cs = spelling ++ ['\\']

theorem QuotedText.Spelled.push_plain {cs : List Char} {q : QuotedText} {c : Char}
    (hquote : c ≠ '\"') (hslash : c ≠ '\\') (h : q.Spelled cs) : (q.push c).Spelled (c :: cs) := by
  cases q with
  | closed text rest =>
    obtain ⟨spelling, he, rfl⟩ := h
    exact ⟨c :: spelling, .plain hquote hslash he, rfl⟩
  | unbalanced text => exact .plain hquote hslash h
  | unterminated text =>
    obtain ⟨spelling, he, rfl⟩ := h
    exact ⟨c :: spelling, .plain hquote hslash he, rfl⟩

theorem QuotedText.Spelled.push_escaped {cs : List Char} {q : QuotedText} {c : Char}
    (h : q.Spelled cs) : (q.push c).Spelled ('\\' :: c :: cs) := by
  cases q with
  | closed text rest =>
    obtain ⟨spelling, he, rfl⟩ := h
    exact ⟨'\\' :: c :: spelling, .escaped he, rfl⟩
  | unbalanced text => exact .escaped h
  | unterminated text =>
    obtain ⟨spelling, he, rfl⟩ := h
    exact ⟨'\\' :: c :: spelling, .escaped he, rfl⟩

theorem spelled_readQuoted (cs : List Char) : (readQuoted cs).Spelled cs := by
  fun_induction readQuoted cs with
  | case1 => exact .nil
  | case2 rest => exact ⟨[], .nil, rfl⟩
  | case3 => exact ⟨[], .nil, rfl⟩
  | case4 c rest ih => exact ih.push_escaped
  | case5 c rest hquote hlast hslash ih =>
    refine ih.push_plain hquote fun hc => ?_
    subst hc
    cases rest with
    | nil => exact hlast rfl rfl
    | cons d rest => exact hslash d rest rfl rfl

theorem readQuoted_eq_closed_iff {cs text rest : List Char} :
    readQuoted cs = .closed text rest ↔
      ∃ spelling, Escaped text spelling ∧ cs = spelling ++ '\"' :: rest := by
  constructor
  · intro h
    have hs := spelled_readQuoted cs
    rwa [h] at hs
  · rintro ⟨spelling, he, rfl⟩
    rw [readQuoted_append he, readQuoted, foldr_push, QuotedText.prepend, List.append_nil]

theorem readQuoted_eq_unbalanced_iff {cs text : List Char} :
    readQuoted cs = .unbalanced text ↔ Escaped text cs := by
  constructor
  · intro h
    have hs := spelled_readQuoted cs
    rwa [h] at hs
  · intro he
    have h := readQuoted_append he []
    rwa [List.append_nil, readQuoted, foldr_push, QuotedText.prepend, List.append_nil] at h

theorem readQuoted_eq_unterminated_iff {cs text : List Char} :
    readQuoted cs = .unterminated text ↔
      ∃ spelling, Escaped text spelling ∧ cs = spelling ++ ['\\'] := by
  constructor
  · intro h
    have hs := spelled_readQuoted cs
    rwa [h] at hs
  · rintro ⟨spelling, he, rfl⟩
    rw [readQuoted_append he, readQuoted, foldr_push, QuotedText.prepend, List.append_nil]

/-! Keys and values -/

theorem isKeyChar_iff {c : Char} :
    isKeyChar c = true ↔ isBlank c = false ∧ c ≠ '=' ∧ c ≠ '\"' := by
  simp [isKeyChar, and_assoc]

theorem isKeyChar_eq_false_iff {c : Char} :
    isKeyChar c = false ↔ isBlank c = true ∨ c = '=' ∨ c = '\"' := by
  rw [← Bool.not_eq_true, isKeyChar_iff]
  cases isBlank c <;> simp [Decidable.imp_iff_not_or]

/-- A word is cut off where the first character that cannot belong to it stands. -/
theorem takeWhile_word {p : Char → Bool} {word rest : List Char} (hword : ∀ c ∈ word, p c = true)
    (hrest : ∀ c ∈ rest.head?, p c = false) :
    (word ++ rest).takeWhile p = word ∧ (word ++ rest).dropWhile p = rest := by
  rw [List.takeWhile_append_of_pos hword, List.dropWhile_append_of_pos hword]
  cases rest with
  | nil => simp
  | cons c rest => simp [hrest c rfl]

theorem head_dropWhile {p : Char → Bool} {cs : List Char} {c : Char}
    (h : c ∈ (cs.dropWhile p).head?) : p c = false := by
  have hp := List.head?_dropWhile_not p cs
  rw [Option.mem_def.1 h] at hp
  simpa using hp

theorem readKey_bare {cs : List Char} (h : cs.head? ≠ some '\"') :
    readKey cs = if cs.takeWhile isKeyChar = [] then .error .missingKey
      else .ok (String.ofList (cs.takeWhile isKeyChar), cs.dropWhile isKeyChar) := by
  rw [readKey]
  · split
    · next hw => rw [if_pos hw]
    · next hw => rw [if_neg hw]
  · rintro rest rfl
    exact h rfl

theorem readKey_eq_ok_iff {cs rest : List Char} {key : String} :
    readKey cs = .ok (key, rest) ↔ ∃ token, cs = token ++ rest ∧ WholeKey rest key token := by
  constructor
  · intro h
    by_cases hq : cs.head? = some '\"'
    · obtain ⟨inner, rfl⟩ := List.head?_eq_some_iff.1 hq
      rw [readKey] at h
      split at h
      · next text rest' hr =>
        cases h
        obtain ⟨spelling, he, rfl⟩ := readQuoted_eq_closed_iff.1 hr
        exact ⟨'\"' :: spelling ++ ['\"'], by simp, .quoted he, fun hn => absurd rfl hn⟩
      · cases h
      · cases h
    · rw [readKey_bare hq] at h
      split at h
      · cases h
      · next hw =>
        cases h
        refine ⟨_, List.takeWhile_append_dropWhile.symm, .bare hw ?_, ?_⟩
        · exact fun c hc => isKeyChar_iff.1 (List.mem_takeWhile_imp hc)
        · exact fun _ c hc => isKeyChar_eq_false_iff.1 (head_dropWhile hc)
  · rintro ⟨token, rfl, hkey, hend⟩
    cases hkey with
    | bare hne hword =>
      obtain ⟨c, word, rfl⟩ := List.exists_cons_of_ne_nil hne
      have hc : c ≠ '\"' := (hword c List.mem_cons_self).2.2
      obtain ⟨htake, hdrop⟩ := takeWhile_word (p := isKeyChar)
        (fun d hd => isKeyChar_iff.2 (hword d hd))
        (fun d hd => isKeyChar_eq_false_iff.2 (hend (by simpa using hc) d hd))
      rw [readKey_bare (by simpa using hc), htake, hdrop, if_neg hne]
    | @quoted text spelling h =>
      have hr : readQuoted (spelling ++ '\"' :: rest) = .closed text rest :=
        readQuoted_eq_closed_iff.2 ⟨spelling, h, rfl⟩
      simp [readKey, hr]

theorem readValue_bare {key : String} {spaced : Bool} {cs : List Char} (hne : cs ≠ [])
    (hq : cs.head? ≠ some '\"') :
    readValue key spaced cs =
      if '=' ∈ cs.takeWhile (!isBlank ·) then
        .error (if spaced then .missingValue key else .unquotedEquals key)
      else .ok (String.ofList (cs.takeWhile (!isBlank ·)), cs.dropWhile (!isBlank ·)) := by
  rw [readValue]
  · exact hne
  · rintro rest rfl
    exact hq rfl

theorem readValue_eq_ok_iff {key value : String} {spaced : Bool} {cs rest : List Char}
    (hcs : ∀ c ∈ cs.head?, isBlank c = false) :
    readValue key spaced cs = .ok (value, rest) ↔
      ∃ token, cs = token ++ rest ∧ ValueToken rest value token := by
  constructor
  · intro h
    by_cases hne : cs = []
    · rw [hne, readValue] at h
      cases h
    by_cases hq : cs.head? = some '\"'
    · obtain ⟨inner, rfl⟩ := List.head?_eq_some_iff.1 hq
      rw [readValue] at h
      split at h
      · next text rest' hr =>
        cases h
        obtain ⟨spelling, he, rfl⟩ := readQuoted_eq_closed_iff.1 hr
        exact ⟨'\"' :: spelling ++ ['\"'], by simp, .quoted he⟩
      · cases h
      · cases h
    · rw [readValue_bare hne hq] at h
      split at h
      · cases h
      · next hw =>
        cases h
        obtain ⟨c, tail, rfl⟩ := List.exists_cons_of_ne_nil hne
        have hc : isBlank c = false := hcs c rfl
        refine ⟨_, List.takeWhile_append_dropWhile.symm, .bare (by simp [hc]) ?_ ?_ ?_⟩
        · simpa [hc] using hq
        · exact fun d hd => ⟨by simpa using List.mem_takeWhile_imp hd, fun e => hw (e ▸ hd)⟩
        · exact fun d hd => by simpa using head_dropWhile hd
  · rintro ⟨token, rfl, hvalue⟩
    cases hvalue with
    | bare hne hquote hword hafter =>
      obtain ⟨c, word, rfl⟩ := List.exists_cons_of_ne_nil hne
      have hblank : ∀ d ∈ c :: word, (!isBlank d) = true := fun d hd => by simp [(hword d hd).1]
      have hrest : ∀ d ∈ rest.head?, (!isBlank d) = false := fun d hd => by simp [hafter d hd]
      obtain ⟨htake, hdrop⟩ := takeWhile_word hblank hrest
      rw [readValue_bare (by simp) (by simpa using hquote), htake, hdrop,
        if_neg fun hm => (hword _ hm).2 rfl]
    | @quoted text spelling h =>
      have hr : readQuoted (spelling ++ '\"' :: rest) = .closed text rest :=
        readQuoted_eq_closed_iff.2 ⟨spelling, h, rfl⟩
      simp [readValue, hr]

theorem KeyToken.ne_nil {key : String} {token : List Char} (h : KeyToken key token) :
    token ≠ [] := by
  cases h with
  | bare hne _ => exact hne
  | quoted _ => simp

theorem KeyToken.head_not_blank {key : String} {token : List Char} (h : KeyToken key token) :
    ∀ c ∈ token.head?, isBlank c = false := by
  intro c hc
  cases h with
  | bare _ hword => exact (hword c (List.mem_of_mem_head? hc)).1
  | quoted _ =>
    obtain rfl : '\"' = c := by simpa using hc
    rfl

theorem KeyToken.whole {key : String} {token after : List Char} (h : KeyToken key token)
    (hafter : ∀ c ∈ after.head?, isBlank c = true ∨ c = '=') : WholeKey after key token :=
  ⟨h, fun _ c hc => (hafter c hc).elim .inl fun e => .inr (.inl e)⟩

theorem ValueToken.ne_nil {after token : List Char} {value : String}
    (h : ValueToken after value token) : token ≠ [] := by
  cases h with
  | bare hne _ _ _ => exact hne
  | quoted _ => simp

theorem ValueToken.head_not_blank {after token : List Char} {value : String}
    (h : ValueToken after value token) : ∀ c ∈ (token ++ after).head?, isBlank c = false := by
  intro c hc
  cases h with
  | bare hne _ hword _ =>
    obtain ⟨d, word, rfl⟩ := List.exists_cons_of_ne_nil hne
    obtain rfl : d = c := by simpa using hc
    exact (hword d List.mem_cons_self).1
  | quoted _ =>
    obtain rfl : '\"' = c := by simpa using hc
    rfl

/-! Pairs -/

theorem readPair_eq_error_of_readKey {cs : List Char} {e : SyntaxError}
    (h : readKey cs = .error e) : readPair cs = .error e := by
  rw [readPair, h]
  rfl

theorem readPair_of_readKey {cs afterKey : List Char} {key : String}
    (h : readKey cs = .ok (key, afterKey)) :
    (∀ afterSign, skipBlanks afterKey = '=' :: afterSign →
      readPair cs = (readValue key (afterSign.head?.any isBlank) (skipBlanks afterSign)).map
        fun p => ((key, p.1), p.2)) ∧
    ((skipBlanks afterKey).head? ≠ some '=' → readPair cs = .error (.missingEquals key)) := by
  constructor
  · intro afterSign hs
    simp only [readPair, h, bind, Except.bind, hs]
    cases readValue key (afterSign.head?.any isBlank) (skipBlanks afterSign) with
    | error e => rfl
    | ok p => rfl
  · intro hs
    simp only [readPair, h, bind, Except.bind]
    split
    · next afterSign he => exact absurd (congrArg List.head? he) hs
    · rfl

theorem PairText.ne_nil {after text : List Char} {key value : String}
    (h : PairText after key value text) : text ≠ [] := by
  cases h
  simp

theorem PairText.head_not_blank {after text : List Char} {key value : String}
    (h : PairText after key value text) (rest : List Char) :
    ∀ c ∈ (text ++ rest).head?, isBlank c = false := by
  obtain ⟨hkey, _, _, _⟩ := h
  intro c hc
  obtain ⟨d, token, hd⟩ := List.exists_cons_of_ne_nil hkey.ne_nil
  refine hkey.head_not_blank c ?_
  rw [hd] at hc ⊢
  simpa using hc

theorem head_blanks_append_sign {w : List Char} (hw : Blanks w) (rest : List Char) :
    ∀ c ∈ (w ++ '=' :: rest).head?, isBlank c = true ∨ c = '=' := by
  intro c hc
  cases w with
  | nil => exact .inr (by simpa using hc.symm)
  | cons d w =>
    obtain rfl : d = c := by simpa using hc
    exact .inl (hw d List.mem_cons_self)

theorem skipBlanks_append_sign {w : List Char} (hw : Blanks w) (rest : List Char) :
    skipBlanks (w ++ '=' :: rest) = '=' :: rest := by
  rw [skipBlanks_append hw]
  rfl

/-- The pairs that can be read are those that stand there, up to what follows them. -/
theorem readPair_eq_ok_iff {cs rest : List Char} {key value : String} :
    readPair cs = .ok ((key, value), rest) ↔
      ∃ text, cs = text ++ rest ∧ PairText rest key value text := by
  constructor
  · intro h
    obtain ⟨afterKey, afterSign, hk, hs, hv⟩ := readPair_eq_ok h
    obtain ⟨keyText, rfl, hkey⟩ := readKey_eq_ok_iff.1 hk
    obtain ⟨valueText, hvt, hvalue⟩ :=
      (readValue_eq_ok_iff (head_skipBlanks afterSign)).1 hv
    obtain ⟨w₁, hw₁, he₁⟩ := exists_blanks_append_skipBlanks afterKey
    obtain ⟨w₂, hw₂, he₂⟩ := exists_blanks_append_skipBlanks afterSign
    refine ⟨_, ?_, .mk hkey.1 hw₁ hw₂ hvalue⟩
    rw [he₁, hs, he₂, hvt]
    simp
  · rintro ⟨text, rfl, hkey, hw₁, hw₂, hvalue⟩
    rename_i keyText w₁ w₂ valueText
    have hk : readKey (keyText ++ (w₁ ++ '=' :: (w₂ ++ (valueText ++ rest)))) = .ok (key, _) :=
      readKey_eq_ok_iff.2 ⟨keyText, rfl, hkey.whole (head_blanks_append_sign hw₁ _)⟩
    have hv (spaced : Bool) : readValue key spaced (skipBlanks (w₂ ++ (valueText ++ rest))) =
        .ok (value, rest) := by
      rw [skipBlanks_append hw₂, skipBlanks_eq_self hvalue.head_not_blank]
      exact (readValue_eq_ok_iff hvalue.head_not_blank).2 ⟨valueText, rfl, hvalue⟩
    have hp := (readPair_of_readKey hk).1 _ (skipBlanks_append_sign hw₁ _)
    rw [hv] at hp
    simpa [Except.map] using hp

end NodeDiscovery.Config
