import NodeDiscovery.Proofs.Config.Grammar

/-! The faults of configuration texts. A text that is not accepted is read up to its first pair that
is malformed or repeats a key, and what stands there decides which fault is reported. -/
namespace NodeDiscovery.Config
open NodeDiscovery.Text

/-- A key and its equals sign stand in front of `after`. -/
def SignedKey (r : List Char) (key : String) (after : List Char) : Prop :=
  ∃ token w, KeyToken key token ∧ Blanks w ∧ r = token ++ w ++ '=' :: after

/-- A bare word with an equals sign in it stands in front. -/
def EqualsWord (cs : List Char) : Prop :=
  ∃ word tail, cs = word ++ tail ∧ word.head? ≠ some '\"' ∧ '=' ∈ word ∧
    (∀ c ∈ word, isBlank c = false) ∧ ∀ c ∈ tail.head?, isBlank c = true

/-- A quoted text that breaks off right after a backslash. -/
def EscapedToSlash (text cs : List Char) : Prop :=
  ∃ spelling, Escaped text spelling ∧ cs = spelling ++ ['\\']

def Stem (stem text : List Char) : Prop :=
  ∃ cut, text = stem ++ cut ∧ (∀ c ∈ stem, isBlank c = false ∧ c ≠ '=') ∧
    ∀ c ∈ cut.head?, isBlank c = true ∨ c = '='

/-- The quoted text of a key or of the value of a key goes on up to the end of the input, which
`meets` relates to what was read. A key is cut where it may have swallowed other options. -/
def OpenQuote (meets : List Char → List Char → Prop) (r : List Char) (key : String) : Prop :=
  (∃ text inner, r = '\"' :: inner ∧ meets text inner ∧ Stem key.toList text) ∨
    ∃ after w text inner, SignedKey r key after ∧ after = w ++ '\"' :: inner ∧ Blanks w ∧
      meets text inner

/-- What has to stand at `r`, after pairs with the given keys, for a fault to be reported. -/
def Fault (keys : List String) (r : List Char) : SyntaxError → Prop
  | .missingKey => r.head? = some '='
  | .missingEquals key => ∃ token after, r = token ++ after ∧ WholeKey after key token ∧
      ∀ w rest, Blanks w → after ≠ w ++ '=' :: rest
  | .missingValue key => ∃ after, SignedKey r key after ∧
      (Blanks after ∨ ∃ w word, after = w ++ word ∧ w ≠ [] ∧ Blanks w ∧ EqualsWord word)
  | .unquotedEquals key => ∃ after, SignedKey r key after ∧ EqualsWord after
  | .unbalancedQuotes key => OpenQuote Escaped r key
  | .unterminatedEscape key => OpenQuote EscapedToSlash r key
  | .duplicateKey key => key ∈ keys ∧
      ∃ value text tail, r = text ++ tail ∧ PairText tail key value text

/-- Reading stops at `r`: in front of it stand pairs with distinct keys and all blanks after them,
and no pair with a new key can be read from there. -/
structure StopsAt (s : String) (pairs : List (String × String)) (p r : List Char) : Prop where
  split : s.toList = p ++ r
  spells : Spells r pairs p
  distinct : (pairs.map Prod.fst).Nodup
  ne_nil : r ≠ []
  head_not_blank : ∀ c ∈ r.head?, isBlank c = false
  no_new_pair : ∀ key value text tail, r = text ++ tail → PairText tail key value text →
    key ∈ pairs.map Prod.fst

/-! Faults of keys -/

theorem stem_iff {text : List Char} {key : String} :
    Stem key.toList text ↔ key = String.ofList (keyStem text) := by
  constructor
  · rintro ⟨cut, rfl, hstem, hcut⟩
    have hin : ∀ c ∈ key.toList, (!isBlank c && c != '=') = true := by
      intro c hc
      simp [hstem c hc]
    have hout : ∀ c ∈ cut.head?, (!isBlank c && c != '=') = false := by
      intro c hc
      rcases hcut c hc with h | rfl <;> simp_all
    rw [keyStem, (takeWhile_word hin hout).1, String.ofList_toList]
  · rintro rfl
    rw [String.toList_ofList]
    refine ⟨_, List.takeWhile_append_dropWhile.symm, ?_, ?_⟩
    · intro c hc
      simpa using List.mem_takeWhile_imp hc
    · intro c hc
      have h := head_dropWhile hc
      rwa [Bool.and_eq_false_iff, Bool.not_eq_false', bne_eq_false_iff_eq] at h

theorem readKey_of_sign {cs : List Char} (h : cs.head? = some '=') :
    readKey cs = .error .missingKey := by
  obtain ⟨rest, rfl⟩ := List.head?_eq_some_iff.1 h
  rfl

theorem readKey_of_escaped {text inner : List Char} {key : String} (h : Escaped text inner)
    (hstem : Stem key.toList text) : readKey ('\"' :: inner) = .error (.unbalancedQuotes key) := by
  rw [readKey, readQuoted_eq_unbalanced_iff.2 h, stem_iff.1 hstem]

theorem readKey_of_escapedToSlash {text inner : List Char} {key : String}
    (h : EscapedToSlash text inner) (hstem : Stem key.toList text) :
    readKey ('\"' :: inner) = .error (.unterminatedEscape key) := by
  rw [readKey, readQuoted_eq_unterminated_iff.2 h, stem_iff.1 hstem]

theorem fault_of_readKey {keys : List String} {r : List Char} {e : SyntaxError} (hne : r ≠ [])
    (hr : ∀ c ∈ r.head?, isBlank c = false) (h : readKey r = .error e) : Fault keys r e := by
  obtain ⟨c, rest, rfl⟩ := List.exists_cons_of_ne_nil hne
  by_cases hq : c = '\"'
  · subst hq
    have hstem (text : List Char) : Stem (String.ofList (keyStem text)).toList text :=
      stem_iff.2 rfl
    rw [readKey] at h
    split at h
    · cases h
    · next text hc =>
      cases h
      exact .inl ⟨text, rest, rfl, readQuoted_eq_unbalanced_iff.1 hc, hstem text⟩
    · next text hc =>
      cases h
      exact .inl ⟨text, rest, rfl, readQuoted_eq_unterminated_iff.1 hc, hstem text⟩
  · rw [readKey_bare (by simpa using hq)] at h
    split at h
    · next hw =>
      cases h
      have hc : isKeyChar c = false := by
        by_contra hc
        rw [List.takeWhile_cons_of_pos (by simpa using hc)] at hw
        cases hw
      rcases isKeyChar_eq_false_iff.1 hc with hblank | rfl | rfl
      · rw [hr c rfl] at hblank
        cases hblank
      · rfl
      · exact absurd rfl hq
    · cases h

/-! Faults of values -/

theorem EqualsWord.takeWhile {cs : List Char} (h : EqualsWord cs) :
    '=' ∈ cs.takeWhile (!isBlank ·) := by
  obtain ⟨word, tail, rfl, _, hsign, hword, htail⟩ := h
  have hin : ∀ c ∈ word, (!isBlank c) = true := by
    intro c hc
    simp [hword c hc]
  have hout : ∀ c ∈ tail.head?, (!isBlank c) = false := by
    intro c hc
    simp [htail c hc]
  rwa [(takeWhile_word hin hout).1]

theorem EqualsWord.ne_nil {cs : List Char} (h : EqualsWord cs) : cs ≠ [] := by
  rintro rfl
  exact absurd h.takeWhile List.not_mem_nil

theorem EqualsWord.head {cs : List Char} (h : EqualsWord cs) :
    cs.head? ≠ some '\"' ∧ ∀ c ∈ cs.head?, isBlank c = false := by
  obtain ⟨word, tail, rfl, hquote, hsign, hword, _⟩ := h
  obtain ⟨d, word, rfl⟩ := List.exists_cons_of_ne_nil (List.ne_nil_of_mem hsign)
  refine ⟨hquote, fun c hc => ?_⟩
  obtain rfl : d = c := by simpa using hc
  exact hword d List.mem_cons_self

theorem readValue_of_equalsWord {cs : List Char} (h : EqualsWord cs) (key : String)
    (spaced : Bool) :
    readValue key spaced cs =
      .error (if spaced then .missingValue key else .unquotedEquals key) := by
  rw [readValue_bare h.ne_nil h.head.1, if_pos h.takeWhile]

theorem readValue_of_escaped {text inner : List Char} (h : Escaped text inner) (key : String)
    (spaced : Bool) : readValue key spaced ('\"' :: inner) = .error (.unbalancedQuotes key) := by
  rw [readValue, readQuoted_eq_unbalanced_iff.2 h]

theorem readValue_of_escapedToSlash {text inner : List Char} (h : EscapedToSlash text inner)
    (key : String) (spaced : Bool) :
    readValue key spaced ('\"' :: inner) = .error (.unterminatedEscape key) := by
  rw [readValue, readQuoted_eq_unterminated_iff.2 h]

theorem equalsWord_of_mem_takeWhile {cs : List Char} (hquote : cs.head? ≠ some '\"')
    (h : '=' ∈ cs.takeWhile (!isBlank ·)) : EqualsWord cs := by
  refine ⟨_, _, List.takeWhile_append_dropWhile.symm, ?_, h, ?_, ?_⟩
  · obtain ⟨c, rest, rfl⟩ := List.exists_cons_of_ne_nil
      (fun e : cs = [] => absurd (e ▸ h) List.not_mem_nil)
    by_cases hc : isBlank c
    · simp [hc]
    · simpa [hc] using hquote
  · intro c hc
    simpa using List.mem_takeWhile_imp hc
  · intro c hc
    simpa using head_dropWhile hc

/-! Blanks between the equals sign and a value -/

theorem spaced_append {w : List Char} (hne : w ≠ []) (hw : Blanks w) (cs : List Char) :
    (w ++ cs).head?.any isBlank = true := by
  obtain ⟨c, w, rfl⟩ := List.exists_cons_of_ne_nil hne
  simpa using hw c List.mem_cons_self

theorem exists_blanks_of_spaced {after : List Char} (h : after.head?.any isBlank = true) :
    ∃ w, w ≠ [] ∧ Blanks w ∧ after = w ++ skipBlanks after := by
  cases after with
  | nil => cases h
  | cons c rest =>
    have hc : isBlank c = true := by simpa using h
    obtain ⟨w, hw, he⟩ := exists_blanks_append_skipBlanks rest
    refine ⟨c :: w, by simp, List.forall_mem_cons.2 ⟨hc, hw⟩, ?_⟩
    rw [skipBlanks, List.dropWhile_cons_of_pos hc, List.cons_append]
    exact congrArg (c :: ·) he

theorem skipBlanks_of_not_spaced {after : List Char} (h : after.head?.any isBlank = false) :
    skipBlanks after = after := by
  refine skipBlanks_eq_self fun c hc => ?_
  rw [Option.mem_def.1 hc] at h
  simpa using h

theorem not_spaced_of_head {after : List Char} (h : ∀ c ∈ after.head?, isBlank c = false) :
    after.head?.any isBlank = false := by
  cases after with
  | nil => rfl
  | cons c rest => simpa using h c rfl

/-! Faults of pairs -/

theorem SignedKey.readKey {r after : List Char} {key : String} (h : SignedKey r key after) :
    ∃ w, Blanks w ∧ readKey r = .ok (key, w ++ '=' :: after) := by
  obtain ⟨token, w, hkey, hw, rfl⟩ := h
  rw [List.append_assoc]
  exact ⟨w, hw, readKey_eq_ok_iff.2 ⟨token, rfl, hkey.whole (head_blanks_append_sign hw after)⟩⟩

theorem SignedKey.readPair {r after : List Char} {key : String} (h : SignedKey r key after) :
    readPair r = (readValue key (after.head?.any isBlank) (skipBlanks after)).map
      fun p => ((key, p.1), p.2) := by
  obtain ⟨w, hw, hk⟩ := h.readKey
  exact (readPair_of_readKey hk).1 after (skipBlanks_append_sign hw after)

theorem SignedKey.readPair_error {r after : List Char} {key : String} {e : SyntaxError}
    (h : SignedKey r key after)
    (hv : readValue key (after.head?.any isBlank) (skipBlanks after) = .error e) :
    Config.readPair r = .error e := by
  rw [h.readPair, hv]
  rfl

theorem fault_of_readValue {keys : List String} {r after : List Char} {key : String}
    {e : SyntaxError} (hsign : SignedKey r key after)
    (h : readValue key (after.head?.any isBlank) (skipBlanks after) = .error e) :
    Fault keys r e := by
  obtain ⟨w, hw, hafter⟩ := exists_blanks_append_skipBlanks after
  by_cases hne : skipBlanks after = []
  · rw [hne] at h
    cases h
    exact ⟨after, hsign, .inl (skipBlanks_eq_nil_iff.1 hne)⟩
  by_cases hq : (skipBlanks after).head? = some '\"'
  · obtain ⟨inner, hinner⟩ := List.head?_eq_some_iff.1 hq
    rw [hinner] at h hafter
    rw [readValue] at h
    split at h
    · cases h
    · next text hr =>
      cases h
      exact .inr ⟨after, w, text, inner, hsign, hafter, hw, readQuoted_eq_unbalanced_iff.1 hr⟩
    · next text hr =>
      cases h
      exact .inr ⟨after, w, text, inner, hsign, hafter, hw, readQuoted_eq_unterminated_iff.1 hr⟩
  · rw [readValue_bare hne hq] at h
    split at h
    · next hm =>
      have hword := equalsWord_of_mem_takeWhile hq hm
      cases hs : after.head?.any isBlank with
      | true =>
        obtain ⟨w, hwne, hw, he⟩ := exists_blanks_of_spaced hs
        rw [hs] at h
        cases h
        exact ⟨after, hsign, .inr ⟨w, _, he, hwne, hw, hword⟩⟩
      | false =>
        rw [hs] at h
        cases h
        exact ⟨after, hsign, skipBlanks_of_not_spaced hs ▸ hword⟩
    · cases h

theorem fault_of_readPair {keys : List String} {r : List Char} {e : SyntaxError} (hne : r ≠ [])
    (hr : ∀ c ∈ r.head?, isBlank c = false) (h : readPair r = .error e) : Fault keys r e := by
  cases hk : readKey r with
  | error e' =>
    rw [readPair_eq_error_of_readKey hk] at h
    cases h
    exact fault_of_readKey hne hr hk
  | ok p =>
    obtain ⟨key, afterKey⟩ := p
    obtain ⟨token, hr, hwhole⟩ := readKey_eq_ok_iff.1 hk
    obtain ⟨w, hw, hafter⟩ := exists_blanks_append_skipBlanks afterKey
    by_cases hs : (skipBlanks afterKey).head? = some '='
    · obtain ⟨after, he⟩ := List.head?_eq_some_iff.1 hs
      have hsign : SignedKey r key after := by
        refine ⟨token, w, hwhole.1, hw, ?_⟩
        rw [hr, List.append_assoc, ← he, ← hafter]
      refine fault_of_readValue hsign ?_
      rw [hsign.readPair] at h
      cases hv : readValue key (after.head?.any isBlank) (skipBlanks after) with
      | error e' => rw [hv] at h; cases h; rfl
      | ok p => rw [hv] at h; cases h
    · rw [(readPair_of_readKey hk).2 hs] at h
      cases h
      refine ⟨token, afterKey, hr, hwhole, fun w' rest hw' he => hs ?_⟩
      rw [he, skipBlanks_append_sign hw', List.head?_cons]

theorem OpenQuote.readPair {meets : List Char → List Char → Prop} {r : List Char} {key : String}
    {e : String → SyntaxError}
    (hkey : ∀ {text inner : List Char}, meets text inner → Stem key.toList text →
      readKey ('\"' :: inner) = .error (e key))
    (hvalue : ∀ {text inner : List Char}, meets text inner → ∀ key spaced,
      readValue key spaced ('\"' :: inner) = .error (e key))
    (h : OpenQuote meets r key) : Config.readPair r = .error (e key) := by
  rcases h with ⟨text, inner, rfl, hm, hstem⟩ | ⟨after, w, text, inner, hsign, hafter, hw, hm⟩
  · exact readPair_eq_error_of_readKey (hkey hm hstem)
  · refine hsign.readPair_error ?_
    have hskip : skipBlanks after = '\"' :: inner := by
      rw [hafter, skipBlanks_append hw]
      rfl
    rw [hskip]
    exact hvalue hm key _

theorem readPair_of_fault {keys : List String} {r : List Char} {e : SyntaxError}
    (h : Fault keys r e) :
    readPair r = .error e ∨ ∃ key value after, readPair r = .ok ((key, value), after) ∧
      key ∈ keys ∧ e = .duplicateKey key := by
  cases e with
  | missingKey => exact .inl (readPair_eq_error_of_readKey (readKey_of_sign h))
  | missingEquals key =>
    obtain ⟨token, after, hr, hwhole, hsign⟩ := h
    refine .inl ((readPair_of_readKey (readKey_eq_ok_iff.2 ⟨token, hr, hwhole⟩)).2 fun hs => ?_)
    obtain ⟨rest, hrest⟩ := List.head?_eq_some_iff.1 hs
    obtain ⟨w, hw, he⟩ := exists_blanks_append_skipBlanks after
    rw [hrest] at he
    exact hsign w rest hw he
  | missingValue key =>
    obtain ⟨after, hsign, hblank | ⟨w, word, rfl, hne, hw, hword⟩⟩ := h
    · refine .inl (hsign.readPair_error ?_)
      rw [skipBlanks_eq_nil_iff.2 hblank, readValue]
    · refine .inl (hsign.readPair_error ?_)
      rw [skipBlanks_append hw, skipBlanks_eq_self hword.head.2, spaced_append hne hw,
        readValue_of_equalsWord hword, if_pos rfl]
  | unquotedEquals key =>
    obtain ⟨after, hsign, hword⟩ := h
    refine .inl (hsign.readPair_error ?_)
    rw [skipBlanks_eq_self hword.head.2, not_spaced_of_head hword.head.2,
      readValue_of_equalsWord hword, if_neg Bool.false_ne_true]
  | unbalancedQuotes key =>
    exact .inl (OpenQuote.readPair readKey_of_escaped readValue_of_escaped h)
  | unterminatedEscape key =>
    exact .inl (OpenQuote.readPair readKey_of_escapedToSlash readValue_of_escapedToSlash h)
  | duplicateKey key =>
    obtain ⟨hkey, value, text, tail, hr, hpair⟩ := h
    exact .inr ⟨key, value, tail, readPair_eq_ok_iff.2 ⟨text, hr, hpair⟩, hkey, rfl⟩

/-! Where reading stops -/

namespace StopsAt
variable {s : String} {pairs pairs' : List (String × String)} {p p' r r' : List Char}

theorem scans (h : StopsAt s pairs p r) :
    ∃ rest, Scans s.toList pairs rest ∧ skipBlanks rest = r ∧ ¬ Blanks rest := by
  obtain ⟨w, hw, hs⟩ := h.spells.scans
  rw [← h.split] at hs
  have hskip : skipBlanks (w ++ r) = r := by
    rw [skipBlanks_append hw, skipBlanks_eq_self h.head_not_blank]
  refine ⟨w ++ r, hs, hskip, fun hb => h.ne_nil ?_⟩
  rw [← hskip]
  exact skipBlanks_eq_nil_iff.2 hb

theorem mem_keys (h : StopsAt s pairs p r) {key value : String} {after : List Char}
    (hp : readPair r = .ok ((key, value), after)) : key ∈ pairs.map Prod.fst := by
  obtain ⟨text, hr, hpair⟩ := readPair_eq_ok_iff.1 hp
  exact h.no_new_pair key value text after hr hpair

/-- The first pair that is not read decides about the fault. -/
theorem parse_eq_error_iff (h : StopsAt s pairs p r) {e : SyntaxError} :
    parse s = .error e ↔ readPair r = .error e ∨ ∃ key value after,
      readPair r = .ok ((key, value), after) ∧ key ∈ pairs.map Prod.fst ∧
        e = .duplicateKey key := by
  obtain ⟨rest, hs, rfl, hb⟩ := h.scans
  rw [parse_eq_of_scans hs h.distinct]
  cases hp : readPair (skipBlanks rest) with
  | error e' =>
    rw [readPairs_of_error hb hp]
    simp
  | ok q =>
    obtain ⟨⟨key, value⟩, after⟩ := q
    have hkey := h.mem_keys hp
    rw [readPairs_of_pair hp, if_pos (Table.contains_ofList.2 hkey)]
    constructor
    · intro he
      cases he
      exact .inr ⟨key, value, after, rfl, hkey, rfl⟩
    · rintro (he | ⟨_, _, _, he, _, rfl⟩)
      · cases he
      · cases he
        rfl

theorem parse_eq_error_iff_fault (h : StopsAt s pairs p r) {e : SyntaxError} :
    parse s = .error e ↔ Fault (pairs.map Prod.fst) r e := by
  rw [h.parse_eq_error_iff]
  constructor
  · rintro (he | ⟨key, value, after, hp, hkey, rfl⟩)
    · exact fault_of_readPair h.ne_nil h.head_not_blank he
    · obtain ⟨text, hr, hpair⟩ := readPair_eq_ok_iff.1 hp
      exact ⟨hkey, value, text, after, hr, hpair⟩
  · exact readPair_of_fault

theorem exists_error (h : StopsAt s pairs p r) : ∃ e, parse s = .error e := by
  cases hp : readPair r with
  | error e => exact ⟨e, h.parse_eq_error_iff.2 (.inl hp)⟩
  | ok q =>
    obtain ⟨⟨key, value⟩, after⟩ := q
    exact ⟨_, h.parse_eq_error_iff.2 (.inr ⟨key, value, after, hp, h.mem_keys hp, rfl⟩)⟩

theorem eq_nil_of_scans (h : StopsAt s pairs p r) {rest rest' : List Char}
    {more : List (String × String)} (hskip : skipBlanks rest = r)
    (hs : Scans rest more rest') (hnodup : ((pairs ++ more).map Prod.fst).Nodup) : more = [] := by
  cases hs with
  | done => rfl
  | @pair _ after _ pair more hp _ =>
    rw [hskip] at hp
    rw [List.map_append, List.map_cons, List.nodup_append] at hnodup
    exact absurd rfl (hnodup.2.2 _ (h.mem_keys hp) _ List.mem_cons_self)

theorem unique (h : StopsAt s pairs p r) (h' : StopsAt s pairs' p' r') :
    pairs' = pairs ∧ p' = p ∧ r' = r := by
  obtain ⟨rest, hs, hskip, _⟩ := h.scans
  obtain ⟨rest', hs', hskip', _⟩ := h'.scans
  have hpairs : pairs' = pairs ∧ rest' = rest := by
    rcases hs.continues hs' with ⟨more, rfl, hm⟩ | ⟨more, rfl, hm⟩
    · obtain rfl := h.eq_nil_of_scans hskip hm h'.distinct
      cases hm
      exact ⟨List.append_nil _, rfl⟩
    · obtain rfl := h'.eq_nil_of_scans hskip' hm h.distinct
      cases hm
      exact ⟨(List.append_nil _).symm, rfl⟩
  obtain ⟨rfl, rfl⟩ := hpairs
  have hr : r' = r := hskip'.symm.trans hskip
  subst hr
  exact ⟨rfl, List.append_cancel_right (h'.split.symm.trans h.split), rfl⟩

theorem of_scans {rest : List Char} (hs : Scans s.toList pairs rest)
    (hnodup : (pairs.map Prod.fst).Nodup) (hb : ¬ Blanks rest)
    (hnew : ∀ key value after, readPair (skipBlanks rest) = .ok ((key, value), after) →
      key ∈ pairs.map Prod.fst) : ∃ p, StopsAt s pairs p (skipBlanks rest) := by
  obtain ⟨text, hsplit, hspells⟩ := hs.spells
  obtain ⟨w, hw, he⟩ := exists_blanks_append_skipBlanks rest
  rw [he] at hsplit hspells
  refine ⟨text ++ w, ⟨?_, hspells.append_blanks hw, hnodup, ?_, head_skipBlanks rest, ?_⟩⟩
  · rw [hsplit, List.append_assoc]
  · exact fun hn => hb (skipBlanks_eq_nil_iff.1 hn)
  · intro key value text tail hr hpair
    exact hnew key value tail (readPair_eq_ok_iff.2 ⟨text, hr, hpair⟩)

theorem of_parse_eq_error {e : SyntaxError} (h : parse s = .error e) :
    ∃ pairs p r, StopsAt s pairs p r := by
  obtain ⟨pairs, rest, hs, hnodup, _, ho⟩ := exists_scans_outcome .empty s.toList
  rw [show readPairs .empty s.toList = .error e from h, Table.insertAll_empty] at ho
  cases ho with
  | malformed hb hp =>
    obtain ⟨p, hstop⟩ := of_scans hs hnodup hb fun key value after he => by
      rw [hp] at he
      cases he
    exact ⟨pairs, p, _, hstop⟩
  | duplicate hp hc =>
    have hkey := Table.contains_ofList.1 hc
    obtain ⟨p, hstop⟩ := of_scans hs hnodup (not_blanks_of_readPair hp)
      (fun key value after he => by rw [hp] at he; cases he; exact hkey)
    exact ⟨pairs, p, _, hstop⟩

end StopsAt

/-- A text is refused if and only if there is a place where reading stops. There is only one such
place, the leftmost, and a fault is reported if and only if it is one of what stands there. -/
theorem parse_eq_error_iff_stopsAt (s : String) :
    ((∃ e, parse s = .error e) ↔ ∃ pairs p r, StopsAt s pairs p r) ∧
      ∀ pairs p r, StopsAt s pairs p r →
        (∀ pairs' p' r', StopsAt s pairs' p' r' → pairs' = pairs ∧ p' = p ∧ r' = r) ∧
          ∀ e, parse s = .error e ↔ Fault (pairs.map Prod.fst) r e := by
  refine ⟨⟨?_, ?_⟩, ?_⟩
  · rintro ⟨e, h⟩
    exact StopsAt.of_parse_eq_error h
  · rintro ⟨pairs, p, r, h⟩
    exact h.exists_error
  · intro pairs p r h
    exact ⟨fun _ _ _ h' => h.unique h', fun _ => h.parse_eq_error_iff_fault⟩

/-- A word with an equals sign after blanks is taken for the next pair, also right after quotes. -/
theorem parse_spaced_equals :
    StopsAt "a=\"1\"b= c=2" [("a", "1")] "a=\"1\"".toList "b= c=2".toList ∧
      parse "a=\"1\"b= c=2" = .error (.missingValue "b") := by
  have hkey : KeyToken "a" ['a'] := .bare (by simp) (List.forall_mem_singleton.2 (by decide))
  have hword : KeyToken "b" ['b'] := .bare (by simp) (List.forall_mem_singleton.2 (by decide))
  have hone : Escaped ['1'] ['1'] := .plain (by decide) (by decide) .nil
  have hpair : PairText "b= c=2".toList "a" "1" "a=\"1\"".toList :=
    .mk hkey blanks_nil blanks_nil (.quoted hone)
  have hstop : StopsAt "a=\"1\"b= c=2" [("a", "1")] "a=\"1\"".toList "b= c=2".toList := by
    refine ⟨by decide, .pair blanks_nil hpair (.blanks blanks_nil), by decide, by decide, ?_, ?_⟩
    · rintro c ⟨⟩
      decide
    intro key value text tail hr hp
    have hread := readPair_eq_ok_iff.2 ⟨text, hr, hp⟩
    have herror : readPair "b= c=2".toList = .error (.missingValue "b") := by rfl
    rw [herror] at hread
    cases hread
  refine ⟨hstop, (((parse_eq_error_iff_stopsAt _).2 _ _ _ hstop).2 _).2 ?_⟩
  refine ⟨" c=2".toList, ⟨['b'], [], hword, blanks_nil, by decide⟩, .inr ?_⟩
  exact ⟨[' '], "c=2".toList, by decide, by simp, by decide,
    equalsWord_of_mem_takeWhile (by decide) (by decide)⟩

end NodeDiscovery.Config
