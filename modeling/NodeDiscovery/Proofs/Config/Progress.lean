import NodeDiscovery.Proofs.Config.Scan

/-! How far a pair takes the reader. Every pair that is read takes three characters or more off a
text, and four where another one follows, so that reading comes to an end and a text has no more
options than it has room for. -/
namespace NodeDiscovery.Config
open NodeDiscovery.Text

/-- Where the reading of a value ends: with the text, in front of a blank, or right after the quote
that closes the value. -/
def EndsValue (cs : List Char) (value : String) (rest : List Char) : Prop :=
  rest = [] ∨ (∃ c ∈ rest.head?, isBlank c = true) ∨
    ∃ front spelling, Escaped value.toList spelling ∧
      cs = front ++ '\"' :: spelling ++ '\"' :: rest

theorem ValueToken.closed_or {after token : List Char} {value : String}
    (h : ValueToken after value token) :
    (∃ spelling, Escaped value.toList spelling ∧ token = '\"' :: spelling ++ ['\"']) ∨
      ∀ c ∈ after.head?, isBlank c = true := by
  cases h with
  | bare _ _ _ hafter => exact .inr hafter
  | quoted hescaped =>
    rw [String.toList_ofList]
    exact .inl ⟨_, hescaped, rfl⟩

theorem PairText.endsValue {rest text : List Char} {key value : String}
    (h : PairText rest key value text) : EndsValue (text ++ rest) value rest := by
  obtain ⟨-, -, -, hvalue⟩ := h
  rename_i keyText w₁ w₂ valueText
  rcases hvalue.closed_or with ⟨spelling, hescaped, rfl⟩ | hblank
  · exact .inr (.inr ⟨keyText ++ w₁ ++ '=' :: w₂, spelling, hescaped, by simp⟩)
  · cases rest with
    | nil => exact .inl rfl
    | cons c tail => exact .inr (.inl ⟨c, rfl, hblank c rfl⟩)

theorem PairText.three_le_length {rest text : List Char} {key value : String}
    (h : PairText rest key value text) : 3 ≤ text.length := by
  obtain ⟨hkey, -, -, hvalue⟩ := h
  have hkeyLength := List.length_pos_iff.mpr hkey.ne_nil
  have hvalueLength := List.length_pos_iff.mpr hvalue.ne_nil
  simp only [List.length_append, List.length_cons]
  omega

/-- In front of something else a pair takes four characters, the last of which is a blank or the
quote that closes its value. -/
theorem PairText.room {rest text : List Char} {key value : String}
    (h : PairText rest key value text) (hne : rest ≠ []) :
    (skipBlanks rest).length + 4 ≤ (text ++ rest).length := by
  have hlength := h.three_le_length
  obtain ⟨hkey, -, -, hvalue⟩ := h
  rcases hvalue.closed_or with ⟨spelling, -, rfl⟩ | hblank
  · have hkeyLength := List.length_pos_iff.mpr hkey.ne_nil
    have hskip := skipBlanks_length_le rest
    simp only [List.length_append, List.length_cons]
    omega
  · obtain ⟨c, tail, rfl⟩ := List.exists_cons_of_ne_nil hne
    have hc : isBlank c = true := hblank c rfl
    have hskip : skipBlanks (c :: tail) = skipBlanks tail := List.dropWhile_cons_of_pos hc
    have htail := skipBlanks_length_le tail
    rw [hskip, List.length_append, List.length_cons]
    omega

/-- A run takes four characters for each of its pairs, but for one that the last may do without. -/
theorem Scans.room {cs rest : List Char} {pairs : List (String × String)} (h : Scans cs pairs rest)
    (hne : pairs ≠ []) : 4 * pairs.length + rest.length ≤ (skipBlanks cs).length + 1 := by
  induction h with
  | done => exact absurd rfl hne
  | @pair cs after rest pair pairs hp hs ih =>
    obtain ⟨text, htext, hpair⟩ := readPair_eq_ok_iff.mp hp
    rw [htext, List.length_cons]
    cases hs with
    | done =>
      have hlength := hpair.three_le_length
      rw [List.length_append, List.length_nil]
      omega
    | pair hp' hs' =>
      have hmore := ih (List.cons_ne_nil _ _)
      have hafter : after ≠ [] := by
        rintro rfl
        exact not_blanks_of_readPair hp' blanks_nil
      have hroom := hpair.room hafter
      omega

theorem Scans.length_le {cs rest : List Char} {pairs : List (String × String)}
    (h : Scans cs pairs rest) : 4 * pairs.length + rest.length ≤ cs.length + 1 := by
  cases h with
  | done => simp
  | pair hp hs =>
    have hroom := (Scans.pair hp hs).room (List.cons_ne_nil _ _)
    have hskip := skipBlanks_length_le cs
    omega

/-- Reading gets on and comes to an end.

A pair that is read is at least three characters long, and its value ends with the text, in front of
a blank or with its closing quote. From a text no run of the pair reader is longer than the text has
room for, at four characters for a pair, and what is made of the text is decided where such a run
stops; so an accepted text has no more options than that. -/
theorem parse_progresses :
    (∀ cs rest key value, readPair cs = .ok ((key, value), rest) →
      rest <:+ cs ∧ rest.length + 3 ≤ cs.length ∧ EndsValue cs value rest) ∧
    ∀ s : String,
      (∀ pairs rest, Scans s.toList pairs rest → 4 * pairs.length + rest.length ≤ s.length + 1) ∧
      (∃ pairs rest, Scans s.toList pairs rest ∧ (pairs.map Prod.fst).Nodup ∧
        Outcome (.ofList pairs) rest (parse s)) ∧
      ∀ c, parse s = .ok c → 4 * c.size ≤ s.length + 1 := by
  have hruns (s : String) {pairs : List (String × String)} {rest : List Char}
      (hs : Scans s.toList pairs rest) : 4 * pairs.length + rest.length ≤ s.length + 1 := by
    rw [← String.length_toList]
    exact hs.length_le
  refine ⟨fun cs rest key value hp => ?_, fun s => ⟨fun _ _ => hruns s, ?_, fun c hparse => ?_⟩⟩
  · obtain ⟨text, rfl, hpair⟩ := readPair_eq_ok_iff.mp hp
    have hlength := hpair.three_le_length
    refine ⟨List.suffix_append _ _, ?_, hpair.endsValue⟩
    rw [List.length_append]
    omega
  · obtain ⟨pairs, rest, hs, hnodup, -, hend⟩ := exists_scans_outcome .empty s.toList
    exact ⟨pairs, rest, hs, hnodup, hend⟩
  · obtain ⟨pairs, ⟨rest, hs, -⟩, hnodup, rfl⟩ := parse_eq_ok_iff_yields.mp hparse
    have hlength := hruns s hs
    rw [Table.size_ofList hnodup]
    omega

/-- A text that has no more room. After a value in quotes no blank is needed, and after the last
value nothing. -/
theorem parse_progresses_sample :
    let s := "a=\"\"b=c"
    let c : Config := .ofList [("a", ""), ("b", "c")]
    readPair s.toList = .ok (("a", ""), "b=c".toList) ∧ EndsValue s.toList "" "b=c".toList ∧
      Scans s.toList [("a", ""), ("b", "c")] [] ∧ 4 * 2 + 0 ≤ s.length + 1 ∧
      parse s = .ok c ∧ 4 * c.size ≤ s.length + 1 ∧ s.length + 1 = 4 * c.size := by
  intro s c
  have hpair : readPair s.toList = .ok (("a", ""), "b=c".toList) := by decide +kernel
  have hnext : readPair (skipBlanks "b=c".toList) = .ok (("b", "c"), []) := by decide +kernel
  have hskip : skipBlanks s.toList = s.toList := by decide +kernel
  have hscans : Scans s.toList [("a", ""), ("b", "c")] [] :=
    .pair (by rwa [hskip]) (.pair hnext .done)
  have hparse : parse s = .ok c :=
    parse_eq_ok_iff_yields.mpr ⟨_, ⟨[], hscans, blanks_nil⟩, by decide, rfl⟩
  obtain ⟨hpairs, htexts⟩ := parse_progresses
  obtain ⟨hruns, -, hsize⟩ := htexts s
  exact ⟨hpair, (hpairs _ _ _ _ hpair).2.2, hscans, hruns _ _ hscans, hparse, hsize c hparse,
    by decide⟩

end NodeDiscovery.Config
