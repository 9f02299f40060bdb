import NodeDiscovery.Proofs.Config.Scan

/-! The grammar of configuration texts. A text is accepted if and only if it is a sequence of pairs
with keys of their own, and it means just these pairs. -/
namespace NodeDiscovery.Config
open NodeDiscovery.Text

/-- Texts that bring `pairs` in front of `rest`, with blanks before, between and after the pairs.
Between two pairs they may be missing only after a value in quotes. -/
inductive Spells (rest : List Char) : List (String × String) → List Char → Prop where
  | blanks {w : List Char} (h : Blanks w) : Spells rest [] w
  | pair {w text tail : List Char} {key value : String} {pairs : List (String × String)}
      (hw : Blanks w) (hpair : PairText (tail ++ rest) key value text)
      (h : Spells rest pairs tail) : Spells rest ((key, value) :: pairs) (w ++ text ++ tail)

theorem Spells.blanks_append {rest text w : List Char} {pairs : List (String × String)}
    (hw : Blanks w) (h : Spells rest pairs text) : Spells rest pairs (w ++ text) := by
  cases h with
  | blanks h => exact .blanks (Text.blanks_append.2 ⟨hw, h⟩)
  | pair hw' hpair h =>
    rw [← List.append_assoc, ← List.append_assoc]
    exact .pair (Text.blanks_append.2 ⟨hw, hw'⟩) hpair h

theorem Spells.append_blanks {rest text w : List Char} {pairs : List (String × String)}
    (hw : Blanks w) (h : Spells (w ++ rest) pairs text) : Spells rest pairs (text ++ w) := by
  induction h with
  | blanks h => exact .blanks (Text.blanks_append.2 ⟨h, hw⟩)
  | pair hw' hpair _ ih =>
    rw [List.append_assoc]
    refine .pair hw' ?_ ih
    rwa [List.append_assoc]

theorem PairText.spells {rest text : List Char} {key value : String}
    (h : PairText rest key value text) : Spells rest [(key, value)] text := by
  have hpair : PairText ([] ++ rest) key value text := h
  simpa using Spells.pair blanks_nil hpair (.blanks blanks_nil)

theorem Scans.spells {cs rest : List Char} {pairs : List (String × String)}
    (h : Scans cs pairs rest) : ∃ text, cs = text ++ rest ∧ Spells rest pairs text := by
  induction h with
  | done => exact ⟨[], rfl, .blanks blanks_nil⟩
  | @pair cs after rest pair pairs hp _ ih =>
    obtain ⟨tail, rfl, htail⟩ := ih
    obtain ⟨text, htext, hpair⟩ := readPair_eq_ok_iff.1 hp
    obtain ⟨w, hw, he⟩ := exists_blanks_append_skipBlanks cs
    refine ⟨w ++ text ++ tail, ?_, .pair hw hpair htail⟩
    rw [he, htext]
    simp

theorem Spells.scans {rest text : List Char} {pairs : List (String × String)}
    (h : Spells rest pairs text) :
    ∃ w, Blanks w ∧ Scans (text ++ rest) pairs (w ++ rest) := by
  induction h with
  | @blanks w h => exact ⟨w, h, .done⟩
  | @pair w text tail key value pairs hw hpair _ ih =>
    obtain ⟨w', hw', hs⟩ := ih
    refine ⟨w', hw', .pair ?_ hs⟩
    have hskip : skipBlanks (w ++ text ++ tail ++ rest) = text ++ (tail ++ rest) := by
      rw [List.append_assoc, List.append_assoc, skipBlanks_append hw,
        skipBlanks_eq_self (hpair.head_not_blank _)]
    rw [hskip]
    exact readPair_eq_ok_iff.2 ⟨text, rfl, hpair⟩

theorem yields_iff_spells {cs : List Char} {pairs : List (String × String)} :
    Yields cs pairs ↔ Spells [] pairs cs := by
  constructor
  · rintro ⟨rest, hs, hb⟩
    obtain ⟨text, rfl, h⟩ := hs.spells
    exact Spells.append_blanks hb (by rwa [List.append_nil])
  · intro h
    obtain ⟨w, hw, hs⟩ := h.scans
    rw [List.append_nil, List.append_nil] at hs
    exact ⟨w, hs, hw⟩

/-- The accepted texts are the sequences of pairs with distinct keys, in all their spellings, and
each stands for the configuration that maps these keys to their values and no others. -/
theorem parse_eq_ok_iff_spells (s : String) (c : Config) :
    parse s = .ok c ↔ ∃ pairs, Spells [] pairs s.toList ∧ (pairs.map Prod.fst).Nodup ∧
      ∀ key value, c.get? key = some value ↔ (key, value) ∈ pairs := by
  rw [parse_eq_ok_iff_yields]
  constructor
  · rintro ⟨pairs, hy, hnodup, hc⟩
    exact ⟨pairs, yields_iff_spells.1 hy, hnodup, (Table.eq_ofList_iff hnodup).1 hc⟩
  · rintro ⟨pairs, hs, hnodup, hc⟩
    exact ⟨pairs, yields_iff_spells.2 hs, hnodup, (Table.eq_ofList_iff hnodup).2 hc⟩

end NodeDiscovery.Config
