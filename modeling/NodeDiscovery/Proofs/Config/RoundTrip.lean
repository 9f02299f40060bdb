import NodeDiscovery.Config.Printer
import NodeDiscovery.Proofs.Config.Grammar

/-! Writing a configuration and reading it again. The written text is one of the spellings of its
options, so the grammar says what is read from it. -/
namespace NodeDiscovery.Config
open NodeDiscovery.Text

theorem escaped_flatMap_escape (text : List Char) : Escaped text (text.flatMap escape) := by
  induction text with
  | nil => exact .nil
  | cons c text ih =>
    rw [List.flatMap_cons, escape]
    split
    · exact .escaped ih
    · next h =>
      rw [not_or] at h
      exact .plain h.1 h.2 ih

/-- A token stands without quotes only if it could be a key. -/
theorem needsQuotes_eq_false_iff {token : List Char} :
    needsQuotes token = false ↔
      token ≠ [] ∧ ∀ c ∈ token, isBlank c = false ∧ c ≠ '=' ∧ c ≠ '\"' := by
  simp [needsQuotes, and_assoc]

theorem keyToken_writeToken (key : String) : KeyToken key (writeToken key.toList) := by
  have hkey : String.ofList key.toList = key := String.ofList_toList
  rw [writeToken]
  split
  · have h := KeyToken.quoted (escaped_flatMap_escape key.toList)
    rwa [hkey] at h
  · next h =>
    obtain ⟨hne, hword⟩ := needsQuotes_eq_false_iff.1 (by simpa using h)
    have hk := KeyToken.bare hne hword
    rwa [hkey] at hk

theorem valueToken_writeToken {after : List Char} (h : ∀ c ∈ after.head?, isBlank c = true)
    (value : String) : ValueToken after value (writeToken value.toList) := by
  have hvalue : String.ofList value.toList = value := String.ofList_toList
  rw [writeToken]
  split
  · have hv : ValueToken after _ _ := .quoted (escaped_flatMap_escape value.toList)
    rwa [hvalue] at hv
  · next hn =>
    obtain ⟨hne, hword⟩ := needsQuotes_eq_false_iff.1 (by simpa using hn)
    have hquote : value.toList.head? ≠ some '\"' := by
      intro hq
      exact (hword _ (List.mem_of_mem_head? hq)).2.2 rfl
    have hv := ValueToken.bare hne hquote (fun c hc => ⟨(hword c hc).1, (hword c hc).2.1⟩) h
    rwa [hvalue] at hv

theorem pairText_writePair {after : List Char} (h : ∀ c ∈ after.head?, isBlank c = true)
    (pair : String × String) : PairText after pair.1 pair.2 (writePair pair) := by
  have hp := PairText.mk (keyToken_writeToken pair.1) blanks_nil blanks_nil
    (valueToken_writeToken h pair.2)
  simpa [writePair] using hp

theorem spells_writePairs (pairs : List (String × String)) :
    Spells [] pairs (writePairs pairs) := by
  induction pairs with
  | nil => exact .blanks blanks_nil
  | cons pair pairs ih =>
    cases pairs with
    | nil =>
      have hlast : PairText [] pair.1 pair.2 (writePair pair) := pairText_writePair (by simp) pair
      simpa [writePairs] using hlast.spells
    | cons next pairs =>
      have hblank : Blanks [' '] := by decide
      have htail := ih.blanks_append hblank
      have hp := Spells.pair blanks_nil (pairText_writePair (by simp [isBlank, blankRanges]) pair)
        htail
      simpa [writePairs, List.intercalate_cons_cons] using hp

theorem pairs_eq (c : Config) :
    c.pairs = (c.provider.map (providerKey, ·)).toList ++ c.rows.filter (·.1 ≠ providerKey) := by
  rw [pairs, Table.filter_rows_eq, provider]

theorem mem_pairs_iff {c : Config} {key value : String} :
    (key, value) ∈ c.pairs ↔ c.get? key = some value := by
  rw [Table.get?_eq_some_iff, pairs, List.mem_append, List.mem_filter, List.mem_filter]
  by_cases h : key = providerKey <;> simp [h]

theorem perm_pairs (c : Config) : c.pairs.Perm c.rows := by
  have h := List.filter_append_perm (fun r => decide (r.1 = providerKey)) c.rows
  simpa [pairs] using h

theorem nodup_keys_pairs (c : Config) : (c.pairs.map Prod.fst).Nodup := by
  rw [((perm_pairs c).map Prod.fst).nodup_iff]
  exact c.nodup_names

/-- What is written for a configuration is read as that configuration. Pair after pair, the text
brings its provider, if it has one, and then its other options in ascending order of their keys. -/
theorem parse_render (c : Config) :
    parse c.render = .ok c ∧
      ∃ others : List (String × String), others.Pairwise (fun a b => a.1 < b.1) ∧
        (∀ key value, (key, value) ∈ others ↔ key ≠ providerKey ∧ c.get? key = some value) ∧
        ∀ pairs, Yields c.render.toList pairs ↔
          pairs = (c.provider.map (providerKey, ·)).toList ++ others := by
  have hyields : Yields c.render.toList c.pairs := by
    rw [render, String.toList_ofList]
    exact yields_iff_spells.2 (spells_writePairs c.pairs)
  constructor
  · refine parse_eq_ok_iff_yields.2 ⟨c.pairs, hyields, nodup_keys_pairs c, ?_⟩
    refine (Table.eq_ofList_iff (nodup_keys_pairs c)).2 fun key value => ?_
    exact mem_pairs_iff.symm
  · refine ⟨c.rows.filter (·.1 ≠ providerKey), c.ascending.filter _, ?_, ?_⟩
    · intro key value
      rw [List.mem_filter, Table.get?_eq_some_iff, decide_eq_true_eq, and_comm]
    · intro pairs
      rw [← pairs_eq]
      exact ⟨fun h => h.unique hyields, fun h => h ▸ hyields⟩

end NodeDiscovery.Config
