import NodeDiscovery.Proofs.Config.Spelling

/-! The run of the pair reader over a text. A configuration is read by such a run, which goes on as
long as pairs with new keys can be read. -/
namespace NodeDiscovery.Config
open NodeDiscovery.Text

/-- From a text the pair reader brings `pairs`, one after the other, and leaves `rest`. -/
inductive Scans : List Char → List (String × String) → List Char → Prop where
  | done {cs : List Char} : Scans cs [] cs
  | pair {cs after rest : List Char} {pair : String × String} {pairs : List (String × String)}
      (h : readPair (skipBlanks cs) = .ok (pair, after)) (hs : Scans after pairs rest) :
      Scans cs (pair :: pairs) rest

def Yields (cs : List Char) (pairs : List (String × String)) : Prop :=
  ∃ rest, Scans cs pairs rest ∧ Blanks rest

theorem not_blanks_of_readPair {cs after : List Char} {pair : String × String}
    (h : readPair (skipBlanks cs) = .ok (pair, after)) : ¬ Blanks cs := by
  intro hb
  have hlen := readPair_length h
  rw [skipBlanks_eq_nil_iff.2 hb] at hlen
  exact Nat.not_lt_zero _ hlen

theorem Scans.continues {cs rest rest' : List Char} {pairs pairs' : List (String × String)}
    (h : Scans cs pairs rest) (h' : Scans cs pairs' rest') :
    (∃ more, pairs' = pairs ++ more ∧ Scans rest more rest') ∨
      (∃ more, pairs = pairs' ++ more ∧ Scans rest' more rest) := by
  induction h generalizing pairs' with
  | done => exact .inl ⟨pairs', rfl, h'⟩
  | @pair cs after rest pair pairs hp hs ih =>
    cases h' with
    | done => exact .inr ⟨pair :: pairs, rfl, .pair hp hs⟩
    | pair hp' hs' =>
      rw [hp] at hp'
      cases hp'
      rcases ih hs' with ⟨more, rfl, hm⟩ | ⟨more, rfl, hm⟩
      · exact .inl ⟨more, rfl, hm⟩
      · exact .inr ⟨more, rfl, hm⟩

theorem Scans.eq_nil_of_blanks {cs rest : List Char} {pairs : List (String × String)}
    (h : Scans cs pairs rest) (hb : Blanks cs) : pairs = [] := by
  cases h with
  | done => rfl
  | pair hp _ => exact absurd hb (not_blanks_of_readPair hp)

theorem Yields.unique {cs : List Char} {pairs pairs' : List (String × String)}
    (h : Yields cs pairs) (h' : Yields cs pairs') : pairs = pairs' := by
  obtain ⟨rest, hs, hb⟩ := h
  obtain ⟨rest', hs', hb'⟩ := h'
  rcases hs.continues hs' with ⟨more, rfl, hm⟩ | ⟨more, rfl, hm⟩
  · rw [hm.eq_nil_of_blanks hb, List.append_nil]
  · rw [hm.eq_nil_of_blanks hb', List.append_nil]

theorem readPairs_of_blanks {c : Config} {cs : List Char} (h : Blanks cs) :
    readPairs c cs = .ok c := by
  rw [readPairs, skipBlanks_eq_nil_iff.2 h]
  rfl

theorem readPairs_of_error {c : Config} {cs : List Char} {e : SyntaxError} (hne : ¬ Blanks cs)
    (h : readPair (skipBlanks cs) = .error e) : readPairs c cs = .error e := by
  have hempty : (skipBlanks cs).isEmpty = false := by
    simpa [skipBlanks_eq_nil_iff] using hne
  rw [readPairs, hempty, if_neg Bool.false_ne_true]
  split
  · next e' he => rw [h] at he; cases he; rfl
  · next he => rw [h] at he; cases he

theorem readPairs_of_pair {c : Config} {cs after : List Char} {key value : String}
    (h : readPair (skipBlanks cs) = .ok ((key, value), after)) :
    readPairs c cs = if c.contains key then .error (.duplicateKey key)
      else readPairs (c.insert key value) after := by
  have hempty : (skipBlanks cs).isEmpty = false := by
    simpa [skipBlanks_eq_nil_iff] using not_blanks_of_readPair h
  rw [readPairs, hempty, if_neg Bool.false_ne_true]
  split
  · next he => rw [h] at he; cases he
  · next he => rw [h] at he; cases he; rfl

theorem readPairs_of_scans {c : Config} {cs rest : List Char} {pairs : List (String × String)}
    (h : Scans cs pairs rest) (hnodup : (pairs.map Prod.fst).Nodup)
    (hnew : ∀ key ∈ pairs.map Prod.fst, c.contains key = false) :
    readPairs c cs = readPairs (c.insertAll pairs) rest := by
  induction h generalizing c with
  | done => rfl
  | @pair cs after rest pair pairs hp _ ih =>
    obtain ⟨hkey, hrest⟩ := List.nodup_cons.1 hnodup
    have hc := hnew pair.1 List.mem_cons_self
    rw [readPairs_of_pair hp, hc, if_neg Bool.false_ne_true, ih hrest, Table.insertAll_cons]
    intro key hk
    rw [← Bool.not_eq_true, Table.contains_insert, hnew key (List.mem_cons_of_mem _ hk)]
    rintro (rfl | h)
    · exact hkey hk
    · cases h

/-- How the reading of a configuration ends where a run stands. -/
inductive Outcome (c : Config) (rest : List Char) : Except SyntaxError Config → Prop where
  | finished (h : Blanks rest) : Outcome c rest (.ok c)
  | malformed {e : SyntaxError} (hne : ¬ Blanks rest)
      (h : readPair (skipBlanks rest) = .error e) : Outcome c rest (.error e)
  | duplicate {key value : String} {after : List Char}
      (h : readPair (skipBlanks rest) = .ok ((key, value), after)) (hc : c.contains key = true) :
      Outcome c rest (.error (.duplicateKey key))

/-- Every reading is a run over new pairs that ends in one of the three ways. -/
theorem exists_scans_outcome (c : Config) (cs : List Char) :
    ∃ pairs rest, Scans cs pairs rest ∧ (pairs.map Prod.fst).Nodup ∧
      (∀ key ∈ pairs.map Prod.fst, c.contains key = false) ∧
      Outcome (c.insertAll pairs) rest (readPairs c cs) := by
  fun_induction readPairs c cs with
  | case1 c cs h =>
    have hb : Blanks cs := skipBlanks_eq_nil_iff.1 (List.isEmpty_iff.1 h)
    exact ⟨[], cs, .done, List.nodup_nil, by simp, .finished hb⟩
  | case2 c cs h e he =>
    have hb : ¬ Blanks cs := fun hb => h (List.isEmpty_iff.2 (skipBlanks_eq_nil_iff.2 hb))
    exact ⟨[], cs, .done, List.nodup_nil, by simp, .malformed hb he⟩
  | case3 c cs h key value after he hc =>
    exact ⟨[], cs, .done, List.nodup_nil, by simp, .duplicate he hc⟩
  | case4 c cs h key value after he hc ih =>
    obtain ⟨pairs, rest, hs, hnodup, hnew, ho⟩ := ih
    have hout (k : String) (hk : k ∈ pairs.map Prod.fst) : k ≠ key ∧ c.contains k = false := by
      have hn := hnew k hk
      rw [← Bool.not_eq_true, Table.contains_insert, not_or] at hn
      exact ⟨hn.1, by simpa using hn.2⟩
    refine ⟨(key, value) :: pairs, rest, .pair he hs, ?_, ?_, ho⟩
    · exact List.nodup_cons.2 ⟨fun hk => (hout key hk).1 rfl, hnodup⟩
    · intro k hk
      rcases List.mem_cons.1 hk with rfl | hk
      · simpa using hc
      · exact (hout k hk).2

/-- A text is accepted if it can be read to its end and no key comes twice. -/
theorem parse_eq_ok_iff_yields {s : String} {c : Config} :
    parse s = .ok c ↔ ∃ pairs, Yields s.toList pairs ∧ (pairs.map Prod.fst).Nodup ∧
      c = Table.ofList pairs := by
  constructor
  · intro h
    obtain ⟨pairs, rest, hs, hnodup, _, ho⟩ := exists_scans_outcome .empty s.toList
    rw [show readPairs .empty s.toList = .ok c from h, Table.insertAll_empty] at ho
    cases ho with
    | finished hb => exact ⟨pairs, ⟨rest, hs, hb⟩, hnodup, rfl⟩
  · rintro ⟨pairs, ⟨rest, hs, hb⟩, hnodup, rfl⟩
    rw [parse, readPairs_of_scans hs hnodup (fun _ _ => rfl), Table.insertAll_empty,
      readPairs_of_blanks hb]

/-- Where a run stands, the rest decides about the whole text. -/
theorem parse_eq_of_scans {s : String} {rest : List Char} {pairs : List (String × String)}
    (hs : Scans s.toList pairs rest) (hnodup : (pairs.map Prod.fst).Nodup) :
    parse s = readPairs (Table.ofList pairs) rest := by
  rw [parse, readPairs_of_scans hs hnodup (fun _ _ => rfl), Table.insertAll_empty]

end NodeDiscovery.Config
