import NodeDiscovery.Cli
import NodeDiscovery.Proofs.Config.Fault
import Mathlib.Data.List.Find
import Mathlib.Data.List.Forall2

/-! Texts put one after the other. With blanks between them each is read as if it stood alone, but
for keys that come again: the first of those that is met ends the reading. -/
namespace NodeDiscovery.Config
open NodeDiscovery.Text

def Apart (c d : Config) : Prop := ∀ key, c.contains key = true → d.contains key = false

def Unites (c : Config) (parts : List Config) : Prop :=
  ∀ key value, c.get? key = some value ↔ ∃ part ∈ parts, part.get? key = some value

/-- Of the keys of the pairs, the first one that the configuration has. -/
def firstTaken (c : Config) (pairs : List (String × String)) : Option String :=
  (pairs.map Prod.fst).find? c.contains

/-! Unions -/

theorem Unites.unique {c c' : Config} {parts : List Config} (h : Unites c parts)
    (h' : Unites c' parts) : c' = c :=
  Table.ext_get? fun key => Option.ext fun value => (h' key value).trans (h key value).symm

theorem Unites.contains_iff {c : Config} {parts : List Config} (h : Unites c parts)
    (key : String) : c.contains key = true ↔ ∃ part ∈ parts, part.contains key = true := by
  simp only [Table.contains, Option.isSome_iff_exists, h key]
  constructor
  · rintro ⟨value, part, hpart, hvalue⟩
    exact ⟨part, hpart, value, hvalue⟩
  · rintro ⟨part, hpart, value, hvalue⟩
    exact ⟨value, part, hpart, hvalue⟩

theorem Unites.apart_iff {c d : Config} {parts : List Config} (h : Unites c parts) :
    Apart d c ↔ ∀ part ∈ parts, Apart d part := by
  simp only [Apart, ← Bool.not_eq_true, h.contains_iff, not_exists, not_and]
  constructor
  · intro hd part hpart key hkey
    exact hd key hkey part hpart
  · intro hd key hkey part hpart
    exact hd part hpart key hkey

theorem Unites.cons {c c₁ c₂ : Config} {parts : List Config} (h : Unites c [c₁, c₂])
    (hparts : Unites c₂ parts) : Unites c (c₁ :: parts) := by
  intro key value
  rw [h key value]
  simp [hparts key value]

theorem firstTaken_eq_none_iff {c : Config} {pairs : List (String × String)} :
    firstTaken c pairs = none ↔ ∀ key ∈ pairs.map Prod.fst, c.contains key = false := by
  simp only [firstTaken, List.find?_eq_none, Bool.not_eq_true]

theorem apart_ofList_iff {c : Config} {pairs : List (String × String)} :
    Apart c (.ofList pairs) ↔ firstTaken c pairs = none := by
  rw [firstTaken_eq_none_iff]
  constructor
  · intro h key hkey
    by_contra hc
    have hout := h key (by simpa using hc)
    rw [Table.contains_ofList.mpr hkey] at hout
    cases hout
  · intro h key hc
    by_contra hin
    have hkey := Table.contains_ofList.mp (by simpa using hin)
    rw [h key hkey] at hc
    cases hc

theorem unites_insertAll {c : Config} {pairs : List (String × String)}
    (hnodup : (pairs.map Prod.fst).Nodup) (hnew : firstTaken c pairs = none) :
    Unites (c.insertAll pairs) [c, .ofList pairs] := by
  intro key value
  rw [Table.get?_insertAll_eq_some_iff hnodup]
  simp only [List.mem_cons, List.not_mem_nil, or_false, exists_eq_or_imp, exists_eq_left,
    Table.get?_ofList_eq_some_iff hnodup]
  constructor
  · rintro (hin | ⟨-, hc⟩)
    · exact .inr hin
    · exact .inl hc
  · rintro (hc | hin)
    · refine .inr ⟨fun hkey => ?_, hc⟩
      have hout := firstTaken_eq_none_iff.mp hnew key hkey
      rw [Table.contains, hc] at hout
      cases hout
    · exact .inl hin

theorem Apart.exists_unites {c₁ c₂ : Config} (h : Apart c₁ c₂) : ∃ c, Unites c [c₁, c₂] := by
  have hrows : Table.ofList c₂.rows = c₂ := c₂.ofList_rows
  rw [← hrows] at h
  have hunites := unites_insertAll c₂.nodup_names (apart_ofList_iff.mp h)
  rw [hrows] at hunites
  exact ⟨_, hunites⟩

/-! Reading on -/

/-- Whether a pair stands in front of a text depends on how the text begins, and only after a bare
value. -/
theorem PairText.before {after after' text : List Char} {key value : String}
    (h : PairText after key value text)
    (hafter : (∀ c ∈ after.head?, isBlank c = true) → ∀ c ∈ after'.head?, isBlank c = true) :
    PairText after' key value text := by
  obtain ⟨hkey, h₁, h₂, hvalue⟩ := h
  refine .mk hkey h₁ h₂ ?_
  cases hvalue with
  | bare hne hquote hword hend => exact .bare hne hquote hword (hafter hend)
  | quoted hescaped => exact .quoted hescaped

/-- What is spelled in front of one text is spelled in front of another, if blanks begin it where
they begin the first. -/
theorem Spells.before {rest rest' text : List Char} {pairs : List (String × String)}
    (h : Spells rest pairs text)
    (hrest : (∀ c ∈ rest.head?, isBlank c = true) → ∀ c ∈ rest'.head?, isBlank c = true) :
    Spells rest' pairs text := by
  induction h with
  | blanks hw => exact .blanks hw
  | @pair w text tail key value pairs hw hpair _ ih =>
    refine .pair hw (hpair.before fun hend => ?_) ih
    cases tail with
    | nil => exact hrest hend
    | cons d tail => exact hend

theorem readPairs_blanks_append {w : List Char} (hw : Blanks w) (c : Config) (cs : List Char) :
    readPairs c (w ++ cs) = readPairs c cs := by
  have hskip : skipBlanks (w ++ cs) = skipBlanks cs := skipBlanks_append hw cs
  by_cases hb : Blanks cs
  · rw [readPairs_of_blanks hb, readPairs_of_blanks (blanks_append.mpr ⟨hw, hb⟩)]
  · have hb' : ¬ Blanks (w ++ cs) := fun h => hb (blanks_append.mp h).2
    cases hp : readPair (skipBlanks cs) with
    | error e => rw [readPairs_of_error hb hp, readPairs_of_error hb' (hskip ▸ hp)]
    | ok q =>
      obtain ⟨⟨key, value⟩, after⟩ := q
      have hp' : readPair (skipBlanks (w ++ cs)) = .ok ((key, value), after) := by rw [hskip, hp]
      rw [readPairs_of_pair hp, readPairs_of_pair hp']

/-- After an accepted text and blanks, reading goes on with what the text stands for. -/
theorem parse_append_eq {s₁ w s₂ : String} {c₁ : Config} (h : parse s₁ = .ok c₁)
    (hw : Blanks w.toList) (hne : w ≠ "") :
    parse (s₁ ++ w ++ s₂) = readPairs c₁ s₂.toList := by
  obtain ⟨pairs, hyields, hnodup, rfl⟩ := parse_eq_ok_iff_yields.mp h
  have hhead : ∀ c ∈ (w.toList ++ s₂.toList).head?, isBlank c = true := by
    obtain ⟨d, tail, hd⟩ := List.exists_cons_of_ne_nil (mt String.toList_eq_nil_iff.mp hne)
    intro c hc
    rw [hd] at hc hw
    obtain rfl : d = c := by simpa using hc
    exact hw d List.mem_cons_self
  obtain ⟨w', hw', hs⟩ := ((yields_iff_spells.mp hyields).before fun _ => hhead).scans
  have htext : (s₁ ++ w ++ s₂).toList = s₁.toList ++ (w.toList ++ s₂.toList) := by
    rw [String.toList_append, String.toList_append, List.append_assoc]
  rw [← htext] at hs
  rw [parse_eq_of_scans hs hnodup, readPairs_blanks_append hw', readPairs_blanks_append hw]

theorem readPairs_of_taken {c : Config} {cs rest : List Char} {pairs : List (String × String)}
    {key : String} (h : Scans cs pairs rest) (hnodup : (pairs.map Prod.fst).Nodup)
    (hkey : firstTaken c pairs = some key) : readPairs c cs = .error (.duplicateKey key) := by
  induction h generalizing c with
  | done => cases hkey
  | @pair cs after rest pair pairs hp _ ih =>
    obtain ⟨hout, hrest⟩ := List.nodup_cons.mp hnodup
    rw [readPairs_of_pair hp]
    rw [firstTaken, List.map_cons, List.find?_cons] at hkey
    cases hc : c.contains pair.1 with
    | true =>
      rw [hc] at hkey
      obtain rfl := Option.some.inj hkey
      rfl
    | false =>
      rw [hc] at hkey
      -- The pair goes in, and makes no difference to the keys after it.
      have hlater : firstTaken (c.insert pair.1 pair.2) pairs = some key := by
        rw [← hkey]
        refine List.find?_congr fun k hk => ?_
        have hne : k ≠ pair.1 := fun e => hout (e ▸ hk)
        rw [Table.contains, Table.contains, Table.get?_insert, if_neg hne]
      rw [if_neg Bool.false_ne_true]
      exact ih hrest hlater

theorem readPairs_eq_ok_iff {c₁ c : Config} {s : String} :
    readPairs c₁ s.toList = .ok c ↔
      ∃ c₂, parse s = .ok c₂ ∧ Apart c₁ c₂ ∧ Unites c [c₁, c₂] := by
  constructor
  · intro h
    obtain ⟨pairs, rest, hs, hnodup, hnew, ho⟩ := exists_scans_outcome c₁ s.toList
    have hnone := firstTaken_eq_none_iff.mpr hnew
    rw [h] at ho
    cases ho with
    | finished hb =>
      exact ⟨.ofList pairs, parse_eq_ok_iff_yields.mpr ⟨pairs, ⟨rest, hs, hb⟩, hnodup, rfl⟩,
        apart_ofList_iff.mpr hnone, unites_insertAll hnodup hnone⟩
  · rintro ⟨c₂, hparse, hapart, hunites⟩
    obtain ⟨pairs, ⟨rest, hs, hb⟩, hnodup, rfl⟩ := parse_eq_ok_iff_yields.mp hparse
    have hnone := apart_ofList_iff.mp hapart
    rw [readPairs_of_scans hs hnodup (firstTaken_eq_none_iff.mp hnone), readPairs_of_blanks hb,
      hunites.unique (unites_insertAll hnodup hnone)]

/-- Where a text is refused, it is refused for the same fault after other options, unless one of its
pairs before that place repeats a key of theirs. -/
theorem readPairs_of_stopsAt {s : String} {pairs : List (String × String)} {p r : List Char}
    {e : SyntaxError} (hstop : StopsAt s pairs p r) (herror : parse s = .error e) (c : Config) :
    readPairs c s.toList = .error ((firstTaken c pairs).elim e .duplicateKey) := by
  obtain ⟨rest, hs, rfl, hb⟩ := hstop.scans
  cases htaken : firstTaken c pairs with
  | some key => exact readPairs_of_taken hs hstop.distinct htaken
  | none =>
    rw [readPairs_of_scans hs hstop.distinct (firstTaken_eq_none_iff.mp htaken)]
    rcases hstop.parse_eq_error_iff.mp herror with he | ⟨key, value, after, hp, hkey, rfl⟩
    · exact readPairs_of_error hb he
    · rw [readPairs_of_pair hp, if_pos ((Table.contains_insertAll _ _ _).mpr (.inl hkey))]
      rfl

/-! Command lines -/

/-- Arguments that are accepted one by one are accepted together if their options are apart, and
then they stand for all of these. -/
theorem parse_intercalate {arguments : List String} {configs : List Config}
    (h : List.Forall₂ (fun argument c => parse argument = .ok c) arguments configs) :
    ((∃ c, parse (" ".intercalate arguments) = .ok c) ↔ configs.Pairwise Apart) ∧
      ∀ c, parse (" ".intercalate arguments) = .ok c → Unites c configs := by
  induction h with
  | nil =>
    have hempty : parse (" ".intercalate []) = .ok .empty := readPairs_of_blanks blanks_nil
    refine ⟨⟨fun _ => .nil, fun _ => ⟨.empty, hempty⟩⟩, fun c hc => ?_⟩
    rw [hempty] at hc
    cases hc
    intro key value
    simp
  | @cons argument c₁ arguments configs hfirst hrest ih =>
    obtain ⟨haccepted, hunion⟩ := ih
    by_cases hlast : arguments = []
    · subst hlast
      obtain rfl := List.forall₂_nil_left_iff.mp hrest
      rw [String.intercalate_singleton, hfirst]
      refine ⟨⟨fun _ => List.pairwise_singleton _ _, fun _ => ⟨c₁, rfl⟩⟩, fun c hc => ?_⟩
      cases hc
      intro key value
      simp
    · have hjoined (c : Config) : parse (" ".intercalate (argument :: arguments)) = .ok c ↔
          ∃ c₂, parse (" ".intercalate arguments) = .ok c₂ ∧ Apart c₁ c₂ ∧ Unites c [c₁, c₂] := by
        rw [String.intercalate_cons_of_ne_nil hlast,
          parse_append_eq hfirst (by decide) (by decide), readPairs_eq_ok_iff]
      simp only [hjoined]
      refine ⟨⟨?_, fun hpairwise => ?_⟩, ?_⟩
      · rintro ⟨c, c₂, hparse, hapart, -⟩
        exact .cons ((hunion c₂ hparse).apart_iff.mp hapart) (haccepted.mp ⟨c₂, hparse⟩)
      · obtain ⟨hfirstApart, hrestApart⟩ := List.pairwise_cons.mp hpairwise
        obtain ⟨c₂, hparse⟩ := haccepted.mpr hrestApart
        have hapart := (hunion c₂ hparse).apart_iff.mpr hfirstApart
        obtain ⟨c, hunites⟩ := hapart.exists_unites
        exact ⟨c, c₂, hparse, hapart, hunites⟩
      · rintro c ⟨c₂, hparse, -, hunites⟩
        exact hunites.cons (hunion c₂ hparse)

/-- No configuration is written like the option that keeps the program quiet. -/
theorem ne_quiet_of_parse {text : String} {c : Config} (h : parse text = .ok c) : text ≠ "-q" := by
  rintro rfl
  have herror : parse "-q" = .error (.missingEquals "-q") :=
    readPairs_of_error (by decide) (by rfl)
  rw [herror] at h
  cases h

/-- The program looks for what the joined arguments stand for, in whatever text that is written. -/
theorem addresses_of_parse {arguments : List String} {text : String} {c : Config}
    (hplain : arguments.head? ≠ some "-q") (h : parse (" ".intercalate arguments) = .ok c)
    (htext : parse text = .ok c) (registry : Registry) (world : World) (filter : LogFilter) :
    Cli.addresses registry world filter arguments = Cli.addresses registry world filter [text] ∧
      Cli.addresses registry world filter ("-q" :: arguments) =
        Cli.addresses registry world filter ["-q", text] := by
  have hsame : registry.discover world (" ".intercalate arguments) =
      registry.discover world (" ".intercalate [text]) := by
    rw [String.intercalate_singleton, Registry.discover, Registry.discover, h, htext]
  have hplain' : [text].head? ≠ some "-q" := by
    simpa using ne_quiet_of_parse htext
  constructor
  · simp only [Cli.addresses, hplain, hplain', if_false, hsame]
  · simp only [Cli.addresses, List.head?_cons, if_true, List.tail_cons, hsame]

/-- Reading is compositional.

After an accepted text and blanks, a text is read as if it stood alone: if it is accepted and has no
key in common with the first one, both together stand for the union; if it is accepted and has, its
first key that the first text has is reported; and if it is refused, so are both, for the same fault
unless a pair before that place repeats a key of the first text. Arguments that are accepted one by
one are therefore accepted as a command line if and only if no two have a key in common; the program
then looks for their union. -/
theorem parse_append_cases :
    (∀ (s₁ w s₂ : String) (c₁ : Config), parse s₁ = .ok c₁ → Blanks w.toList → w ≠ "" →
      (∀ c₂, parse s₂ = .ok c₂ → ∃ pairs, Yields s₂.toList pairs ∧
        (Apart c₁ c₂ → ∃ c, parse (s₁ ++ w ++ s₂) = .ok c ∧ Unites c [c₁, c₂]) ∧
        (¬ Apart c₁ c₂ → ∃ key, firstTaken c₁ pairs = some key ∧
          parse (s₁ ++ w ++ s₂) = .error (.duplicateKey key))) ∧
      ∀ e, parse s₂ = .error e → ∃ pairs p r, StopsAt s₂ pairs p r ∧
        parse (s₁ ++ w ++ s₂) = .error ((firstTaken c₁ pairs).elim e .duplicateKey)) ∧
    ∀ (arguments : List String) (configs : List Config),
      List.Forall₂ (fun argument c => parse argument = .ok c) arguments configs →
      ((∃ c, parse (" ".intercalate arguments) = .ok c) ↔ configs.Pairwise Apart) ∧
      ∀ c, parse (" ".intercalate arguments) = .ok c → Unites c configs ∧
        ∀ text registry world filter, parse text = .ok c →
          Cli.addresses registry world filter arguments =
            Cli.addresses registry world filter [text] ∧
          Cli.addresses registry world filter ("-q" :: arguments) =
            Cli.addresses registry world filter ["-q", text] := by
  refine ⟨fun s₁ w s₂ c₁ h₁ hw hne => ⟨fun c₂ h₂ => ?_, fun e h₂ => ?_⟩, ?_⟩
  · obtain ⟨pairs, hyields, hnodup, rfl⟩ := parse_eq_ok_iff_yields.mp h₂
    refine ⟨pairs, hyields, fun hapart => ?_, fun hshared => ?_⟩
    · obtain ⟨c, hunites⟩ := hapart.exists_unites
      refine ⟨c, ?_, hunites⟩
      rw [parse_append_eq h₁ hw hne]
      exact readPairs_eq_ok_iff.mpr ⟨_, h₂, hapart, hunites⟩
    · obtain ⟨key, hkey⟩ := Option.ne_none_iff_exists'.mp (mt apart_ofList_iff.mpr hshared)
      obtain ⟨rest, hs, -⟩ := hyields
      refine ⟨key, hkey, ?_⟩
      rw [parse_append_eq h₁ hw hne]
      exact readPairs_of_taken hs hnodup hkey
  · obtain ⟨pairs, p, r, hstop⟩ := StopsAt.of_parse_eq_error h₂
    refine ⟨pairs, p, r, hstop, ?_⟩
    rw [parse_append_eq h₁ hw hne]
    exact readPairs_of_stopsAt hstop h₂ c₁
  · intro arguments configs h
    obtain ⟨haccepted, hunion⟩ := parse_intercalate h
    refine ⟨haccepted, fun c hc => ⟨hunion c hc, fun text registry world filter htext => ?_⟩⟩
    refine addresses_of_parse ?_ hc htext registry world filter
    cases h with
    | nil => simp
    | cons hfirst _ => simpa using ne_quiet_of_parse hfirst

/-- Two texts that have nothing in common, one that comes twice, one that is refused after a pair,
and two arguments. -/
theorem parse_append_cases_sample :
    let a : Config := .ofList [("a", "1")]
    let b : Config := .ofList [("b", "2")]
    (Apart a b ∧ ∃ c, parse ("a=1" ++ " " ++ "b=2") = .ok c ∧ Unites c [a, b]) ∧
    (¬ Apart b b ∧ parse ("b=2" ++ " " ++ "b=2") = .error (.duplicateKey "b")) ∧
    (parse "b=2 c" = .error (.missingEquals "c") ∧
      parse ("a=1" ++ " " ++ "b=2 c") = .error (.missingEquals "c") ∧
      parse ("b=2" ++ " " ++ "b=2 c") = .error (.duplicateKey "b")) ∧
    ((∃ c, parse (" ".intercalate ["a=1", "b=2"]) = .ok c) ↔ [a, b].Pairwise Apart) := by
  intro a b
  have hyields : Yields "b=2".toList [("b", "2")] := ⟨[], .pair (by rfl) .done, blanks_nil⟩
  have ha : parse "a=1" = .ok a :=
    parse_eq_ok_iff_yields.mpr ⟨_, ⟨[], .pair (by rfl) .done, blanks_nil⟩, by decide, rfl⟩
  have hb : parse "b=2" = .ok b := parse_eq_ok_iff_yields.mpr ⟨_, hyields, by decide, rfl⟩
  have hscans : Scans "b=2 c".toList [("b", "2")] " c".toList := .pair (by rfl) .done
  have hfault : readPair (skipBlanks " c".toList) = .error (.missingEquals "c") := by rfl
  have herror : parse "b=2 c" = .error (.missingEquals "c") := by
    rw [parse_eq_of_scans hscans (by decide)]
    exact readPairs_of_error (by decide) hfault
  obtain ⟨p, hstop⟩ := StopsAt.of_scans hscans (by decide) (by decide)
    (fun key value after h => by rw [hfault] at h; cases h)
  have hapart : Apart a b := apart_ofList_iff.mpr (by decide)
  have hshared : ¬ Apart b b := mt apart_ofList_iff.mp (by decide)
  obtain ⟨hjoined, harguments⟩ := parse_append_cases
  have hblank : Blanks " ".toList := by decide
  have hone : " " ≠ "" := by decide
  refine ⟨⟨hapart, ?_⟩, ⟨hshared, ?_⟩, ⟨herror, ?_, ?_⟩, ?_⟩
  · obtain ⟨_, -, hunion, -⟩ := (hjoined "a=1" " " "b=2" a ha hblank hone).1 b hb
    exact hunion hapart
  · obtain ⟨pairs, hpairs, -, hrepeats⟩ := (hjoined "b=2" " " "b=2" b hb hblank hone).1 b hb
    obtain ⟨key, hkey, hparse⟩ := hrepeats hshared
    obtain rfl := hyields.unique hpairs
    obtain rfl : "b" = key := Option.some.inj hkey
    exact hparse
  · obtain ⟨pairs, p', r, hstop', hparse⟩ :=
      (hjoined "a=1" " " "b=2 c" a ha hblank hone).2 _ herror
    obtain ⟨rfl, -, -⟩ := hstop.unique hstop'
    exact hparse
  · obtain ⟨pairs, p', r, hstop', hparse⟩ :=
      (hjoined "b=2" " " "b=2 c" b hb hblank hone).2 _ herror
    obtain ⟨rfl, -, -⟩ := hstop.unique hstop'
    exact hparse
  · exact (harguments _ _ (.cons ha (.cons hb .nil))).1

end NodeDiscovery.Config
