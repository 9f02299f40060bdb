/-! Blanks: the characters with the `White_Space` property, and trimming them from both ends. -/
namespace NodeDiscovery.Text

/-- The `White_Space` characters, as ranges of code points. -/
def blankRanges : List (Nat × Nat) :=
  [(0x9, 0xd), (0x20, 0x20), (0x85, 0x85), (0xa0, 0xa0), (0x1680, 0x1680), (0x2000, 0x200a),
    (0x2028, 0x2029), (0x202f, 0x202f), (0x205f, 0x205f), (0x3000, 0x3000)]

def isBlank (c : Char) : Bool :=
  blankRanges.any fun r => r.1 ≤ c.toNat && c.toNat ≤ r.2

def skipBlanks (cs : List Char) : List Char := cs.dropWhile isBlank

theorem skipBlanks_length_le (cs : List Char) : (skipBlanks cs).length ≤ cs.length :=
  (List.dropWhile_suffix _).length_le

/-- What is left after blanks does not start with one. -/
theorem isBlank_of_skipBlanks {cs rest : List Char} {c : Char} (h : skipBlanks cs = c :: rest) :
    isBlank c = false := by
  have := List.head?_dropWhile_not isBlank cs
  rw [show cs.dropWhile isBlank = c :: rest from h] at this
  simpa using this

/-- A run of blanks, possibly empty. -/
def Blanks (cs : List Char) : Prop := ∀ c ∈ cs, isBlank c = true

instance (cs : List Char) : Decidable (Blanks cs) :=
  decidable_of_iff (cs.all isBlank = true) List.all_eq_true

theorem blanks_nil : Blanks [] := by simp [Blanks]

theorem blanks_append {x y : List Char} : Blanks (x ++ y) ↔ Blanks x ∧ Blanks y := by
  simp [Blanks, or_imp, forall_and]

theorem skipBlanks_append {w : List Char} (hw : Blanks w) (cs : List Char) :
    skipBlanks (w ++ cs) = skipBlanks cs := List.dropWhile_append_of_pos hw

/-- A text that does not start with a blank stays as it is. -/
theorem skipBlanks_eq_self {cs : List Char} (h : ∀ c ∈ cs.head?, isBlank c = false) :
    skipBlanks cs = cs := by
  cases cs with
  | nil => rfl
  | cons c rest => exact List.dropWhile_cons_of_neg (by simp [h c rfl])

theorem head_skipBlanks (cs : List Char) : ∀ c ∈ (skipBlanks cs).head?, isBlank c = false := by
  intro c hc
  obtain ⟨rest, hrest⟩ := List.head?_eq_some_iff.1 hc
  exact isBlank_of_skipBlanks hrest

/-- What is skipped is a run of blanks. -/
theorem exists_blanks_append_skipBlanks (cs : List Char) :
    ∃ w, Blanks w ∧ cs = w ++ skipBlanks cs :=
  ⟨cs.takeWhile isBlank, List.all_eq_true.1 List.all_takeWhile,
    (List.takeWhile_append_dropWhile).symm⟩

theorem skipBlanks_eq_nil_iff {cs : List Char} : skipBlanks cs = [] ↔ Blanks cs := by
  constructor
  · intro h
    obtain ⟨w, hw, he⟩ := exists_blanks_append_skipBlanks cs
    rw [h, List.append_nil] at he
    exact he ▸ hw
  · intro h
    simpa [skipBlanks] using skipBlanks_append h []

/-- Drops the blanks at the end. -/
def trimEnd (cs : List Char) : List Char := (cs.reverse.dropWhile isBlank).reverse

def trim (cs : List Char) : List Char := trimEnd (skipBlanks cs)

theorem trimEnd_eq (cs : List Char) : trimEnd cs = (skipBlanks cs.reverse).reverse := rfl

/-- A text with blanks around it; the text itself has none at its ends. -/
def Pads (padded cs : List Char) : Prop :=
  ∃ w w', Blanks w ∧ Blanks w' ∧ padded = w ++ cs ++ w' ∧
    (∀ c ∈ cs.head?, isBlank c = false) ∧ (∀ c ∈ cs.getLast?, isBlank c = false)

theorem blanks_reverse {cs : List Char} : Blanks cs.reverse ↔ Blanks cs := by
  simp [Blanks]

/-- Trimming takes away all blanks around a text, and nothing else. -/
theorem trim_eq_iff_pads {padded cs : List Char} : trim padded = cs ↔ Pads padded cs := by
  rw [trim, trimEnd_eq]
  constructor
  · rintro rfl
    obtain ⟨w, hw, hstart⟩ := exists_blanks_append_skipBlanks padded
    obtain ⟨w', hw', hend⟩ := exists_blanks_append_skipBlanks (skipBlanks padded).reverse
    have hend' := congrArg List.reverse hend
    rw [List.reverse_reverse, List.reverse_append] at hend'
    refine ⟨w, w'.reverse, hw, blanks_reverse.mpr hw', ?_, ?_, ?_⟩
    · rw [List.append_assoc, ← hend']
      exact hstart
    · intro c hc
      refine head_skipBlanks padded c ?_
      rw [hend', List.head?_append, Option.mem_def.mp hc]
      rfl
    · intro c hc
      rw [List.getLast?_reverse] at hc
      exact head_skipBlanks _ c hc
  · rintro ⟨w, w', hw, hw', rfl, hhead, hlast⟩
    rw [List.append_assoc, skipBlanks_append hw]
    cases cs with
    | nil =>
      have hnil : skipBlanks w' = [] := skipBlanks_eq_nil_iff.mpr hw'
      rw [List.nil_append, hnil]
      rfl
    | cons c cs =>
      have hstart : skipBlanks (c :: cs ++ w') = c :: cs ++ w' :=
        skipBlanks_eq_self (by simpa using hhead)
      have hend : skipBlanks (c :: cs).reverse = (c :: cs).reverse := by
        refine skipBlanks_eq_self fun d hd => hlast d ?_
        rwa [List.head?_reverse] at hd
      rw [hstart, List.reverse_append, skipBlanks_append (blanks_reverse.mpr hw'), hend,
        List.reverse_reverse]

theorem trim_append_blanks {w : List Char} (hw : Blanks w) (cs : List Char) :
    trim (cs ++ w) = trim cs := by
  obtain ⟨v, v', hv, hv', hpads, hhead, hlast⟩ := trim_eq_iff_pads.mp (Eq.refl (trim cs))
  refine trim_eq_iff_pads.mpr ⟨v, v' ++ w, hv, blanks_append.mpr ⟨hv', hw⟩, ?_, hhead, hlast⟩
  rw [← List.append_assoc, ← hpads]

/-- What has no blanks at its ends is not trimmed. -/
theorem trim_eq_self {cs : List Char} (hhead : ∀ c ∈ cs.head?, isBlank c = false)
    (hlast : ∀ c ∈ cs.getLast?, isBlank c = false) : trim cs = cs :=
  trim_eq_iff_pads.mpr ⟨[], [], blanks_nil, blanks_nil, by simp, hhead, hlast⟩

end NodeDiscovery.Text
