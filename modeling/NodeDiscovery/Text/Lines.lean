import NodeDiscovery.Text.Blank

/-! Cutting a text at a separator, and reading it line by line. -/
namespace NodeDiscovery.Text

/-- The pieces between the separators: one more than there are separators. -/
def splitAt (sep : Char) : List Char → List (List Char)
  | [] => [[]]
  | c :: rest =>
    if c = sep then [] :: splitAt sep rest
    else match splitAt sep rest with
      | [] => [[c]]
      | piece :: pieces => (c :: piece) :: pieces

theorem splitAt_ne_nil (sep : Char) (cs : List Char) : splitAt sep cs ≠ [] := by
  cases cs with
  | nil => simp [splitAt]
  | cons c rest => unfold splitAt; split <;> (try split) <;> simp

/-- Both sides of a separator are cut on their own. -/
theorem splitAt_append (sep : Char) (x y : List Char) :
    splitAt sep (x ++ sep :: y) = splitAt sep x ++ splitAt sep y := by
  induction x with
  | nil => simp [splitAt]
  | cons c x ih =>
    rw [List.cons_append, splitAt, splitAt]
    split
    · rw [ih, List.cons_append]
    · rw [ih]
      obtain ⟨piece, pieces, h⟩ := List.exists_cons_of_ne_nil (splitAt_ne_nil sep x)
      rw [h]
      rfl

theorem not_mem_of_mem_splitAt {sep : Char} {cs piece : List Char} (h : piece ∈ splitAt sep cs) :
    sep ∉ piece := by
  induction cs generalizing piece with
  | nil =>
    obtain rfl : piece = [] := by simpa [splitAt] using h
    exact List.not_mem_nil
  | cons c rest ih =>
    unfold splitAt at h
    split at h
    · rcases List.mem_cons.1 h with rfl | h
      · exact List.not_mem_nil
      · exact ih h
    · next hc =>
      obtain ⟨first, others, hs⟩ := List.exists_cons_of_ne_nil (splitAt_ne_nil sep rest)
      rw [hs] at h ih
      rcases List.mem_cons.1 h with rfl | h
      · intro hm
        rcases List.mem_cons.1 hm with e | hm
        · exact hc e.symm
        · exact ih List.mem_cons_self hm
      · exact ih (List.mem_cons_of_mem _ h)

theorem splitAt_of_not_mem {sep : Char} {cs : List Char} (h : sep ∉ cs) :
    splitAt sep cs = [cs] := by
  induction cs with
  | nil => rfl
  | cons c rest ih =>
    rw [List.mem_cons, not_or] at h
    rw [splitAt, if_neg (Ne.symm h.1), ih h.2]

/-- Pieces that are joined by a separator they do not hold are cut apart again. -/
theorem splitAt_intercalate {sep : Char} {piece : List Char} {pieces : List (List Char)}
    (h : ∀ x ∈ piece :: pieces, sep ∉ x) :
    splitAt sep ([sep].intercalate (piece :: pieces)) = piece :: pieces := by
  induction pieces generalizing piece with
  | nil => simpa using splitAt_of_not_mem (h piece List.mem_cons_self)
  | cons next pieces ih =>
    rw [List.intercalate_cons_cons, List.append_assoc, List.singleton_append, splitAt_append,
      splitAt_of_not_mem (h piece List.mem_cons_self),
      ih fun x hx => h x (List.mem_cons_of_mem _ hx), List.singleton_append]

/-- The pieces with the separators between them are the text. -/
theorem intercalate_splitAt (sep : Char) (cs : List Char) :
    [sep].intercalate (splitAt sep cs) = cs := by
  induction cs with
  | nil => rfl
  | cons c rest ih =>
    obtain ⟨piece, pieces, h⟩ := List.exists_cons_of_ne_nil (splitAt_ne_nil sep rest)
    rw [h] at ih
    rw [splitAt, h]
    split
    · next hc => rw [List.intercalate_cons_cons, ih, hc, List.nil_append, List.singleton_append]
    · cases pieces with
      | nil => rw [← ih, List.intercalate_singleton, List.intercalate_singleton]
      | cons next pieces =>
        rw [← ih, List.intercalate_cons_cons, List.intercalate_cons_cons]
        rfl

/-- Everything before the first separator. -/
def before (sep : Char) (cs : List Char) : List Char := cs.takeWhile (· ≠ sep)

theorem before_append {sep : Char} {cs : List Char} (h : sep ∉ cs) (rest : List Char) :
    before sep (cs ++ sep :: rest) = cs ∧
      (cs ++ sep :: rest).dropWhile (· ≠ sep) = sep :: rest := by
  have hcs : ∀ c ∈ cs, decide (c ≠ sep) = true := by
    intro c hc
    exact decide_eq_true fun e => h (e ▸ hc)
  rw [before, List.takeWhile_append_of_pos hcs, List.dropWhile_append_of_pos hcs]
  simp

/-- It is followed by a separator, or by nothing. -/
theorem before_eq_iff {sep : Char} {cs part : List Char} :
    before sep cs = part ↔ ∃ rest, cs = part ++ rest ∧ sep ∉ part ∧ ∀ c ∈ rest.head?, c = sep := by
  constructor
  · rintro rfl
    refine ⟨cs.dropWhile (· ≠ sep), List.takeWhile_append_dropWhile.symm, fun hmem => ?_, ?_⟩
    · simpa using List.all_eq_true.mp List.all_takeWhile sep hmem
    · intro c hc
      have hstop := List.head?_dropWhile_not (fun c => decide (c ≠ sep)) cs
      rw [Option.mem_def.mp hc] at hstop
      simpa using hstop
  · rintro ⟨rest, rfl, hpart, hrest⟩
    cases rest with
    | nil =>
      have hall : ∀ c ∈ part, decide (c ≠ sep) = true := fun c hc =>
        decide_eq_true fun e => hpart (e ▸ hc)
      rw [List.append_nil, before, ← List.append_nil part, List.takeWhile_append_of_pos hall]
      rfl
    | cons c rest =>
      obtain rfl : c = sep := hrest c rfl
      exact (before_append hpart rest).1

/-- A carriage return at the end of a line belongs to its line break. -/
def dropReturn (line : List Char) : List Char :=
  if line.getLast? = some '\r' then line.dropLast else line

/-- The lines of a text: each ends at a line feed, the last one also at the end of the text. A last
line without a line feed keeps its carriage return. -/
def lines (cs : List Char) : List (List Char) :=
  let pieces := splitAt '\n' cs
  pieces.dropLast.map dropReturn ++ match pieces.getLast? with
    | some [] | none => []
    | some last => [last]

/-- The nonblank lines, each without the blanks around it. -/
def trimmedLines (cs : List Char) : List (List Char) :=
  (lines cs).map trim |>.filter (· ≠ [])

end NodeDiscovery.Text
