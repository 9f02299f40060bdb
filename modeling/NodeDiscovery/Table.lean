/-!
Tables keyed by name and kept in ascending order of the names. Two tables with the same lookups
are equal (`ext_get?`).
-/
namespace NodeDiscovery

/-- Rows in ascending order of their names, each name once. -/
structure Table (α : Type) where
  rows : List (String × α)
  ascending : rows.Pairwise (fun a b => a.1 < b.1)

instance {α : Type} [DecidableEq α] : DecidableEq (Table α) := fun s t =>
  if h : s.rows = t.rows then
    isTrue (by cases s; cases t; cases h; rfl)
  else isFalse (fun e => h (congrArg Table.rows e))

namespace Table
variable {α : Type}

def empty : Table α := ⟨[], .nil⟩

/-- The value of the first row of that name. -/
def lookupRow (name : String) : List (String × α) → Option α
  | [] => none
  | row :: rest => if name = row.1 then some row.2 else lookupRow name rest

def get? (t : Table α) (name : String) : Option α := lookupRow name t.rows

def contains (t : Table α) (name : String) : Bool := (t.get? name).isSome

def names (t : Table α) : List String := t.rows.map Prod.fst

def size (t : Table α) : Nat := t.rows.length

def isEmpty (t : Table α) : Bool := t.rows.isEmpty

/-- Puts a row in its place; a row of the same name gives way. -/
def insertRow (name : String) (value : α) : List (String × α) → List (String × α)
  | [] => [(name, value)]
  | row :: rest =>
    if name < row.1 then (name, value) :: row :: rest
    else if name = row.1 then (name, value) :: rest
    else row :: insertRow name value rest

theorem mem_insertRow {name : String} {value : α} {rows : List (String × α)} {r : String × α}
    (h : r ∈ insertRow name value rows) : r = (name, value) ∨ r ∈ rows := by
  induction rows with
  | nil => simpa [insertRow] using h
  | cons row rest ih =>
    unfold insertRow at h
    split at h
    · simpa using h
    · split at h
      · rcases List.mem_cons.1 h with h | h
        · exact .inl h
        · exact .inr (List.mem_cons_of_mem _ h)
      · rcases List.mem_cons.1 h with h | h
        · exact .inr (h ▸ List.mem_cons_self)
        · exact (ih h).imp id (List.mem_cons_of_mem _)

theorem insertRow_ascending (name : String) (value : α) {rows : List (String × α)}
    (h : rows.Pairwise (fun a b => a.1 < b.1)) :
    (insertRow name value rows).Pairwise (fun a b => a.1 < b.1) := by
  induction rows with
  | nil => simp [insertRow]
  | cons row rest ih =>
    have hrest := List.pairwise_cons.1 h
    unfold insertRow
    split
    · next hlt =>
      refine List.pairwise_cons.2 ⟨fun r hr => ?_, h⟩
      rcases List.mem_cons.1 hr with rfl | hr
      · exact hlt
      · exact String.lt_trans hlt (hrest.1 r hr)
    · next hlt =>
      split
      · next heq => exact List.pairwise_cons.2 ⟨heq ▸ hrest.1, hrest.2⟩
      · next hne =>
        refine List.pairwise_cons.2 ⟨fun r hr => ?_, ih hrest.2⟩
        rcases mem_insertRow hr with rfl | hr
        · rcases Std.lt_trichotomy name row.1 with h | h | h
          · exact absurd h hlt
          · exact absurd h hne
          · exact h
        · exact hrest.1 r hr

def insert (t : Table α) (name : String) (value : α) : Table α :=
  ⟨insertRow name value t.rows, insertRow_ascending name value t.ascending⟩

def erase (t : Table α) (name : String) : Table α :=
  ⟨t.rows.filter (·.1 ≠ name), t.ascending.filter _⟩

/-- Puts a row in, with the value that was there before. -/
def getThenInsert (t : Table α) (name : String) (value : α) : Option α × Table α :=
  (t.get? name, t.insert name value)

/-- Takes a row out, with the value that was there before. -/
def getThenErase (t : Table α) (name : String) : Option α × Table α :=
  (t.get? name, t.erase name)

/-- The table of a list of rows, in which a later row of the same name wins. -/
def ofList (rows : List (String × α)) : Table α :=
  rows.foldl (fun t r => t.insert r.1 r.2) empty

/-- Applies `f` to every value. -/
def map {β : Type} (t : Table α) (f : α → β) : Table β :=
  ⟨t.rows.map fun r => (r.1, f r.2), List.pairwise_map.2 t.ascending⟩

@[simp] theorem get?_empty (name : String) : (empty : Table α).get? name = none := rfl

theorem lookupRow_insertRow (name key : String) (value : α) (rows : List (String × α)) :
    lookupRow key (insertRow name value rows) =
      if key = name then some value else lookupRow key rows := by
  induction rows with
  | nil => simp [insertRow, lookupRow]
  | cons row rest ih =>
    unfold insertRow
    split
    · simp [lookupRow]
    · split
      · next heq => by_cases h : key = name <;> simp [lookupRow, h, heq ▸ h]
      · next hne =>
        by_cases h : key = row.1
        · have hk : key ≠ name := fun e => hne (e ▸ h)
          simp [lookupRow, h, h ▸ hk]
        · simp [lookupRow, h, ih]

theorem get?_insert (t : Table α) (name key : String) (value : α) :
    (t.insert name value).get? key = if key = name then some value else t.get? key :=
  lookupRow_insertRow name key value t.rows

theorem lookupRow_filter (name key : String) (rows : List (String × α)) :
    lookupRow key (rows.filter (·.1 ≠ name)) =
      if key = name then none else lookupRow key rows := by
  induction rows with
  | nil => simp [lookupRow]
  | cons row rest ih =>
    by_cases hr : row.1 = name
    · rw [List.filter_cons_of_neg (by simpa using hr), ih]
      by_cases hk : key = name
      · simp [hk]
      · have hk' : key ≠ row.1 := fun e => hk (e.trans hr)
        simp [lookupRow, hk, hk']
    · rw [List.filter_cons_of_pos (by simpa using hr)]
      by_cases hk : key = row.1
      · simp [lookupRow, hk, hr]
      · rw [lookupRow, if_neg hk, ih, lookupRow, if_neg hk]

theorem get?_erase (t : Table α) (name key : String) :
    (t.erase name).get? key = if key = name then none else t.get? key :=
  lookupRow_filter name key t.rows

theorem lookupRow_map {β : Type} (f : α → β) (name : String) (rows : List (String × α)) :
    lookupRow name (rows.map fun r => (r.1, f r.2)) = (lookupRow name rows).map f := by
  induction rows with
  | nil => rfl
  | cons row rest ih => by_cases h : name = row.1 <;> simp [lookupRow, h, ih]

theorem get?_map {β : Type} (t : Table α) (f : α → β) (name : String) :
    (t.map f).get? name = (t.get? name).map f :=
  lookupRow_map f name t.rows

@[simp] theorem names_map {β : Type} (t : Table α) (f : α → β) : (t.map f).names = t.names := by
  simp [names, map]

theorem names_ascending (t : Table α) : t.names.Pairwise (· < ·) :=
  List.pairwise_map.2 t.ascending

@[simp] theorem length_names (t : Table α) : t.names.length = t.size := List.length_map _

theorem lookupRow_eq_some_iff {rows : List (String × α)} {name : String} {value : α}
    (h : rows.Pairwise (fun a b => a.1 < b.1)) :
    lookupRow name rows = some value ↔ (name, value) ∈ rows := by
  induction rows with
  | nil => simp [lookupRow]
  | cons row rest ih =>
    have hrest := List.pairwise_cons.1 h
    by_cases hk : name = row.1
    · have hout : (name, value) ∉ rest := fun hm => String.lt_irrefl _ (hk ▸ hrest.1 _ hm)
      simp only [lookupRow, hk, if_true, Option.some.injEq, List.mem_cons, hk ▸ hout, or_false]
      exact ⟨fun e => by rw [← e], fun e => congrArg Prod.snd e.symm⟩
    · have hne : (name, value) ≠ row := fun e => hk (congrArg Prod.fst e)
      simp [lookupRow, hk, hne, ih hrest.2]

theorem get?_eq_some_iff {t : Table α} {name : String} {value : α} :
    t.get? name = some value ↔ (name, value) ∈ t.rows :=
  lookupRow_eq_some_iff t.ascending

theorem isSome_get?_iff {t : Table α} {name : String} :
    (t.get? name).isSome ↔ name ∈ t.names := by
  simp only [Option.isSome_iff_exists, get?_eq_some_iff, names, List.mem_map, Prod.exists,
    exists_and_right, exists_eq_right]

/-- Ascending lists with the same members are the same list. -/
theorem rows_eq_of_mem_iff {xs ys : List (String × α)}
    (hx : xs.Pairwise (fun a b => a.1 < b.1)) (hy : ys.Pairwise (fun a b => a.1 < b.1))
    (h : ∀ r, r ∈ xs ↔ r ∈ ys) : xs = ys := by
  induction xs generalizing ys with
  | nil =>
    cases ys with
    | nil => rfl
    | cons y ys => exact absurd ((h y).2 List.mem_cons_self) List.not_mem_nil
  | cons x xs ih =>
    cases ys with
    | nil => exact absurd ((h x).1 List.mem_cons_self) List.not_mem_nil
    | cons y ys =>
      have hx' := List.pairwise_cons.1 hx
      have hy' := List.pairwise_cons.1 hy
      have hxy : x = y := by
        rcases List.mem_cons.1 ((h x).1 List.mem_cons_self) with e | hm
        · exact e
        · rcases List.mem_cons.1 ((h y).2 List.mem_cons_self) with e | hn
          · exact e.symm
          · exact absurd (hy'.1 x hm) (String.lt_asymm (hx'.1 y hn))
      subst hxy
      refine congrArg (x :: ·) (ih hx'.2 hy'.2 fun r => ?_)
      constructor
      · intro hr
        rcases List.mem_cons.1 ((h r).1 (List.mem_cons_of_mem _ hr)) with e | hm
        · exact absurd (e ▸ hx'.1 r hr) (String.lt_irrefl _)
        · exact hm
      · intro hr
        rcases List.mem_cons.1 ((h r).2 (List.mem_cons_of_mem _ hr)) with e | hm
        · exact absurd (e ▸ hy'.1 r hr) (String.lt_irrefl _)
        · exact hm

/-- A table is determined by its lookups. -/
theorem ext_get? {s t : Table α} (h : ∀ name, s.get? name = t.get? name) : s = t := by
  have hrows : s.rows = t.rows := rows_eq_of_mem_iff s.ascending t.ascending fun r => by
    obtain ⟨name, value⟩ := r
    rw [← get?_eq_some_iff, ← get?_eq_some_iff, h]
  cases s; cases t; cases hrows; rfl

theorem contains_insert (t : Table α) (name key : String) (value : α) :
    (t.insert name value).contains key = true ↔ key = name ∨ t.contains key = true := by
  rw [contains, contains, get?_insert]
  by_cases h : key = name <;> simp [h]

/-- Puts rows in one after the other. -/
def insertAll (t : Table α) (rows : List (String × α)) : Table α :=
  rows.foldl (fun t r => t.insert r.1 r.2) t

@[simp] theorem insertAll_nil (t : Table α) : t.insertAll [] = t := rfl

@[simp] theorem insertAll_cons (t : Table α) (row : String × α) (rows : List (String × α)) :
    t.insertAll (row :: rows) = (t.insert row.1 row.2).insertAll rows := rfl

theorem insertAll_empty (rows : List (String × α)) : empty.insertAll rows = ofList rows := rfl

theorem contains_insertAll (t : Table α) (rows : List (String × α)) (key : String) :
    (t.insertAll rows).contains key = true ↔
      key ∈ rows.map Prod.fst ∨ t.contains key = true := by
  induction rows generalizing t with
  | nil => simp
  | cons row rows ih =>
    rw [insertAll_cons, ih, contains_insert, List.map_cons, List.mem_cons, or_left_comm,
      or_assoc]

/-- Rows of different names all stay. -/
theorem get?_insertAll_eq_some_iff {t : Table α} {rows : List (String × α)} {key : String}
    {value : α} (h : (rows.map Prod.fst).Nodup) :
    (t.insertAll rows).get? key = some value ↔
      (key, value) ∈ rows ∨ key ∉ rows.map Prod.fst ∧ t.get? key = some value := by
  induction rows generalizing t with
  | nil => simp
  | cons row rows ih =>
    obtain ⟨name, content⟩ := row
    obtain ⟨hname, hrest⟩ := List.nodup_cons.1 h
    rw [insertAll_cons, ih hrest, get?_insert]
    by_cases hk : key = name
    · subst hk
      have hout : ∀ v, (key, v) ∉ rows := fun v hv => hname (List.mem_map.2 ⟨_, hv, rfl⟩)
      simp [hout, eq_comm, show key ∉ rows.map Prod.fst from hname]
    · simp [hk]

theorem get?_ofList_eq_some_iff {rows : List (String × α)} {key : String} {value : α}
    (h : (rows.map Prod.fst).Nodup) :
    (ofList rows).get? key = some value ↔ (key, value) ∈ rows := by
  rw [← insertAll_empty, get?_insertAll_eq_some_iff h]
  simp

theorem contains_ofList {rows : List (String × α)} {key : String} :
    (ofList rows).contains key = true ↔ key ∈ rows.map Prod.fst := by
  rw [← insertAll_empty, contains_insertAll]
  simp [contains]

theorem eq_ofList_iff {t : Table α} {rows : List (String × α)} (h : (rows.map Prod.fst).Nodup) :
    t = ofList rows ↔ ∀ key value, t.get? key = some value ↔ (key, value) ∈ rows := by
  constructor
  · rintro rfl key value
    exact get?_ofList_eq_some_iff h
  · intro ht
    refine ext_get? fun key => Option.ext fun value => ?_
    rw [ht key value, get?_ofList_eq_some_iff h]

/-- Every name stands once. -/
theorem nodup_names (t : Table α) : t.names.Nodup := by
  refine t.names_ascending.imp fun hlt heq => ?_
  rw [heq] at hlt
  exact String.lt_irrefl _ hlt

theorem ofList_rows (t : Table α) : ofList t.rows = t :=
  ((eq_ofList_iff t.nodup_names).mpr fun _ _ => get?_eq_some_iff).symm

theorem size_ofList {rows : List (String × α)} (h : (rows.map Prod.fst).Nodup) :
    (ofList rows).size = rows.length := by
  have hperm : (ofList rows).names.Perm (rows.map Prod.fst) :=
    (List.perm_ext_iff_of_nodup (nodup_names _) h).mpr fun _ =>
      isSome_get?_iff.symm.trans contains_ofList
  simpa using hperm.length_eq

/-- A name has one row or none. -/
theorem filter_rows_eq (t : Table α) (name : String) :
    t.rows.filter (·.1 = name) = ((t.get? name).map (name, ·)).toList := by
  refine rows_eq_of_mem_iff (t.ascending.filter _) ?_ fun r => ?_
  · cases t.get? name <;> simp
  · obtain ⟨key, value⟩ := r
    rw [List.mem_filter, ← get?_eq_some_iff]
    cases h : t.get? name with
    | none =>
      simp only [Option.map_none, Option.toList_none, List.not_mem_nil, iff_false]
      rintro ⟨hv, hk⟩
      rw [of_decide_eq_true hk, h] at hv
      cases hv
    | some v =>
      simp only [Option.map_some, Option.toList_some, List.mem_singleton, Prod.mk.injEq]
      constructor
      · rintro ⟨hv, hk⟩
        have hk := of_decide_eq_true hk
        rw [hk, h] at hv
        exact ⟨hk, (Option.some.inj hv).symm⟩
      · rintro ⟨rfl, rfl⟩
        exact ⟨h, decide_eq_true rfl⟩

end Table
end NodeDiscovery
