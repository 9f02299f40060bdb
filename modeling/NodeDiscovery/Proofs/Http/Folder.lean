import NodeDiscovery.Proofs.Http.Fetch
import Mathlib.Data.List.TakeWhile

/-! Where the requests for different paths go. Below the same folder they go to the same host, so
that if one can be built the others can be. -/
namespace NodeDiscovery.Http

namespace Url
variable {s s' : String} {u : Url} {scheme rest rest' : List Char}

/-- What of a text is read as an address: without blanks around it, nor line breaks and tabs in
it. -/
def cleaned (s : String) : List Char :=
  (((s.toList.dropWhile (· ≤ ' ')).reverse.dropWhile (· ≤ ' ')).reverse).filter
    fun c => c ≠ '\t' ∧ c ≠ '\n' ∧ c ≠ '\r'

/-- What of a text is read in front of a path. -/
def cleanedStart (s : String) : List Char :=
  (s.toList.dropWhile (· ≤ ' ')).filter fun c => c ≠ '\t' ∧ c ≠ '\n' ∧ c ≠ '\r'

/-- The part of a web address that names the host, which comes after the scheme and some slashes. -/
def location (rest : List Char) : List Char :=
  ((((rest.takeWhile (· ≠ '#')).takeWhile (· ≠ '?')).map
    fun c => if c = '\\' then '/' else c).dropWhile (· = '/')).takeWhile (· ≠ '/')

theorem exists_split_of_parse (h : parse s = .ok u) :
    ∃ rest, splitScheme? (cleaned s) = some (u.scheme, rest) := by
  unfold parse at h
  simp only [bind, Except.bind] at h
  split at h
  · cases h
  · next scheme rest hsplit =>
    have hread : splitScheme? (cleaned s) = some (scheme, rest) := hsplit
    suffices hscheme : u.scheme = scheme from ⟨rest, hscheme ▸ hread⟩
    split at h
    · split at h <;> cases h
      rfl
    · split at h
      · split at h <;> cases h
        rfl
      · split at h
        · split at h <;> cases h
          rfl
        · cases h
          rfl
        · cases h
          rfl

theorem map_parse_of_web (hsplit : splitScheme? (cleaned s) = some (scheme, rest))
    (hweb : scheme = "http".toList ∨ scheme = "https".toList) :
    (parse s).map (fun u => (u.scheme, u.authority)) =
      (normalAuthority (impliedPorts.lookup (String.ofList scheme)) true (location rest)).map
        fun authority => (scheme, some authority) := by
  have hfile : ¬ scheme = "file".toList := by
    rcases hweb with rfl | rfl <;> decide
  have himplied : (impliedPorts.lookup (String.ofList scheme)).isSome = true := by
    rcases hweb with rfl | rfl <;> decide
  unfold cleaned at hsplit
  unfold parse
  simp only [bind, Except.bind]
  rw [hsplit]
  simp only [hfile, himplied, if_false, Bool.true_or, if_true]
  rw [location]
  generalize normalAuthority _ true _ = found
  cases found <;> rfl

/-- Web addresses with the same host are read alike. -/
theorem exists_parse_of_location (h : parse s = .ok u)
    (hweb : u.scheme = "http".toList ∨ u.scheme = "https".toList)
    (hsplit : splitScheme? (cleaned s) = some (u.scheme, rest))
    (hsplit' : splitScheme? (cleaned s') = some (u.scheme, rest'))
    (hlocation : location rest' = location rest) :
    ∃ u', parse s' = .ok u' ∧ u'.scheme = u.scheme ∧ u'.authority = u.authority := by
  have hread := map_parse_of_web hsplit hweb
  have hread' := map_parse_of_web hsplit' hweb
  rw [hlocation, ← hread, h] at hread'
  cases hparse : parse s' with
  | error fault =>
    rw [hparse] at hread'
    cases hread'
  | ok u' =>
    rw [hparse] at hread'
    obtain ⟨hscheme, hauthority⟩ := Prod.mk.inj (Except.ok.inj hread')
    exact ⟨u', rfl, hscheme, hauthority⟩

/-! Texts with a path at their end -/

section Lists
variable {α : Type} {p : α → Bool} {xs ys : List α} {y : α}

theorem takeWhile_append_stop (hy : p y = false) :
    (xs ++ y :: ys).takeWhile p = xs.takeWhile p := by
  rw [List.takeWhile_append, List.takeWhile_cons_of_neg (by simp [hy]), List.append_nil]
  split
  · next h => exact ((List.takeWhile_prefix p).eq_of_length h).symm
  · rfl

theorem dropWhile_append_stop (hy : p y = false) :
    (xs ++ y :: ys).dropWhile p = xs.dropWhile p ++ y :: ys := by
  rw [List.dropWhile_append, List.dropWhile_cons_of_neg (by simp [hy])]
  split
  · next h => rw [List.isEmpty_iff.mp h, List.nil_append]
  · rfl

theorem dropWhile_append_of_exists (h : ∃ x ∈ xs, p x = false) :
    (xs ++ ys).dropWhile p = xs.dropWhile p ++ ys := by
  obtain ⟨x, hx, hp⟩ := h
  obtain ⟨before, after, rfl⟩ := List.append_of_mem hx
  rw [List.append_assoc, List.cons_append, dropWhile_append_stop hp, dropWhile_append_stop hp,
    List.append_assoc, List.cons_append]

end Lists

theorem takeWhile_ne_append {d : Char} {more : List Char} (hmore : d ∉ more) (cs : List Char) :
    (cs ++ more).takeWhile (· ≠ d) = if d ∈ cs then cs.takeWhile (· ≠ d) else cs ++ more := by
  split
  · next hd =>
    obtain ⟨before, after, rfl⟩ := List.append_of_mem hd
    rw [List.append_assoc, List.cons_append, takeWhile_append_stop (by simp),
      takeWhile_append_stop (by simp)]
  · next hd =>
    refine List.takeWhile_eq_self_iff.mpr fun c hc => ?_
    have hne : c ≠ d := by
      rintro rfl
      exact (List.mem_append.mp hc).elim hd hmore
    simpa using hne

/-- A character that stands for itself in a path, and is no blank. -/
def isPlain (c : Char) : Bool := ' ' < c && c != '#' && c != '?' && c != '\\'

theorem isPlain_iff {c : Char} : isPlain c = true ↔ ' ' < c ∧ c ≠ '#' ∧ c ≠ '?' ∧ c ≠ '\\' := by
  simp [isPlain, and_assoc]

theorem cleaned_append (base : String) {path : String} (hne : path ≠ "")
    (hplain : ∀ c ∈ path.toList, isPlain c = true) :
    cleaned (base ++ path) = cleanedStart base ++ path.toList := by
  have hgt (c : Char) (hc : c ∈ path.toList) : ' ' < c := (isPlain_iff.mp (hplain c hc)).1
  have hnil : path.toList ≠ [] := mt String.toList_eq_nil_iff.mp hne
  have hstart : (base.toList ++ path.toList).dropWhile (· ≤ ' ') =
      base.toList.dropWhile (· ≤ ' ') ++ path.toList := by
    obtain ⟨c, rest, hpath⟩ := List.exists_cons_of_ne_nil hnil
    have hc : ' ' < c := hgt c (by simp [hpath])
    rw [hpath]
    exact dropWhile_append_stop (by simpa using hc)
  have hend (cs : List Char) :
      ((cs ++ path.toList).reverse.dropWhile (· ≤ ' ')).reverse = cs ++ path.toList := by
    obtain ⟨rest, c, hpath⟩ := List.eq_nil_or_concat path.toList |>.resolve_left hnil
    have hc : ' ' < c := hgt c (by simp [hpath])
    rw [hpath, List.concat_eq_append, ← List.append_assoc, List.reverse_append,
      List.reverse_singleton, List.singleton_append, List.dropWhile_cons_of_neg (by simpa using hc),
      List.reverse_cons, List.reverse_reverse]
  have hkeep : path.toList.filter (fun c => c ≠ '\t' ∧ c ≠ '\n' ∧ c ≠ '\r') = path.toList := by
    refine List.filter_eq_self.mpr fun c hc => ?_
    have hne (d : Char) (hd : ¬ ' ' < d) : c ≠ d := fun he => hd (he ▸ hgt c hc)
    simpa using ⟨hne '\t' (by decide), hne '\n' (by decide), hne '\r' (by decide)⟩
  rw [cleaned, String.toList_append, hstart, hend, List.filter_append, hkeep,
    cleanedStart]

theorem splitScheme?_append (cs more : List Char) :
    splitScheme? (cs ++ '/' :: more) =
      (splitScheme? cs).map fun p => (p.1, p.2 ++ '/' :: more) := by
  have hslash : isSchemeChar '/' = false := by decide
  unfold splitScheme?
  rw [takeWhile_append_stop hslash, dropWhile_append_stop hslash]
  rcases hrest : cs.dropWhile isSchemeChar with _ | ⟨d, rest⟩
  · cases cs.takeWhile isSchemeChar <;> simp
  · cases cs.takeWhile isSchemeChar with
    | nil => simp
    | cons c name =>
      by_cases hd : d = ':'
      · subst hd
        by_cases hc : c.isAlpha = true <;> simp [hc]
      · simp [hd]

theorem location_append {cs folder more : List Char}
    (hplain : ∀ c ∈ '/' :: folder ++ '/' :: more, isPlain c = true)
    (hfolder : ∃ c ∈ folder, c ≠ '/') :
    location (cs ++ ('/' :: folder ++ '/' :: more)) = location (cs ++ '/' :: folder) := by
  have hnot (d : Char) (hd : isPlain d = false) :
      d ∉ '/' :: folder ++ '/' :: more ∧ d ∉ '/' :: folder := by
    have hall : d ∉ '/' :: folder ++ '/' :: more := fun h => by
      rw [hplain d h] at hd
      cases hd
    exact ⟨hall, fun h => hall (List.mem_append_left _ h)⟩
  obtain ⟨hhash, hhash'⟩ := hnot '#' (by decide)
  obtain ⟨hquestion, hquestion'⟩ := hnot '?' (by decide)
  obtain ⟨hback, hback'⟩ := hnot '\\' (by decide)
  unfold location
  rw [takeWhile_ne_append hhash, takeWhile_ne_append hhash']
  by_cases h : '#' ∈ cs
  · simp only [h, if_true]
  simp only [h, if_false]
  rw [takeWhile_ne_append hquestion, takeWhile_ne_append hquestion']
  by_cases h : '?' ∈ cs
  · simp only [h, if_true]
  simp only [h, if_false]
  -- The path is all there, without a backslash, and the host ends before its second slash.
  have hmap (part : List Char) (hpart : '\\' ∉ part) :
      (cs ++ part).map (fun c => if c = '\\' then '/' else c) =
        cs.map (fun c => if c = '\\' then '/' else c) ++ part := by
    rw [List.map_append]
    congr 1
    conv_rhs => rw [← List.map_id part]
    refine List.map_congr_left fun c hc => ?_
    have hne : c ≠ '\\' := fun he => hpart (he ▸ hc)
    rw [if_neg hne, id]
  rw [hmap _ hback, hmap _ hback', ← List.append_assoc]
  have hother : ∃ c ∈ cs.map (fun c => if c = '\\' then '/' else c) ++ '/' :: folder,
      decide (c = '/') = false := by
    obtain ⟨c, hc, hne⟩ := hfolder
    exact ⟨c, by simp [hc], by simpa using hne⟩
  rw [dropWhile_append_of_exists hother]
  exact takeWhile_append_stop (by simp)

/-- The path leads into a folder, and no character of it has another meaning. -/
structure Within (folder : List Char) (path : String) : Prop where
  plain : ∀ c ∈ path.toList, isPlain c = true
  below : ∃ more, path.toList = '/' :: folder ++ '/' :: more

namespace Within
variable {folder : List Char} {path : String}

theorem splitScheme? (h : Within folder path) (base : String) :
    Url.splitScheme? (cleaned (base ++ path)) =
      (Url.splitScheme? (cleanedStart base)).map fun p => (p.1, p.2 ++ path.toList) := by
  obtain ⟨more, hmore⟩ := h.below
  have hne : path ≠ "" := by
    rintro rfl
    cases hmore
  rw [cleaned_append base hne h.plain, hmore]
  exact splitScheme?_append _ _

theorem location_eq (h : Within folder path) (hfolder : ∃ c ∈ folder, c ≠ '/') (cs : List Char) :
    location (cs ++ path.toList) = location (cs ++ '/' :: folder) := by
  obtain ⟨more, hmore⟩ := h.below
  have hplain := h.plain
  rw [hmore] at hplain ⊢
  exact location_append hplain hfolder

end Within
end Url

/-- Below a folder, requests can be built for all paths or for none. -/
theorem Client.exists_request_within {client : Client} {folder : List Char}
    (hfolder : ∃ c ∈ folder, c ≠ '/') {path path' : String} {query : List (String × String)}
    {filter : Option String} {request : Request}
    (h : client.request path query filter = .ok request) (hpath : Url.Within folder path)
    (hpath' : Url.Within folder path') (query' : List (String × String)) :
    ∃ request', client.request path' query' none = .ok request' := by
  obtain ⟨u, hparsed, hhost, hsendable, -, htoken, -⟩ := Client.request_eq_ok_iff.mp h
  obtain ⟨hweb, hauthority⟩ := Url.sendable_eq_ok_iff.mp hsendable
  obtain ⟨rest, hsplit⟩ := Url.exists_split_of_parse hparsed
  have hstart := hsplit
  rw [hpath.splitScheme?] at hstart
  obtain ⟨⟨scheme, before⟩, hbefore, hrest⟩ := Option.map_eq_some_iff.mp hstart
  obtain ⟨rfl, rfl⟩ := Prod.mk.inj hrest
  have hsplit' : Url.splitScheme? (Url.cleaned (client.baseUrl ++ path')) =
      some (u.scheme, before ++ path'.toList) := by
    rw [hpath'.splitScheme?, hbefore]
    rfl
  have hlocation :
      Url.location (before ++ path'.toList) = Url.location (before ++ path.toList) := by
    rw [hpath'.location_eq hfolder, hpath.location_eq hfolder]
  obtain ⟨v, hparsed', hscheme, hsame⟩ :=
    Url.exists_parse_of_location hparsed hweb hsplit hsplit' hlocation
  have hsendable' : v.sendable = .ok v := by
    rw [Url.sendable_eq_ok_iff, hscheme, hsame]
    exact ⟨hweb, hauthority⟩
  have hhost' : v.hasHost = true := by
    rwa [Url.hasHost, hsame]
  exact ⟨_, Client.request_eq_ok_iff.mpr ⟨v, hparsed', hhost', hsendable', rfl, htoken, rfl⟩⟩

end NodeDiscovery.Http
