import NodeDiscovery.Proofs.Http.Folder

/-! What a server reads from the query of a request: the pairs that the request was built with. -/
namespace NodeDiscovery.Http
open NodeDiscovery.Text

theorem not_mem_encodeChars {special : List Char} (h : '?' ∈ special) (cs : List Char) :
    '?' ∉ encodeChars special cs := by
  have hdigit (n : Nat) (hn : n < 16) : '?' ≠ hexDigit .upper n := by
    have hall : ∀ m : Fin 16, '?' ≠ hexDigit .upper m := by decide
    exact hall ⟨n, hn⟩
  have hpercent (c : Char) : '?' ∉ percentEncode c := by
    intro hmem
    obtain ⟨b, -, hb⟩ := List.mem_flatMap.mp hmem
    have hlt := b.toNat_lt
    simp only [List.mem_cons, List.not_mem_nil, or_false] at hb
    rcases hb with hb | hb | hb
    · exact absurd hb (by decide)
    · exact hdigit _ (by omega) hb
    · exact hdigit _ (by omega) hb
  intro hmem
  obtain ⟨c, -, hc⟩ := List.mem_flatMap.mp hmem
  split at hc
  · exact hpercent c hc
  · next hplain =>
    obtain rfl := List.mem_singleton.mp hc
    exact hplain (.inr (.inr h))

namespace Url

theorem mem_leave {drives : Bool} {above : List (List Char)} {segment : List Char}
    (h : segment ∈ leave drives above) : segment ∈ above := by
  unfold leave at h
  split at h
  · exact h
  · split at h
    · exact h
    · exact List.mem_cons_of_mem _ h

/-- The segments of a resolved path are those on the way to it, empty ones, or encoded ones. -/
theorem of_mem_resolve {P : List Char → Prop} (hempty : P [])
    (hencoded : ∀ segment, P (encodeSegment segment)) {drives : Bool}
    {above path : List (List Char)} (habove : ∀ segment ∈ above, P segment) {segment : List Char}
    (h : segment ∈ resolve drives above path) : P segment := by
  have hleft (above : List (List Char)) (habove : ∀ segment ∈ above, P segment) :
      ∀ segment ∈ leave drives above, P segment := fun segment hmem =>
    habove segment (mem_leave hmem)
  -- The segments on the way are general, since each step puts one there or takes one away.
  fun_induction resolve drives above path with
  | case1 above => exact habove segment (List.mem_reverse.mp h)
  | case2 above last hdot =>
    exact List.forall_mem_cons.mpr ⟨hempty, habove⟩ segment (List.mem_reverse.mp h)
  | case3 above last hdot hdots =>
    exact List.forall_mem_cons.mpr ⟨hempty, hleft above habove⟩ segment (List.mem_reverse.mp h)
  | case4 above last hdot hdots =>
    exact List.forall_mem_cons.mpr ⟨hencoded last, habove⟩ segment (List.mem_reverse.mp h)
  | case5 above next rest hmore hdot ih => exact ih habove h
  | case6 above next rest hmore hdot hdots ih => exact ih (hleft above habove) h
  | case7 above next rest hmore hdot hdots ih =>
    exact ih (List.forall_mem_cons.mpr ⟨hencoded next, habove⟩) h

theorem not_mem_normalPath (cs : List Char) : '?' ∉ normalPath cs := by
  have hsegment : ∀ segment ∈ resolve false [] (segments cs), '?' ∉ segment := fun segment =>
    of_mem_resolve (P := fun segment => '?' ∉ segment) List.not_mem_nil
      (not_mem_encodeChars (by decide)) (fun _ h => absurd h List.not_mem_nil)
  intro h
  obtain ⟨segment, hmem, hin⟩ := List.mem_flatMap.mp h
  rcases List.mem_cons.mp hin with hslash | hin
  · exact absurd hslash (by decide)
  · exact hsegment segment hmem hin

theorem mem_of_mem_cleaned {s : String} {c : Char} (h : c ∈ cleaned s) : c ∈ s.toList := by
  have hdropped := List.mem_reverse.mp (List.mem_filter.mp h).1
  have hkept := List.mem_reverse.mp ((List.dropWhile_sublist _).subset hdropped)
  exact (List.dropWhile_sublist _).subset hkept

theorem suffix_of_splitScheme? {cs scheme rest : List Char}
    (h : splitScheme? cs = some (scheme, rest)) : rest <:+ cs := by
  unfold splitScheme? at h
  split at h
  · next c name tail _ hdrop =>
    split at h
    · obtain ⟨-, rfl⟩ := Prod.mk.inj (Option.some.inj h)
      have htail : ':' :: tail <:+ cs := hdrop ▸ List.dropWhile_suffix isSchemeChar
      exact (List.suffix_cons _ _).trans htail
    · cases h
  · cases h

theorem query_part_eq_nil {s : String} {scheme rest : List Char} (hs : '?' ∉ s.toList)
    (hsplit : splitScheme? (cleaned s) = some (scheme, rest)) :
    (rest.takeWhile (· ≠ '#')).dropWhile (· ≠ '?') = [] := by
  refine List.dropWhile_eq_nil_iff.mpr fun c hc => decide_eq_true ?_
  rintro rfl
  have hrest := (List.takeWhile_sublist _).subset hc
  exact hs (mem_of_mem_cleaned ((suffix_of_splitScheme? hsplit).subset hrest))

/-- What there is to a web address besides its host: a path in normal form, and a query if there is
a question mark in the text. -/
theorem of_parse_of_web {s : String} {u : Url} (h : parse s = .ok u)
    (hweb : u.scheme = "http".toList ∨ u.scheme = "https".toList) :
    '?' ∉ u.path ∧ ('?' ∉ s.toList → u.query = none) := by
  obtain ⟨rest, hsplit⟩ := exists_split_of_parse h
  have hquery (hs : '?' ∉ s.toList) := query_part_eq_nil hs hsplit
  have hfile : ¬ u.scheme = "file".toList := by
    rcases hweb with hscheme | hscheme <;> rw [hscheme] <;> decide
  have himplied : (impliedPorts.lookup (String.ofList u.scheme)).isSome = true := by
    rcases hweb with hscheme | hscheme <;> rw [hscheme] <;> decide
  unfold cleaned at hsplit
  unfold parse at h
  simp only [bind, Except.bind] at h
  rw [hsplit] at h
  simp only [hfile, himplied, if_false, Bool.true_or, if_true] at h
  split at h
  · cases h
  · have hu := Except.ok.inj h
    rw [← congrArg Url.path hu, ← congrArg Url.query hu]
    refine ⟨not_mem_normalPath _, fun hs => ?_⟩
    rw [hquery hs]
    rfl

/-- The query is what comes after the first question mark of a target. -/
theorem decode_target {u : Url} (h : '?' ∉ u.path) :
    Form.decode ((u.target.toList.dropWhile (· ≠ '?')).drop 1) =
      Form.decode (u.query.getD []) := by
  have htarget : u.target.toList = u.path ++ (u.query.map ('?' :: ·)).getD [] :=
    String.toList_ofList
  rw [htarget]
  cases u.query with
  | none =>
    have hpath : ∀ c ∈ u.path, decide (c ≠ '?') = true := fun c hc =>
      decide_eq_true (ne_of_mem_of_not_mem hc h)
    rw [Option.map_none, Option.getD_none, List.append_nil, List.dropWhile_eq_nil_iff.mpr hpath]
    rfl
  | some query =>
    rw [Option.map_some, Option.getD_some, (before_append h query).2, List.drop_one,
      List.tail_cons]
    rfl

end Url

def Request.pairs (request : Request) : List (String × String) :=
  Form.decode ((request.url.target.toList.dropWhile (· ≠ '?')).drop 1)

/-- A server reads these pairs from a request, after the own ones of the base address, which has
none unless there is a question mark in it. -/
def Request.Reads (baseUrl : String) (pairs : List (String × String)) (request : Request) : Prop :=
  ∃ own, request.pairs = own ++ pairs ∧ ('?' ∉ baseUrl.toList → own = [])

theorem Client.reads_of_request {client : Client} {path : String} {pairs : List (String × String)}
    {filter : Option String} {request : Request} (hpath : '?' ∉ path.toList)
    (h : client.request path pairs filter = .ok request) :
    request.Reads client.baseUrl pairs := by
  obtain ⟨endpoint, hparsed, -, hsendable, -, -, rfl⟩ := Client.request_eq_ok_iff.mp h
  obtain ⟨hquestion, hquery⟩ :=
    Url.of_parse_of_web hparsed (Url.sendable_eq_ok_iff.mp hsendable).1
  refine ⟨Form.decode (endpoint.query.getD []), ?_, fun hbase => ?_⟩
  · rw [Request.pairs]
    cases pairs with
    | nil => rw [List.append_nil]; exact Url.decode_target hquestion
    | cons pair pairs =>
      have htarget := Url.decode_target (u := endpoint.addQuery (pair :: pairs)) hquestion
      rw [Url.decode_addQuery] at htarget
      exact htarget
  · have htext : '?' ∉ (client.baseUrl ++ path).toList := by
      rw [String.toList_append, List.mem_append, not_or]
      exact ⟨hbase, hpath⟩
    rw [hquery htext]
    rfl

end NodeDiscovery.Http
