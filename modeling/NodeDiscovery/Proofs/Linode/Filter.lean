import NodeDiscovery.Proofs.Json.Writing
import NodeDiscovery.Proofs.Queries

/-! The filter of a listing of instances. It tells the service which region and which tag to select
by, in a header; neither can add anything to it, or end it. -/
namespace NodeDiscovery

namespace Http

theorem isHeaderText_iff {s : String} :
    isHeaderText s = true ↔ ∀ c ∈ s.toList, ' ' ≤ c ∧ c ≠ '\x7f' ∨ c = '\t' := by
  simp [isHeaderText]

/-- JSON can be sent in a header unless one of its texts has a DEL in it. -/
theorem isHeaderText_writeObject {members : List (String × String)} :
    isHeaderText (Json.writeObject members) = true ↔
      ∀ member ∈ members, '\x7f' ∉ member.1.toList ++ member.2.toList := by
  rw [isHeaderText_iff, Json.forall_mem_writeObject (by simp)]
  refine forall₂_congr fun member _ => ⟨fun h hdel => ?_, fun h c hc d hd => ?_⟩
  · exact absurd (h _ hdel '\x7f' (by decide)) (by decide)
  · obtain ⟨hprinted, hdel⟩ := Json.of_mem_escape c d hd
    exact .inl ⟨hprinted, fun e => h (hdel e ▸ hc)⟩

theorem refuses_of_first {ι : Type} {request : ι → Except Fault Request}
    {leads : ι → Json → Option (Option ι)} {tell : ι → Fault → String} {script : List Reply}
    {first : ι} {fault : Fault}
    {x : Call ProviderError (List String)}
    (h : ∀ logger, ∃ asked,
      (service request leads).AllOrNothing tell script first asked (x.outcome logger))
    (hfirst : request first = .error fault) : x.Refuses := by
  refine ⟨.requestFailed (tell first fault), fun logger => ?_⟩
  obtain ⟨asked, hall⟩ := h logger
  have hfault (reply : Reply) : (service request leads).fault? first reply = some fault := by
    simp only [service, hfirst]
  rw [hall.of_fault [] first fault rfl (fun i hi => absurd hi (Nat.not_lt_zero i)) (hfault _)]
  simp [service, hfirst]

end Http

namespace Linode
variable (baseUrl : String) (userAgent : Option String) (world : World) (c : Config)

/-- The only filter of a search is the one for its region and its tag, which can be sent. -/
theorem sends_instanceFilter :
    (find baseUrl userAgent world c).Sends fun request => ∀ filter ∈ request.filter,
      filter = instanceFilter (c.getD "region") (c.getD "tag_name") ∧
        Http.isHeaderText filter = true := by
  rcases WebService.linode.refuses_or_builds baseUrl userAgent world c with
    hrefuses | ⟨-, token, -, hbuilds⟩
  · exact hrefuses.sends _
  · intro logger event hevent
    obtain ⟨request, hsent, path, query, asked, hasks, hbuilt⟩ := hbuilds logger event hevent
    obtain ⟨-, -, -, -, hheader, -⟩ := Http.Client.request_eq_ok_iff.mp hbuilt
    refine ⟨request, hsent, fun filter hfilter => ?_⟩
    rw [(Http.Client.headers_of_request hbuilt).2.2] at hfilter
    cases hasks with
    | linodes =>
      obtain rfl := Option.some.inj hfilter
      rw [Option.all_some] at hheader
      exact ⟨rfl, hheader⟩
    | linodeAddresses id => cases hfilter

/-- A search whose filter cannot be sent does not get to its first page. -/
theorem refuses_of_instanceFilter
    (hfilter : ¬ Http.isHeaderText (instanceFilter (c.getD "region") (c.getD "tag_name")) = true) :
    (find baseUrl userAgent world c).Refuses := by
  rcases refuses_or_employs baseUrl userAgent world c with hrefuses | ⟨token, kind, h, hkind⟩
  · exact hrefuses
  · cases hfirst : (Question.page 1 []).request ⟨baseUrl, userAgent, token⟩
        (instanceFilter (c.getD "region") (c.getD "tag_name")) with
    | error fault =>
      exact Http.refuses_of_first (fun logger => allOrNothing_find h hkind logger) hfirst
    | ok sent =>
      obtain ⟨-, -, -, -, hheader, -⟩ := Http.Client.request_eq_ok_iff.mp hfirst
      rw [Option.all_some] at hheader
      exact absurd hheader hfilter

/-- Whatever a region and a tag hold, they stay values of the filter of a listing. It is read as an
object with a member for each of the two that is not empty, and with no other member. No control
character is in it but DEL, which JSON does not escape; so the filter can be sent if and only if
neither of them has that. A search sends no other filter, and if its region or its tag has a DEL it
sends nothing. -/
theorem instanceFilter_holds_options (region tag : String) :
    (∃ entries : List (String × String),
      Json.parse? (instanceFilter region tag) =
        some (.object (entries.map fun entry => (some entry.1, .text (some entry.2)))) ∧
      (entries.map Prod.fst).Nodup ∧
      ∀ key value, (key, value) ∈ entries ↔
        value ≠ "" ∧ (key = "region" ∧ value = region ∨ key = "tags" ∧ value = tag)) ∧
    (∀ char ∈ (instanceFilter region tag).toList, ' ' ≤ char) ∧
    (Http.isHeaderText (instanceFilter region tag) = true ↔
      '\x7f' ∉ region.toList ∧ '\x7f' ∉ tag.toList) ∧
    ∀ (baseUrl : String) (userAgent : Option String) (world : World) (c : Config),
      c.getD "region" = region → c.getD "tag_name" = tag →
        ((find baseUrl userAgent world c).Sends fun request => ∀ filter ∈ request.filter,
          filter = instanceFilter region tag ∧ ∀ char ∈ filter.toList, ' ' ≤ char ∧ char ≠ '\x7f') ∧
        ('\x7f' ∈ region.toList ∨ '\x7f' ∈ tag.toList →
          (find baseUrl userAgent world c).Refuses) := by
  have hprinted : ∀ char ∈ (instanceFilter region tag).toList, ' ' ≤ char := by
    rw [instanceFilter, Json.forall_mem_writeObject (by simp)]
    exact fun _ _ c _ d hd => (Json.of_mem_escape c d hd).1
  have hsent : Http.isHeaderText (instanceFilter region tag) = true ↔
      '\x7f' ∉ region.toList ∧ '\x7f' ∉ tag.toList := by
    rw [instanceFilter, Http.isHeaderText_writeObject]
    by_cases hregion : region = "" <;> by_cases htag : tag = "" <;> simp [hregion, htag]
  refine ⟨⟨_, Json.parse_writeObject _, ?_, ?_⟩, hprinted, hsent, ?_⟩
  · have hnames : ([("region", region), ("tags", tag)].map Prod.fst).Nodup := by simp
    exact hnames.sublist (List.filter_sublist.map _)
  · intro key value
    simp only [List.mem_filter, List.mem_cons, List.not_mem_nil, or_false, Prod.mk.injEq,
      decide_eq_true_eq]
    exact and_comm
  · rintro baseUrl userAgent world c rfl rfl
    have hsends := sends_instanceFilter baseUrl userAgent world c
    refine ⟨hsends.imp fun request h filter hfilter => ?_, fun hdel => ?_⟩
    · obtain ⟨rfl, hheader⟩ := h filter hfilter
      refine ⟨rfl, fun char hchar => ⟨hprinted char hchar, ?_⟩⟩
      rintro rfl
      exact absurd (Http.isHeaderText_iff.mp hheader _ hchar) (by simp)
    · apply refuses_of_instanceFilter
      rw [hsent]
      tauto

/-- Text that would close the object stays in it, and a DEL keeps the search from asking. -/
theorem instanceFilter_holds_options_delete :
    let c : Config := .ofList [("provider", "linode"), ("api_token", "t"),
      ("region", "\"\x7d\r\n"), ("tag_name", "\x7f")]
    let filter := instanceFilter "\"\x7d\r\n" "\x7f"
    c.getD "region" = "\"\x7d\r\n" ∧ c.getD "tag_name" = "\x7f" ∧
      (∀ char ∈ filter.toList, ' ' ≤ char) ∧ Http.isHeaderText filter = false ∧
      (find defaultBaseUrl none (World.offline []) c).Refuses := by
  intro c filter
  have hregion : c.getD "region" = "\"\x7d\r\n" := by decide
  have htag : c.getD "tag_name" = "\x7f" := by decide
  obtain ⟨-, hprinted, hsent, hsearch⟩ := instanceFilter_holds_options "\"\x7d\r\n" "\x7f"
  refine ⟨hregion, htag, hprinted, ?_, ?_⟩
  · rw [← Bool.not_eq_true, hsent]
    decide
  · exact (hsearch defaultBaseUrl none (World.offline []) c hregion htag).2 (.inr (by decide))

end Linode
end NodeDiscovery
