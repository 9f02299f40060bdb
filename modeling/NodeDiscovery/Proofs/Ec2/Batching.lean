import NodeDiscovery.Proofs.Walk

/-! How the instances of a listing are cut into reservations, and these into pages, makes no
difference to what a search finds. -/
namespace NodeDiscovery.Ec2
variable {world : World} {c : Config} {q : Query} {signing : Credentials}
  {script script' : List Reply} {delivered : List Instance}

def Page.instances (p : Page) : List Instance :=
  (p.reservations.getD []).flatMap Reservation.members

/-- The replies of a script bring pages, the last one without a token and those before it with one,
and the instances on these pages, put together, are those given. -/
inductive Delivers : List Reply → List Instance → Prop
  | last {reply : Reply} {page : Page} {later : List Reply} (brings : reply.page? = .ok page)
      (ends : page.nextToken.getD "" = "") : Delivers (reply :: later) page.instances
  | more {reply : Reply} {page : Page} {token : String} {script : List Reply}
      {delivered : List Instance} (brings : reply.page? = .ok page)
      (goesOn : page.nextToken = some token) (nonempty : token ≠ "")
      (rest : Delivers script delivered) : Delivers (reply :: script) (page.instances ++ delivered)

theorem next_eq_none {page : Page} (h : page.nextToken.getD "" = "") (token : Option String) :
    (listing (some signing) q).next token page = none := by
  simp only [listing]
  cases hnext : page.nextToken with
  | none => rfl
  | some next =>
    rw [hnext, Option.getD_some] at h
    simp [h]

theorem next_eq_some {page : Page} {next : String} (h : page.nextToken = some next)
    (hnonempty : next ≠ "") (token : Option String) :
    (listing (some signing) q).next token page = some (some next) := by
  simp [listing, h, hnonempty]

theorem Delivers.exists_visits (h : Delivers script delivered)
    (hsendable : signing.isSendable = true) (token : Option String) (logger : Logger) :
    ∃ pages events later,
      (listing (some signing) q).Visits logger token script pages events later ∧
        pages.flatMap Page.instances = delivered := by
  induction h generalizing token with
  | @last reply page later brings ends =>
    refine ⟨[page], _, later, .last (run_fetch hsendable brings token logger)
      (next_eq_none ends token), ?_⟩
    rw [List.flatMap_singleton]
  | @more reply page next script delivered brings goesOn nonempty rest ih =>
    obtain ⟨pages, events, later, hvisits, hpages⟩ := ih (some next)
    refine ⟨page :: pages, _, later, .more (run_fetch hsendable brings token logger)
      (next_eq_some goesOn nonempty token) hvisits, ?_⟩
    rw [List.flatMap_cons, hpages]

theorem Delivers.result_find (h : Delivers world.ec2 delivered) (hposes : Poses c world.env q)
    (hcredentials : credentialsOf c world.env = some signing)
    (hsendable : signing.isSendable = true) (userAgent : Option String) (logger : Logger) :
    ((find userAgent world c).run logger).result =
      .ok (delivered.flatMap (Instance.addresses q.kind)) := by
  obtain ⟨pages, events, later, hvisits, rfl⟩ :=
    h.exists_visits (q := q) hsendable none logger
  have hlisted : (reservations (some signing) q world.ec2).outcome logger =
      (.ok (pages.flatMap fun page => page.reservations.getD []), events) := by
    rw [reservations, Call.outcome_bind_quiet fun _ => Call.quiet_pure _, Call.outcome,
      hvisits.run_pages]
    rfl
  have hfound := congrArg Prod.fst (outcome_find hposes userAgent logger)
  rw [hcredentials, hlisted] at hfound
  refine hfound.trans (congrArg Except.ok ?_)
  exact congrArg (List.flatMap (Instance.addresses q.kind)) List.flatMap_assoc

/-- The kind of addresses that is asked for is one that instances tell of. -/
theorem Poses.kind_ne {env : Environment} (h : Poses c env q) : q.kind ≠ .privateV6 := by
  intro hkind
  have hread := h.kind
  rw [hkind] at hread
  unfold addressKind at hread
  cases hparsed : c.parsed "addr_type" AddressKind.read default with
  | error e =>
    rw [hparsed] at hread
    cases hread
  | ok kind =>
    rw [hparsed] at hread
    cases kind <;> cases hread

/-- What a search finds depends on the instances that are delivered, and not on how they are cut
into reservations and pages. It is the address that each of them has, of the kind asked for; of
version 6 it is all addresses at all interfaces, where an interface without a list of them adds
none. -/
theorem find_ignores_batching (hposes : Poses c world.env q)
    (hcredentials : credentialsOf c world.env = some signing)
    (hsendable : signing.isSendable = true) (hscript : Delivers script delivered)
    (hscript' : Delivers script' delivered) (userAgent : Option String) (logger : Logger) :
    q.kind ≠ .privateV6 ∧ ∃ found,
      ((find userAgent { world with ec2 := script } c).run logger).result = .ok found ∧
      ((find userAgent { world with ec2 := script' } c).run logger).result = .ok found ∧
      (q.kind = .privateV4 → found = delivered.filterMap Instance.privateIp) ∧
      (q.kind = .publicV4 → found = delivered.filterMap Instance.publicIp) ∧
      (q.kind = .publicV6 → found = delivered.flatMap fun i =>
        (i.interfaces.getD []).flatMap fun interface =>
          (interface.ipv6.getD []).filterMap id) := by
  have hfinds (script : List Reply) (h : Delivers script delivered) :
      ((find userAgent { world with ec2 := script } c).run logger).result =
        .ok (delivered.flatMap (Instance.addresses q.kind)) := by
    have hdelivers : Delivers ({ world with ec2 := script } : World).ec2 delivered := h
    exact hdelivers.result_find hposes hcredentials hsendable userAgent logger
  refine ⟨hposes.kind_ne, _, hfinds script hscript, hfinds script' hscript', ?_, ?_, ?_⟩
  · intro hkind
    rw [hkind, List.filterMap_eq_flatMap_toList]
    rfl
  · intro hkind
    rw [hkind, List.filterMap_eq_flatMap_toList]
    rfl
  · intro hkind
    rw [hkind]
    rfl

/-- Two instances on one page, and the same on three pages, of which the first has no reservations.
An interface without addresses does not hide the next one. -/
theorem find_ignores_batching_sample :
    let c : Config := .ofList [("provider", "aws"), ("tag_key", "k"), ("tag_value", "v"),
      ("addr_type", "public_v6"), ("access_key_id", "i"), ("secret_access_key", "s")]
    let first : Instance := ⟨some "i1", none, none,
      some [⟨some "a", none⟩, ⟨some "b", some [some "2001:db8::1", none]⟩]⟩
    let second : Instance := ⟨none, some "10.0.0.2", none,
      some [⟨none, some [some "2001:db8::2", some "2001:db8::3"]⟩]⟩
    let whole : Page := ⟨some [⟨some "r", some [first, second]⟩], none⟩
    let start : Page := ⟨none, some "t"⟩
    let middle : Page := ⟨some [⟨none, none⟩, ⟨none, some [first]⟩, ⟨none, some []⟩], some "u"⟩
    let last : Page := ⟨some [⟨some "s", some [second]⟩], some ""⟩
    let finds (script : List Reply) (found : List String) : Prop :=
      ((find none { World.offline [] with ec2 := script } c).run .discard).result = .ok found
    Delivers [.page whole] [first, second] ∧
      Delivers [.page start, .page middle, .page last] [first, second] ∧
      finds [.page whole] ["2001:db8::1", "2001:db8::2", "2001:db8::3"] ∧
      finds [.page start, .page middle, .page last]
        ["2001:db8::1", "2001:db8::2", "2001:db8::3"] := by
  intro c first second whole start middle last finds
  have hposes : Poses c (World.offline []).env ⟨"k", "v", .publicV6, .fallback⟩ :=
    ⟨by decide, by decide, by decide, by decide, by decide⟩
  have hcredentials : credentialsOf c (World.offline []).env = some ⟨"i", "s", none⟩ := by decide
  have hwhole : Delivers [.page whole] whole.instances := .last rfl rfl
  have hcut : Delivers [.page start, .page middle, .page last]
      (start.instances ++ (middle.instances ++ last.instances)) :=
    .more rfl rfl (by decide) (.more rfl rfl (by decide) (.last rfl rfl))
  obtain ⟨-, found, hfound, hfound', -, -, hall⟩ :=
    find_ignores_batching hposes hcredentials (by decide) hwhole hcut none .discard
  obtain rfl := hall rfl
  exact ⟨hwhole, hcut, hfound, hfound'⟩

end NodeDiscovery.Ec2
