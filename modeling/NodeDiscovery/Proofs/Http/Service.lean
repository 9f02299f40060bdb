import NodeDiscovery.Proofs.Session
import NodeDiscovery.Http.Fetch
import NodeDiscovery.Provider.Options

/-! A web service as a server of questions: when a reply answers a request, and what is wrong if it
does not. -/
namespace NodeDiscovery.Http
variable {ι α : Type}

/-- What is wrong with the reply to a request: none came, its status tells of an error, or it brings
no document of those that would answer. -/
def Reply.fault? (answers : Json → Bool) (url : String) : Reply → Option Fault
  | .unreachable | .closed => some (.lost url)
  | .response status body =>
    if 400 ≤ status ∧ status < 600 then some (.status status url)
    else if (Json.parse? (if Status.hasBody status then body else "")).any answers then none
    else some .undecodable

def Reply.json? : Reply → Option Json
  | .unreachable | .closed => none
  | .response status body =>
    if 400 ≤ status ∧ status < 600 then none
    else Json.parse? (if Status.hasBody status then body else "")

/-- The questions that the requests put. One whose request cannot be built fails by itself. A
document that answers says which question comes next, if any. -/
def service (request : ι → Except Fault Request) (leads : ι → Json → Option (Option ι)) :
    Service ι Reply Fault where
  events q reply := match request q with
    | .error _ => []
    | .ok request => if reply.isReceived then [.web request] else []
  fault? q reply := match request q with
    | .error fault => some fault
    | .ok request => reply.fault? (fun j => (leads q j).isSome) request.url.text
  next q reply := (reply.json?.bind (leads q)).join
  spent := .notFound
  spent_faulty q := by cases request q <;> rfl

def Reply.document (read : Json → Option α) (url : String) (reply : Reply) : Except Fault α :=
  match reply.body url with
  | .error fault => .error fault
  | .ok body => match (Json.parse? body).bind read with
    | some a => .ok a
    | none => .error .undecodable

/-- A reply brings a document if and only if nothing is wrong with it. -/
theorem Reply.document_cases (read : Json → Option α) (url : String) (reply : Reply) :
    match reply.fault? (fun j => (read j).isSome) url with
    | some fault => reply.document read url = .error fault
    | none => ∃ a, reply.document read url = .ok a ∧ reply.json?.bind read = some a := by
  cases reply with
  | unreachable => rfl
  | closed => rfl
  | response status body =>
    by_cases hstatus : 400 ≤ status ∧ status < 600
    · have herror : (Status.isClientError status || Status.isServerError status) = true := by
        simp [Status.isClientError, Status.isServerError]
        omega
      rw [Reply.fault?, if_pos hstatus, Reply.document, Reply.body, if_pos herror]
    · have hgood : ¬ (Status.isClientError status || Status.isServerError status) = true := by
        simp [Status.isClientError, Status.isServerError]
        omega
      have hany (j : Option Json) : j.any (fun j => (read j).isSome) = (j.bind read).isSome := by
        cases j <;> rfl
      rw [Reply.fault?, if_neg hstatus, Reply.document, Reply.body, if_neg hgood, hany, Reply.json?,
        if_neg hstatus]
      simp only
      cases (Json.parse? (if Status.hasBody status then body else "")).bind read with
      | none => rfl
      | some a => exact ⟨a, rfl, rfl⟩

theorem run_fetch_document (read : Json → Option α) (request : Request) (reply : Reply)
    (logger : Logger) :
    (fetch read (.ok request) reply).run logger =
      ⟨reply.document read request.url.text, [],
        if reply.isReceived then [.web request] else []⟩ := by
  unfold fetch Reply.document
  cases hbody : reply.body request.url.text with
  | error fault => cases reply.isReceived <;> simp [Call.run_bind, hbody]
  | ok body =>
    cases hread : (Json.parse? body).bind read <;> cases reply.isReceived <;>
      simp [Call.run_bind, hbody, hread]

theorem silent_fetch (read : Json → Option α) (request : Except Fault Request) (reply : Reply) :
    (fetch read request reply).Silent := by
  intro logger
  cases request with
  | error fault => rfl
  | ok request => rw [run_fetch_document, run_fetch_document]

theorem settles_fetch {request : ι → Except Fault Request} {leads : ι → Json → Option (Option ι)}
    {q : ι} {read : Json → Option α} {next : α → Option ι}
    (hleads : leads q = fun j => (read j).map next) (reply : Reply) (logger : Logger) :
    (service request leads).Settles (fun _ fault => fault) next q reply
      ((fetch read (request q) reply).outcome logger) := by
  have hanswers : (fun j => (leads q j).isSome) = fun j => (read j).isSome := by
    simp only [hleads, Option.isSome_map]
  cases hrequest : request q with
  | error fault =>
    refine ⟨?_, fun fault' hfault => ?_, fun hnone => ?_⟩
    · simp only [service, hrequest]
      rfl
    · simp only [service, hrequest, Option.some.injEq] at hfault
      rw [← hfault]
      rfl
    · simp only [service, hrequest, reduceCtorEq] at hnone
  | ok request =>
    have hcases := Reply.document_cases read request.url.text reply
    rw [Call.outcome, run_fetch_document]
    refine ⟨?_, fun fault hfault => ?_, fun hnone => ?_⟩
    · simp only [service, hrequest]
    · simp only [service, hrequest, hanswers] at hfault
      rw [hfault] at hcases
      exact hcases
    · simp only [service, hrequest, hanswers] at hnone
      rw [hnone] at hcases
      obtain ⟨a, ha, hread⟩ := hcases
      refine ⟨a, ha, ?_⟩
      have hmap (j : Option Json) :
          j.bind (fun j => (read j).map next) = (j.bind read).map next := by cases j <;> rfl
      simp only [service, hleads, hmap, hread]
      rfl

end NodeDiscovery.Http
