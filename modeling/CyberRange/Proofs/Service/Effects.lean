import CyberRange.Proofs.Registry.Steps
import CyberRange.Proofs.Service.Routing
import CyberRange.Service.Handler

namespace CyberRange

/-! What a request can do to the service.

Whatever stands in front of the registry, routing, reading and refusing, leaves the
service alone; only an order that is carried out changes it, and only if it is not
refused by the registry.  `Outcome` says what it has changed then.
-/

namespace Service

variable {service : Service} {registry : Registry} {request : Http.Request} {order : Order}
  {task : Task} {now : Timestamp}

/-- What an order that succeeds makes of the registry. -/
inductive Outcome (now : Timestamp) (ids : IdSource) (registry : Registry) :
    Order → Registry → Prop where
  | create {session after later}
      (registered : registry.register now ids = (.ok (session, after), later)) :
      Outcome now ids registry .create after
  | list : Outcome now ids registry .list registry
  | describe {id} : Outcome now ids registry (.describe id) registry
  | delete {id after} (deleted : registry.delete id = .ok after) :
      Outcome now ids registry (.delete id) after
  | execute {id line result after} (submitted : registry.submit now id line = .ok (result, after)) :
      Outcome now ids registry (.execute id line) after
  | recallLine {id direction line after}
      (recalled : registry.recallLine id direction = .ok (line, after)) :
      Outcome now ids registry (.recallLine id direction) after
  | reset {id session after} (restarted : registry.reset now id = .ok (session, after)) :
      Outcome now ids registry (.reset id) after

theorem isSuccess_document {status : Int} (success : 200 ≤ status ∧ status ≤ 299) (value : Json) :
    (Http.Response.document status value).isSuccess = true := by
  rw [Http.Response.isSuccess, Bool.and_eq_true, decide_eq_true_eq, decide_eq_true_eq]
  exact success

theorem isSuccess_refuse (fault : RegistryFault) : (refuse fault).isSuccess = false := by
  cases fault <;> rfl

theorem carryOut_cases (shared : service.provider = .shared registry) (now : Timestamp)
    (order : Order) :
    ((service.carryOut now registry order).1.isSuccess = false ∧
        (service.carryOut now registry order).2.provider = service.provider) ∨
      ((service.carryOut now registry order).1.isSuccess = true ∧
        ∃ after, (service.carryOut now registry order).2.provider = .shared after ∧
          Outcome now service.ids registry order after) := by
  have ok : ∀ value, (Http.Response.document 200 value).isSuccess = true :=
    isSuccess_document (by decide)
  cases order with
  | create =>
      cases registered : registry.register now service.ids with
      | mk outcome ids =>
          cases outcome with
          | error fault =>
              simp only [carryOut, registered]
              exact .inl ⟨isSuccess_refuse fault, trivial⟩
          | ok found =>
              simp only [carryOut, registered]
              exact .inr ⟨isSuccess_document (by decide) _, _, rfl, .create registered⟩
  | list => exact .inr ⟨ok _, registry, shared, .list⟩
  | describe id =>
      cases found : registry.get id with
      | error fault =>
          simp only [carryOut, found]
          exact .inl ⟨isSuccess_refuse fault, trivial⟩
      | ok session =>
          simp only [carryOut, found]
          exact .inr ⟨ok _, registry, shared, .describe⟩
  | delete id =>
      cases deleted : registry.delete id with
      | error fault =>
          simp only [carryOut, deleted]
          exact .inl ⟨isSuccess_refuse fault, trivial⟩
      | ok next =>
          simp only [carryOut, deleted]
          exact .inr ⟨ok _, next, rfl, .delete deleted⟩
  | execute id line =>
      cases found : registry.get id with
      | error fault =>
          simp only [carryOut, found]
          exact .inl ⟨isSuccess_refuse fault, trivial⟩
      | ok session =>
          have submitted : registry.submit now id line =
              .ok ((session.terminal.submit now line).1,
                registry.withTerminal id (session.terminal.submit now line).2) :=
            Registry.submit_ok_iff.mpr ⟨session, found, rfl, rfl⟩
          simp only [carryOut, found]
          exact .inr ⟨ok _, _, rfl, .execute submitted⟩
  | recallLine id direction =>
      cases recalled : registry.recallLine id direction with
      | error fault =>
          simp only [carryOut, recalled]
          exact .inl ⟨isSuccess_refuse fault, trivial⟩
      | ok found =>
          simp only [carryOut, recalled]
          exact .inr ⟨ok _, found.2, rfl, .recallLine recalled⟩
  | reset id =>
      cases restarted : registry.reset now id with
      | error fault =>
          simp only [carryOut, restarted]
          exact .inl ⟨isSuccess_refuse fault, trivial⟩
      | ok found =>
          simp only [carryOut, restarted]
          exact .inr ⟨ok _, found.2, rfl, .reset restarted⟩

/-- A request leaves the registry alone, or it is granted and carries out an order. -/
theorem handle_cases (now : Timestamp) (request : Http.Request) (service : Service) :
    (service.handle now request).2.provider = service.provider ∨
      ((service.handle now request).1.isSuccess = true ∧
        ∃ registry task order after, service.provider = .shared registry ∧
          Route.ofRequest request.method request.url.path = .found (.task task) ∧
          Order.ofRequest request task = .valid order ∧
          (service.handle now request).2.provider = .shared after ∧
          Outcome now service.ids registry order after) := by
  cases route : Route.ofRequest request.method request.url.path with
  | nowhere | wrongMethod | elsewhere path =>
      left
      simp only [handle, route]
  | found endpoint =>
      cases endpoint with
      | page page =>
          left
          simp only [handle, route]
      | task task =>
          have served : service.handle now request = service.serve now request task := by
            simp only [handle, route]
          rw [served]
          cases content : refusedContent request task with
          | some response =>
              left
              simp only [serve, content]
          | none =>
              cases provider : service.provider with
              | uninitialized | failing outage =>
                  left
                  simp only [serve, content, provider, Provider.get]
              | shared registry =>
                  cases read : Order.ofRequest request task with
                  | invalid issues =>
                      left
                      simp only [serve, content, provider, Provider.get, perform, read]
                  | valid order =>
                      have carried : service.serve now request task =
                          service.carryOut now registry order := by
                        simp only [serve, content, provider, Provider.get, perform, read]
                      rw [carried]
                      rcases carryOut_cases provider now order with
                        ⟨-, same⟩ | ⟨success, after, changed, outcome⟩
                      · exact .inl (same.trans provider)
                      · exact .inr
                          ⟨success, registry, task, order, after, rfl, rfl, read, changed, outcome⟩

end Service

end CyberRange
