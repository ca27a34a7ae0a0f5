import CyberRange.Registry

namespace CyberRange

/-! Runs over a registry: operations carried out one after the other, each at a
moment of the system's time, together with what every one of them gives. -/

/-- A registry and the source that its new sessions have their ids from. -/
structure Desk where
  registry : Registry
  ids : IdSource

namespace Registry

/-- What can be asked of a registry and of the terminals behind it. -/
inductive Operation where
  | create
  | get (id : String)
  | submit (id line : String)
  | recallLine (id : String) (given : Json)
  | reset (id : String)
  | delete (id : String)
  | list
  | clear

/-- What an operation that is not refused gives. -/
inductive Response where
  | session (session : Session)
  | result (result : Option CommandResult)
  | line (line : String)
  | ids (ids : List String)
  | done

/-- Whether an operation is a use of the session with the given id or concerns
the registry as a whole.  The uses of other sessions are those that read, run,
recall or reset there. -/
def Operation.matters (id : String) : Operation → Bool
  | .get other | .submit other _ | .recallLine other _ | .reset other => other = id
  | .create | .delete _ | .list | .clear => true

end Registry

namespace Desk

open Registry (Operation Response)

/-- What a refusable operation gives, and the desk behind it; a refusal changes
nothing. -/
def settle (desk : Desk) (respond : α → Response) :
    Except RegistryFault (α × Registry) → Except RegistryFault Response × Desk
  | .error fault => (.error fault, desk)
  | .ok (value, registry) => (.ok (respond value), { desk with registry })

/-- Carries out one operation. -/
def apply (now : Timestamp) (operation : Operation) (desk : Desk) :
    Except RegistryFault Response × Desk :=
  match operation with
  | .create =>
      let (outcome, ids) := desk.registry.register now desk.ids
      { desk with ids }.settle .session outcome
  | .get id => (desk.registry.get id |>.map .session, desk)
  | .submit id line => desk.settle .result (desk.registry.submit now id line)
  | .recallLine id given => desk.settle .line (desk.registry.navigate id given)
  | .reset id => desk.settle .session (desk.registry.reset now id)
  | .delete id =>
      desk.settle (fun _ => .done) ((desk.registry.delete id).map fun registry => ((), registry))
  | .list => (.ok (.ids desk.registry.sessionIds), desk)
  | .clear => (.ok .done, { desk with registry := desk.registry.clear })

/-- Carries out operations one after the other, each at its time, and keeps what
each of them gave. -/
def run : List (Timestamp × Operation) → Desk →
    List (Operation × Except RegistryFault Response) × Desk
  | [], desk => ([], desk)
  | (now, operation) :: rest, desk =>
      let (response, next) := desk.apply now operation
      let (responses, last) := run rest next
      ((operation, response) :: responses, last)

end Desk

end CyberRange
