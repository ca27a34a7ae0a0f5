import CyberRange.Client.Retry

namespace CyberRange

/-! Putting requests together. -/

namespace Query

def valueText : Json → String
  | .null => ""
  | .bool value => if value then "true" else "false"
  | other => other.display

/-- A list stands for several items of one name. -/
def itemsOf (name : String) : Json → List (String × String)
  | .list values => values.map fun value => (name, valueText value)
  | value => [(name, valueText value)]

/-- The items of a query, without those that are null.  No parameters at all leave
the query of the address alone. -/
def ofParameters (parameters : List (String × Json)) : Option (List (String × String)) :=
  if parameters.isEmpty then none
  else
    some <| parameters.flatMap fun (name, value) =>
      match value with
      | .null => []
      | _ => itemsOf name value

end Query

namespace Policy

/-- The address that a reference and parameters stand for.  Parameters of which
none is left empty the query. -/
def address (policy : Policy) (reference : String) (parameters : List (String × Json)) : Url :=
  let url := policy.base.join reference
  match Query.ofParameters parameters with
  | none => url
  | some [] => url.withItems none
  | some items => url.withItems (some items)

/-- A request under the base address; a null is not sent. -/
def request (policy : Policy) (method reference : String) (parameters : List (String × Json))
    (document : Json) : Except CallFault Http.Request :=
  match Url.fault? reference with
  | some fault => .error (.invalidUrl fault)
  | none =>
      if document.hasUnwritable then .error .notFinite
      else
        .ok (.create method (policy.address reference parameters)
          (match document with
            | .null => .empty
            | value => .document value))

end Policy

end CyberRange
