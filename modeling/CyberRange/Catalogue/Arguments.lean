import CyberRange.Json.Value

namespace CyberRange

/-! Arguments bound to parameters, by place and by name. -/

/-- A parameter; one without a fallback has to be given. -/
structure Parameter where
  name : String
  fallback : Option Json

inductive ArgumentFault where
  | unexpected (name : String)
  | repeated (name : String)
  | tooMany (least most given : Nat)
  | missing (names : List String)
deriving Repr, DecidableEq

namespace ArgumentFault

/-- Names in quotation, the last one behind "and". -/
def enumeration : List String → String
  | [] => ""
  | [single] => "'" ++ single ++ "'"
  | [first, second] => "'" ++ first ++ "' and '" ++ second ++ "'"
  | names =>
      String.intercalate ", " (names.dropLast.map fun name => "'" ++ name ++ "'") ++ ", and '" ++
        names.getLastD "" ++ "'"

def plural (count : Nat) : String :=
  if count = 1 then "" else "s"

/-- The object that is being made counts as an argument in the number of places. -/
def message : ArgumentFault → String
  | .unexpected name => "got an unexpected keyword argument '" ++ name ++ "'"
  | .repeated name => "got multiple values for argument '" ++ name ++ "'"
  | .tooMany least most given =>
      "takes " ++
        (if least = most then toString (most + 1)
          else "from " ++ toString (least + 1) ++ " to " ++ toString (most + 1)) ++
        " positional argument" ++ (if least = most then plural (most + 1) else "s") ++ " but " ++
        toString (given + 1) ++ " were given"
  | .missing names =>
      "missing " ++ toString names.length ++ " required positional argument" ++
        plural names.length ++ ": " ++ enumeration names

end ArgumentFault

namespace Parameter

/-- The first named argument that has no parameter or whose parameter has a value. -/
def misnamed? (parameters : List Parameter) (placed : Nat) (named : Entries Json) :
    Option ArgumentFault :=
  (Entries.keys named).findSome? fun name =>
    match parameters.findIdx? fun parameter => parameter.name == name with
    | none => some (.unexpected name)
    | some index => if index < placed then some (.repeated name) else none

/-- The value of each parameter. -/
def values (parameters : List Parameter) (placed : List Json) (named : Entries Json) :
    List (String × Option Json) :=
  parameters.mapIdx fun index parameter =>
    (parameter.name,
      match placed[index]? with
      | some value => some value
      | none => (Entries.get? parameter.name named).or parameter.fallback)

def bind (parameters : List Parameter) (placed : List Json) (named : Entries Json) :
    Except ArgumentFault (Entries Json) :=
  match misnamed? parameters placed.length named with
  | some fault => .error fault
  | none =>
      if parameters.length < placed.length then
        .error (.tooMany (parameters.filter fun parameter => parameter.fallback.isNone).length
          parameters.length placed.length)
      else
        let found := values parameters placed named
        let absent := (found.filter fun entry => entry.2.isNone).map Prod.fst
        if absent.isEmpty then
          .ok (found.filterMap fun (name, value) => value.map fun given => (name, given))
        else .error (.missing absent)

end Parameter

end CyberRange
