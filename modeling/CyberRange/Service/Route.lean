import CyberRange.Http.Message

namespace CyberRange

/-! What a path and a method of a request name. -/

inductive Resource where
  | root
  | health
  | targets
  | sessions
  | session (id : String)
  | execution (id : String)
  | history (id : String)
  | renewal (id : String)
deriving Repr, DecidableEq

/-- What is the same for everybody. -/
inductive Page where
  | welcome
  | health
  | targets
deriving Repr, DecidableEq

inductive Task where
  | create
  | list
  | describe (id : String)
  | delete (id : String)
  | execute (id : String)
  | recallLine (id : String)
  | reset (id : String)
deriving Repr, DecidableEq

inductive Endpoint where
  | page (page : Page)
  | task (task : Task)
deriving Repr, DecidableEq

namespace Resource

/-- Whether a path ends as it should; a line break at the very end does not matter. -/
def endsAs (tail : String) (rest : List Char) : Bool :=
  rest == tail.toList || rest == tail.toList ++ ['\n']

def ofMember (rest : List Char) : Option Resource :=
  let id := String.ofList (rest.takeWhile (· != '/'))
  let tail := rest.dropWhile (· != '/')
  if id = "" then none
  else if tail.isEmpty then some (.session id)
  else if endsAs "/execute" tail then some (.execution id)
  else if endsAs "/history" tail then some (.history id)
  else if endsAs "/reset" tail then some (.renewal id)
  else none

def ofPath (path : String) : Option Resource :=
  let letters := path.toList
  if endsAs "/" letters then some .root
  else if endsAs "/health" letters then some .health
  else if endsAs "/targets" letters then some .targets
  else if endsAs "/sessions" letters then some .sessions
  else if "/sessions/".toList.isPrefixOf letters then
    ofMember (letters.drop "/sessions/".length)
  else none

def endpoint? (method : String) : Resource → Option Endpoint
  | .root => if method = "GET" then some (.page .welcome) else none
  | .health => if method = "GET" then some (.page .health) else none
  | .targets => if method = "GET" then some (.page .targets) else none
  | .sessions =>
      if method = "GET" then some (.task .list)
      else if method = "POST" then some (.task .create)
      else none
  | .session id =>
      if method = "GET" then some (.task (.describe id))
      else if method = "DELETE" then some (.task (.delete id))
      else none
  | .execution id => if method = "POST" then some (.task (.execute id)) else none
  | .history id => if method = "GET" then some (.task (.recallLine id)) else none
  | .renewal id => if method = "POST" then some (.task (.reset id)) else none

end Resource

inductive Route where
  | found (endpoint : Endpoint)
  | wrongMethod
  | elsewhere (path : String)
  | nowhere
deriving Repr, DecidableEq

namespace Route

/-- The path with or without a slash at its end, whichever it has not. -/
def otherSpelling (path : String) : String :=
  if path.toList.getLast? = some '/' then Text.dropTrailing '/' path else path ++ "/"

def ofRequest (method path : String) : Route :=
  match Resource.ofPath path with
  | some resource =>
      match resource.endpoint? method with
      | some endpoint => .found endpoint
      | none => .wrongMethod
  | none =>
      if (Resource.ofPath (otherSpelling path)).isSome then .elsewhere (otherSpelling path)
      else .nowhere

end Route

end CyberRange
