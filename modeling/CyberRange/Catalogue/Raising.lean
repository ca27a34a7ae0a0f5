import CyberRange.Catalogue.Errors
import CyberRange.Json.Display
import CyberRange.Shell.Clock

namespace CyberRange.Fault

/-! What is raised by naming a kind of failure and giving it arguments. -/

/-- Kinds that are about the operating system and start with a number. -/
def isOfSystem (kind : String) : Bool :=
  ["OSError", "IOError", "EnvironmentError"].contains kind

/-- One argument is the text, several are shown as a tuple; a missing key is quoted. -/
def textOf (kind : String) (arguments : List Json) : String :=
  match arguments with
  | [] => ""
  | [single] => if kind = "KeyError" then single.shown else single.display
  | [first, second] =>
      if isOfSystem kind then "[Errno " ++ first.display ++ "] " ++ second.display
      else Json.displayTuple [first, second]
  | several => Json.displayTuple several

/-- A kind for the user has parameters, and its message is kept as it is given; if the
arguments do not fit, that is what is raised. -/
def ofArguments (kind : String) (arguments : List Json) : Fault :=
  match ErrorForm.find? .engine kind with
  | none => .other kind (.ok (textOf kind arguments))
  | some form =>
      match Parameter.bind form.parameters arguments [] with
      | .ok values => .forUser (.ok (ErrorForm.valueOf "message" values))
      | .error fault => .other "TypeError" (.ok (form.complaint fault))

end CyberRange.Fault
