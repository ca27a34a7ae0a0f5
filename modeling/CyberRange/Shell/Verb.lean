import CyberRange.Entries

namespace CyberRange

/-! The first word of a command line. -/

/-- The commands known at the prompt.  Clearing the screen is not among them: it
concerns the terminal and leaves files and network alone. -/
inductive Verb where
  | help
  | ls
  | cd
  | pwd
  | cat
  | touch
  | whoami
  | nmap
  | curl
  | sqlmap
deriving Repr, DecidableEq

namespace Verb

def name : Verb → String
  | .help => "help"
  | .ls => "ls"
  | .cd => "cd"
  | .pwd => "pwd"
  | .cat => "cat"
  | .touch => "touch"
  | .whoami => "whoami"
  | .nmap => "nmap"
  | .curl => "curl"
  | .sqlmap => "sqlmap"

def all : List Verb :=
  [.help, .ls, .cd, .pwd, .cat, .touch, .whoami, .nmap, .curl, .sqlmap]

def ofName? (word : String) : Option Verb :=
  all.find? fun verb => verb.name == word

theorem ofName?_name (verb : Verb) : ofName? verb.name = some verb := by
  cases verb <;> rfl

end Verb

end CyberRange
