import CyberRange.FileTree.Node

namespace CyberRange.Node

/-! The tree that every new session starts with. -/

def missionNotes : String :=
  "Mission Objective: Infiltrate the target system and retrieve the admin credentials."

def accounts : String :=
  "root:x:0:0:root:/root:/bin/bash\noperator:x:1000:1000:operator:/home/operator:/bin/bash"

def seed (now : Timestamp) : Node :=
  let notes := file now "notes.txt" missionNotes operatorName
  let tools := directory now "tools" [] operatorName
  directory now "/"
    [directory now "home" [directory now "operator" [notes, tools] operatorName] "root",
      directory now "bin" [] "root",
      directory now "etc" [file now "passwd" accounts "root"] "root"]
    "root"

end CyberRange.Node
