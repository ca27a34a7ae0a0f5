import CyberRange.FileTree.Node
import CyberRange.Network.Lookup

namespace CyberRange.Report

/-! The texts that commands print. -/

def directoryColor : String := "\x1b[34m"

def fileColor : String := "\x1b[37m"

def plainColor : String := "\x1b[0m"

def listingLine (node : Node) : String :=
  String.intercalate " "
    [node.permissions, node.owner, node.group, Text.padLeft 6 (toString node.size),
      node.modified.timeOfDay,
      (if node.isDirectory then directoryColor else fileColor) ++ node.name ++ plainColor]

/-- One line for each node, ordered by name. -/
def listing (nodes : List Node) : String :=
  String.intercalate "\n" ((Text.sortBy Node.name nodes).map listingLine)

/-- The number of ports that a scan tries. -/
def scannedPorts : Int := 1000

def hostDown : String :=
  "Note: Host seems down. If it is really up, but blocking our ping probes, try -Pn\n" ++
    "Nmap done: 1 IP address (0 hosts up) scanned in 3.02 seconds"

def portHeader : String := "PORT     STATE SERVICE"

def portLine (info : PortInfo) : String :=
  Text.padRight 8 (toString info.port ++ "/tcp") ++ " " ++ Text.padRight 5 info.state ++ " " ++
    info.service

def scan (time : Timestamp) (query ip : String) (ports : List PortInfo) : String :=
  String.intercalate "\n" <|
    ["Starting Nmap 7.92 ( https://nmap.org ) at " ++ time.minuteStamp,
      "Nmap scan report for " ++ query ++ " (" ++ ip ++ ")",
      "Host is up (0.0024s latency).",
      "Not shown: " ++ toString (scannedPorts - ports.length) ++ " closed tcp ports (reset)",
      portHeader] ++
    ports.map portLine ++
    ["", "Nmap done: 1 IP address (1 host up) scanned in 1.45 seconds"]

/-- The status line and the headers of a response. -/
def headerLines (response : NetworkResponse) : List String :=
  ("HTTP/1.1 " ++ toString response.status ++ " " ++ response.statusText) ::
    response.headers.map fun (name, value) => name ++ ": " ++ value

def download (withHeaders : Bool) (response : NetworkResponse) : String :=
  if withHeaders then
    String.intercalate "\n" (headerLines response) ++ "\n\n" ++ response.data
  else response.data

def injectionBanner : String :=
  "        ___
       __H__
 ___ ___[']_____ ___ ___  \x7b1.5.11#stable\x7d
|_ -| . [\"]     | .'| . |
|___|_  [\"]_|_|_|__,|  _|
      |_|V...       |_|   http://sqlmap.org"

def injectionFindings : List String :=
  ["[INFO] testing connection to the target URL",
    "[INFO] checking if the target is protected by some WAF/IPS",
    "[INFO] testing if the target URL content is stable",
    "[INFO] target URL content is stable",
    "[INFO] testing if GET parameter 'id' is dynamic",
    "[INFO] GET parameter 'id' appears to be dynamic",
    "[INFO] heuristic (basic) test shows that GET parameter 'id' might be injectable (possible DBMS: 'MySQL')",
    "[INFO] testing for SQL injection on GET parameter 'id'",
    "[INFO] testing 'AND boolean-based blind - WHERE or HAVING clause'",
    "[INFO] GET parameter 'id' appears to be 'AND boolean-based blind - WHERE or HAVING clause' injectable",
    "[INFO] testing 'MySQL >= 5.0 AND error-based - WHERE, HAVING, ORDER BY or GROUP BY clause (FLOOR)'",
    "[INFO] testing 'MySQL >= 5.0 time-based blind - Parameter replace'",
    "[INFO] GET parameter 'id' is 'MySQL >= 5.0 time-based blind - Parameter replace' injectable"]

/-- The record of an injection test; only its two times are not canned. -/
def injection (started ended : Timestamp) : String :=
  String.intercalate "\n" <|
    [injectionBanner, "", "[*] starting at " ++ started.timeOfDay, ""] ++ injectionFindings ++
      ["", "[*] ending @ " ++ ended.timeOfDay]

def help : String :=
  "Available Commands:
  System:
    ls [path]       List directory contents
    cd <path>       Change directory
    pwd             Print working directory
    cat <file>      Read file content
    touch <file>    Create empty file
    clear           Clear terminal screen
    whoami          Display current user

  Network & Recon:
    nmap <target>   Network exploration and port scanner
    curl <url>      Transfer data from URL

  Exploitation:
    sqlmap -u <url> Automate SQL injection detection and exploitation"

end CyberRange.Report
