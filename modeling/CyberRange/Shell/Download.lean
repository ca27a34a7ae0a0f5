import CyberRange.Shell.Result
import CyberRange.Shell.Report

namespace CyberRange

/-! Fetching a page: reading the arguments, and the result once the answer is
there. -/

/-- A page to be fetched, and whether the head of the answer is wanted. -/
structure Download where
  url : String
  withHeaders : Bool
deriving Repr, DecidableEq

namespace Download

inductive Argument where
  | showHeaders
  | silent
  | unknown
  | url
deriving Repr, DecidableEq

def classify (word : String) : Argument :=
  if word = "-i" || word = "--include" then .showHeaders
  else if word = "-s" || word = "--silent" then .silent
  else if Text.startsWith word "-" then .unknown
  else .url

/-- Whether the head is wanted, and the pages, or the first unknown option. -/
def readArguments : List String → Except String (Bool × List String)
  | [] => .ok (false, [])
  | word :: rest =>
      match classify word with
      | .unknown => .error word
      | .showHeaders => (readArguments rest).map fun found => (true, found.2)
      | .silent => readArguments rest
      | .url => (readArguments rest).map fun found => (found.1, word :: found.2)

def hint : String := "curl: try 'curl --help' for more information"

inductive Refusal where
  | unknownOption (word : String)
  | noUrl
  | manyUrls
deriving Repr, DecidableEq

def Refusal.message : Refusal → String
  | .unknownOption word => "curl: option " ++ word ++ ": is unknown\n" ++ hint
  | .noUrl => hint
  | .manyUrls => "curl: only one URL is supported"

def ofArguments (words : List String) : Except Refusal Download :=
  match readArguments words with
  | .error word => .error (.unknownOption word)
  | .ok (_, []) => .error .noUrl
  | .ok (withHeaders, [url]) => .ok { url, withHeaders }
  | .ok (_, _ :: _ :: _) => .error .manyUrls

def finish (hosts : Hosts) (download : Download) : CommandResult :=
  let response := hosts.answer download.url
  let output := Report.download download.withHeaders response
  if response.resolved then .success output else .error output

end Download

end CyberRange
