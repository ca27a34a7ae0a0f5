import CyberRange.Http.Utf8
import CyberRange.Json.Parser
import CyberRange.Text.Quoted
import CyberRange.Text.Blank

namespace CyberRange

/-! Uniform resource locators.

A path or query is kept as it goes over the line, percent-encoded; `path` and
`queryItems` give what it stands for.  A reference is joined to a base by
appending it, never by replacing the base's path.
-/

/-- A locator: scheme and authority, and the encoded path and query. -/
structure Url where
  origin : String
  rawPath : String
  rawQuery : Option String
deriving Repr, DecidableEq

namespace Url

/-- Percent signs and two digits for a byte. -/
def escape (byte : UInt8) : List Char :=
  '%' :: (Text.hexDigits 2 byte.toNat).map Char.toUpper

/-- Escapes every character that is not `kept`. -/
def encodeWhere (kept : Char → Bool) (letters : List Char) : List Char :=
  letters.flatMap fun c => if kept c then [c] else (String.utf8EncodeChar c).flatMap escape

def escaped? : List Char → Option (UInt8 × List Char)
  | '%' :: high :: low :: rest =>
      match Json.hexValue? high, Json.hexValue? low with
      | some high, some low => some (UInt8.ofNat (high * 16 + low), rest)
      | _, _ => none
  | _ => none

/-- The bytes of an encoded text; a percent sign that starts no escape stands for
itself.  Every step takes a character, so as much fuel as there is text suffices. -/
def bytesWith : Nat → List Char → List UInt8
  | 0, _ => []
  | _ + 1, [] => []
  | fuel + 1, c :: rest =>
      match escaped? (c :: rest) with
      | some (byte, more) => byte :: bytesWith fuel more
      | none => String.utf8EncodeChar c ++ bytesWith fuel rest

def bytes (letters : List Char) : List UInt8 :=
  bytesWith letters.length letters

def decode (letters : List Char) : List Char :=
  Utf8.decode (bytes letters)

def isUnreserved (c : Char) : Bool :=
  c.isAlphanum || c == '-' || c == '.' || c == '_' || c == '~'

/-- Printable ASCII, the space apart. -/
def isGraphic (c : Char) : Bool :=
  0x21 ≤ c.toNat && c.toNat ≤ 0x7E

/-- What may stand in a query.  A percent sign may: it starts an escape. -/
def keptInQuery (c : Char) : Bool :=
  isGraphic c && c != '\x22' && c != '#' && c != '<' && c != '>'

def keptInPath (c : Char) : Bool :=
  keptInQuery c && c != '?' && c != '\x60' && c != '\x7b' && c != '\x7d'

/-- What may stand in a redirection's target. -/
def keptInLocation (c : Char) : Bool :=
  isUnreserved c || ":/%#?=@[]!$&'()*+,;".toList.contains c

/-- One segment of a path applied to the segments before it. -/
def follow (before : List (List Char)) (segment : List Char) : List (List Char) :=
  if segment = ['.'] then before
  else if segment = ['.', '.'] then
    if before = [] ∨ before = [[]] then before else before.dropLast
  else before ++ [segment]

/-- A path without the segments `.` and `..`. -/
def removeDots (path : List Char) : List Char :=
  let segments := Text.pieces (· == '/') path
  if segments.contains ['.'] || segments.contains ['.', '.'] then
    [ '/' ].intercalate (segments.foldl follow [])
  else path

structure Parts where
  scheme : List Char
  authority : List Char
  path : List Char
  query : Option (List Char)
deriving Repr, DecidableEq

def isSchemeChar (c : Char) : Bool :=
  c.isAlphanum || c == '+' || c == '.' || c == '-'

def cutScheme (letters : List Char) : List Char × List Char :=
  match Text.cutFirst ':' letters with
  | (scheme, some rest) =>
      if scheme.all isSchemeChar && (scheme.head?.all Char.isAlpha) then (scheme, rest)
      else ([], letters)
  | (_, none) => ([], letters)

def cutAuthority (letters : List Char) : List Char × List Char :=
  match letters with
  | '/' :: '/' :: rest =>
      let ends := fun c => c == '/' || c == '?' || c == '#'
      (rest.takeWhile fun c => !ends c, rest.dropWhile fun c => !ends c)
  | _ => ([], letters)

/-- Cuts a reference into its components; the fragment is left away. -/
def Parts.ofReference (reference : String) : Parts :=
  let (scheme, rest) := cutScheme (reference.toList.takeWhile (· != '#'))
  let (authority, rest) := cutAuthority rest
  let (path, query) := Text.cutFirst '?' rest
  { scheme, authority, path, query }

def Parts.isAbsolute (parts : Parts) : Bool :=
  !parts.scheme.isEmpty && !parts.authority.isEmpty

def assemble (origin : String) (path : List Char) (query : Option (List Char)) : Url :=
  { origin,
    rawPath := String.ofList (encodeWhere keptInPath (removeDots path)),
    rawQuery := query.map fun letters => String.ofList (encodeWhere keptInQuery letters) }

def Parts.locate (parts : Parts) : Url :=
  let origin := (if parts.scheme.isEmpty then [] else parts.scheme ++ [':']) ++
    (if parts.authority.isEmpty then [] else '/' :: '/' :: parts.authority)
  assemble (String.ofList origin) parts.path parts.query

def target (url : Url) : List Char :=
  (if url.rawPath = "" then ['/'] else url.rawPath.toList) ++
    match url.rawQuery with
    | none => []
    | some query => '?' :: query.toList

/-- A base that references are appended to ends in a slash. -/
def ofBase (base : String) : Url :=
  let url := (Parts.ofReference base).locate
  if url.target.getLast? = some '/' then url
  else
    let (path, query) := Text.cutFirst '?' (url.target ++ ['/'])
    assemble url.origin path query

/-- The target of a reference without scheme and authority, in front of nothing. -/
def Parts.relativeTarget (parts : Parts) : List Char :=
  let path := encodeWhere keptInPath
    (if parts.scheme.isEmpty && parts.authority.isEmpty then parts.path
      else removeDots parts.path)
  (if path.isEmpty then ['/'] else path) ++
    match parts.query with
    | none => []
    | some query => '?' :: encodeWhere keptInQuery query

/-- A reference appended to a base, unless it is absolute. -/
def join (base : Url) (reference : String) : Url :=
  let parts := Parts.ofReference reference
  if parts.isAbsolute then parts.locate
  else
    let (path, query) :=
      Text.cutFirst '?' (base.target ++ parts.relativeTarget.dropWhile (· == '/'))
    assemble base.origin path query

inductive Fault where
  | tooLong
  | controlCharacter (c : Char) (position : Nat)
deriving Repr, DecidableEq

def Fault.message : Fault → String
  | .tooLong => "URL too long"
  | .controlCharacter c position =>
      "Invalid non-printable ASCII character in URL, " ++ Text.quoted (String.singleton c) ++
        " at position " ++ toString position ++ "."

def lengthLimit : Nat := 65536

def isControl (c : Char) : Bool :=
  c.toNat < 0x20 || c.toNat = 0x7F

def fault? (reference : String) : Option Fault :=
  if lengthLimit < reference.length then some .tooLong
  else
    (reference.toList.find? isControl).map fun c =>
      .controlCharacter c (reference.toList.takeWhile fun other => !isControl other).length

def path (url : Url) : String :=
  if url.rawPath = "" then "/" else String.ofList (decode url.rawPath.toList)

/-- A text of a form: a plus stands for a space. -/
def formDecode (letters : List Char) : String :=
  String.ofList (decode (letters.map fun c => if c == '+' then ' ' else c))

def formEncode (text : String) : List Char :=
  text.toList.flatMap fun c => if c == ' ' then ['+'] else encodeWhere isUnreserved [c]

/-- A name and a value in front of and behind the first equals sign. -/
def readItem (item : List Char) : String × String :=
  let (name, value) := Text.cutFirst '=' item
  (formDecode name, formDecode (value.getD []))

def readItems (query : List Char) : List (String × String) :=
  (Text.filledPieces (· == '&') query).map readItem

def writeItems (items : List (String × String)) : List Char :=
  [ '&' ].intercalate (items.map fun (name, value) => formEncode name ++ '=' :: formEncode value)

def queryItems (url : Url) : List (String × String) :=
  match url.rawQuery with
  | none => []
  | some query => readItems query.toList

def withItems (items : Option (List (String × String))) (url : Url) : Url :=
  { url with rawQuery := items.map fun found => String.ofList (writeItems found) }

end Url

end CyberRange
