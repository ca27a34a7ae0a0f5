import CyberRange.Http.Url

namespace CyberRange.Http

/-! Requests and responses. -/

inductive Content where
  | empty
  | document (value : Json)
  | malformed (defect : Json.Malformed) (text : String)
  | text (text : String)

namespace Content

def ofText (text : String) : Content :=
  if text = "" then .empty
  else
    match Json.parse text with
    | .ok value => .document value
    | .error defect => .malformed defect text

/-- Whether a media type is that of documents; parameters do not matter. -/
def isDocumentType (mediaType : String) : Bool :=
  let bare := Text.trimWhere Text.isBlank (mediaType.toList.takeWhile (· != ';'))
  match Text.pieces (· == '/') (bare.map Char.toLower) with
  | [family, member] =>
      family == "application".toList &&
        (member == "json".toList || "+json".toList.isSuffixOf member)
  | _ => false

def ofTyped (mediaType : Option String) (text : String) : Content :=
  if text = "" then .empty
  else if mediaType.any isDocumentType then ofText text
  else .text text

end Content

structure Request where
  method : String
  url : Url
  content : Content

/-- A request; methods have upper-case names however they are given. -/
def Request.create (method : String) (url : Url) (content : Content) : Request :=
  { method := method.toUpper, url, content }

structure Response where
  status : Int
  content : Content
  location : Option String

def Response.document (status : Int) (value : Json) : Response :=
  { status, content := .document value, location := none }

def Response.isSuccess (response : Response) : Bool :=
  200 ≤ response.status && response.status ≤ 299

end CyberRange.Http
