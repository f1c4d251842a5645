import NavPolicy.Json.Decode

/-!
# Types of resources

What a network request loads, as the desktop browser reports it.
-/

namespace NavPolicy

/-- What a request loads. -/
inductive ResourceType where
  | mainFrame
  | subFrame
  | stylesheet
  | script
  | image
  | font
  | object
  | xmlHttpRequest
  | ping
  | cspReport
  | media
  | webSocket
  | other
  deriving DecidableEq, Repr

namespace ResourceType

def all : List ResourceType :=
  [mainFrame, subFrame, stylesheet, script, image, font, object, xmlHttpRequest, ping,
    cspReport, media, webSocket, other]

/-- The name by which browsers report a type. -/
def name : ResourceType → String
  | mainFrame => "mainFrame"
  | subFrame => "subFrame"
  | stylesheet => "stylesheet"
  | script => "script"
  | image => "image"
  | font => "font"
  | object => "object"
  | xmlHttpRequest => "xmlhttprequest"
  | ping => "ping"
  | cspReport => "cspReport"
  | media => "media"
  | webSocket => "webSocket"
  | other => "other"

/-- The name of a type in reports to people. -/
def title : ResourceType → String
  | mainFrame => "MainFrame"
  | subFrame => "SubFrame"
  | stylesheet => "Stylesheet"
  | script => "Script"
  | image => "Image"
  | font => "Font"
  | object => "Object"
  | xmlHttpRequest => "XmlHttpRequest"
  | ping => "Ping"
  | cspReport => "CspReport"
  | media => "Media"
  | webSocket => "WebSocket"
  | other => "Other"

/-- Whether a type is a document, at the top or embedded. -/
def isFrame : ResourceType → Bool
  | mainFrame => true
  | subFrame => true
  | _ => false

def choices : List (String × ResourceType) := all.map fun t => (t.name, t)

def ofName (name : String) : Except Json.Mismatch ResourceType := Json.choose choices name

def filtered : List ResourceType :=
  [mainFrame, subFrame, script, image, media, xmlHttpRequest]

end ResourceType

end NavPolicy
