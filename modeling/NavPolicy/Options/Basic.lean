import NavPolicy.Json.Decode
import NavPolicy.Platform
import NavPolicy.Policy.Printer

/-!
# Options

What may be set for the script that enforces a policy in pages, separately for each
platform.  Every option has a default.
-/

namespace NavPolicy

open NavPolicy.Json

/-- What the script does with a click on a link that leads nowhere. -/
inductive Interception where
  /-- Nothing. -/
  | disabled
  /-- Cancel the click and tell the host. -/
  | callback
  /-- Cancel the click, show a notice and tell the host. -/
  | notice
  deriving DecidableEq, Repr

namespace Interception

def name : Interception → String
  | disabled => "disabled"
  | callback => "callback"
  | notice => "notice"

def choices : List (String × Interception) :=
  [("disabled", disabled), ("callback", callback), ("notice", notice)]

/-- The behaviour of a platform for which none is set. -/
def default : Platform → Interception
  | .ios => disabled
  | .android => callback
  | .desktop => notice

end Interception

/-- The options of one platform's script. -/
structure ScriptOptions where
  /-- What is done with clicks, unless the platform's default applies. -/
  anchorInterception : Option Interception := none
  /-- The attribute that marks hidden elements. -/
  markerAttribute : String := "data-navgate-hidden"
  /-- The object by which the host is told of blocked navigations. -/
  bridgeObject : String := "NavGate"
  /-- What messages to the console begin with. -/
  logPrefix : String := "[navgate]"
  /-- The text of the notice. -/
  noticeText : String := "This section is blocked"
  /-- How long the notice is shown, in milliseconds. -/
  noticeDurationMs : UInt64 := 3000
  deriving DecidableEq, Repr

def ScriptOptions.interception (o : ScriptOptions) (p : Platform) : Interception :=
  o.anchorInterception.getD (.default p)

/-- The options of every platform. -/
structure Options where
  ios : ScriptOptions := {}
  android : ScriptOptions := {}
  desktop : ScriptOptions := {}
  deriving DecidableEq, Repr

def Options.of (o : Options) : Platform → ScriptOptions
  | .ios => o.ios
  | .android => o.android
  | .desktop => o.desktop

def ScriptOptions.toDocument (o : ScriptOptions) : Value :=
  .object (optionalMember "anchorInterception" (fun i => .string i.name) o.anchorInterception ++
    [("markerAttribute", .string o.markerAttribute), ("bridgeObject", .string o.bridgeObject),
      ("logPrefix", .string o.logPrefix), ("noticeText", .string o.noticeText),
      ("noticeDurationMs", .ofNat o.noticeDurationMs.toNat)])

def Options.toDocument (o : Options) : Value :=
  .object [("ios", o.ios.toDocument), ("android", o.android.toDocument),
    ("desktop", o.desktop.toDocument)]

def Options.text (o : Options) : String := o.toDocument.compact

end NavPolicy
