import NavPolicy.Json.Record
import NavPolicy.Options.Basic

/-!
# Reading options

Options are read straight from a text; those that it does not set keep their defaults.
The options of one script can also be read from a document.
-/

namespace NavPolicy

open NavPolicy.Json

namespace ScriptOptions

def textFields (fuel : Nat) : List (TextField ScriptOptions) := [
  ⟨"anchorInterception", fun cur o =>
    (cur.optionValue (Cursor.choiceValue fuel Interception.choices)).map fun (x, cur) =>
      ({ o with anchorInterception := x }, cur)⟩,
  ⟨"markerAttribute", fun cur o =>
    (cur.stringValue fuel).map fun (x, cur) => ({ o with markerAttribute := x }, cur)⟩,
  ⟨"bridgeObject", fun cur o =>
    (cur.stringValue fuel).map fun (x, cur) => ({ o with bridgeObject := x }, cur)⟩,
  ⟨"logPrefix", fun cur o =>
    (cur.stringValue fuel).map fun (x, cur) => ({ o with logPrefix := x }, cur)⟩,
  ⟨"noticeText", fun cur o =>
    (cur.stringValue fuel).map fun (x, cur) => ({ o with noticeText := x }, cur)⟩,
  ⟨"noticeDurationMs", fun cur o =>
    (cur.wordValue fuel).map fun (x, cur) => ({ o with noticeDurationMs := x.toUInt64 }, cur)⟩]

def ofCursor (fuel : Nat) (cur : Cursor) : Read ScriptOptions :=
  cur.record fuel "ScriptOptions" (textFields fuel) {}

def decodeWord : Decoder Nat
  | .number (.natural n) => .ok n
  | .number (.negative n) => .error (.wrongValue (.ofNumber (.negative n)) "u64")
  | v => v.wrongType "u64"

def form : RecordForm ScriptOptions where
  name := "ScriptOptions"
  blank := {}
  fields := [
    ⟨"anchorInterception", false, fun v o =>
      (decodeOption (decodeChoice Interception.choices) v).map fun x =>
        { o with anchorInterception := x }⟩,
    ⟨"markerAttribute", false, fun v o =>
      (decodeString v).map fun x => { o with markerAttribute := x }⟩,
    ⟨"bridgeObject", false, fun v o =>
      (decodeString v).map fun x => { o with bridgeObject := x }⟩,
    ⟨"logPrefix", false, fun v o => (decodeString v).map fun x => { o with logPrefix := x }⟩,
    ⟨"noticeText", false, fun v o => (decodeString v).map fun x => { o with noticeText := x }⟩,
    ⟨"noticeDurationMs", false, fun v o =>
      (decodeWord v).map fun x => { o with noticeDurationMs := x.toUInt64 }⟩]

end ScriptOptions

namespace Options

def textFields (fuel : Nat) : List (TextField Options) := [
  ⟨"ios", fun cur o =>
    (ScriptOptions.ofCursor fuel cur).map fun (x, cur) => ({ o with ios := x }, cur)⟩,
  ⟨"android", fun cur o =>
    (ScriptOptions.ofCursor fuel cur).map fun (x, cur) => ({ o with android := x }, cur)⟩,
  ⟨"desktop", fun cur o =>
    (ScriptOptions.ofCursor fuel cur).map fun (x, cur) => ({ o with desktop := x }, cur)⟩]

def ofText (text : String) : Except Error Options :=
  let cs := text.toList
  let fuel := cs.length + 1
  Cursor.finish ((Cursor.ofText cs).record fuel "CompilerOptions" (textFields fuel) {})

end Options

end NavPolicy
