import Lifeline.Settings.Encoding
import Lifeline.Toml.Printer

namespace Lifeline.Settings

def manner : Json.Manner where
  extraItems := true
  behindWord
    | .obj [] => true
    | .arr [] => true
    | _ => false

def ofText (text : String) : Except Fault Settings :=
  match (Toml.parse? text).bind (read? manner) with
  | some s => s.validate
  | none => .error (.settings .unreadable)

def toText (s : Settings) : Except Fault String :=
  match Toml.print? s.toJson with
  | some text => .ok text
  | none => .error (.settings .unwritable)

end Lifeline.Settings
