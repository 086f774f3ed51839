import Lifeline.Settings.Basic
import Lifeline.Source.Encoding

namespace Lifeline

open Json (Manner optionalField)

namespace Layout

def word : Layout → String
  | .merged => "merged"
  | .chains => "chains"

def read? (manner : Manner) (j : Json) : Option Layout := do
  match ← j.wordIn? manner with
  | "merged" => some .merged
  | "chains" => some .chains
  | _ => none

end Layout

namespace UnresolvedPolicy

def word : UnresolvedPolicy → String
  | .elide => "elide"
  | .external => "external"

def read? (manner : Manner) (j : Json) : Option UnresolvedPolicy := do
  match ← j.wordIn? manner with
  | "elide" => some .elide
  | "external" => some .external
  | _ => none

end UnresolvedPolicy

def Format.read? (manner : Manner) (j : Json) : Option Format := do
  ofWord? (← j.wordIn? manner)

namespace EntrySpec

def toJson : EntrySpec → Json
  | .function selector => .obj [("function", .str selector)]
  | .file path => .obj [("translation_unit", path.toJson)]

def ofJson? : Json → Option EntrySpec
  | .obj [("function", j)] => j.str?.map .function
  | .obj [("translation_unit", j)] => (Path.ofJson? j).map .file
  | _ => none

end EntrySpec

namespace FilterRules

def toJson (r : FilterRules) : Json :=
  .obj
    (Json.listField "namespaces" .str r.namespaces ++ Json.listField "paths" Path.toJson r.paths ++
    Json.listField "elements" .str r.elements)

def read? (manner : Manner) (j : Json) : Option FilterRules := do
  let r ← j.recordIn? manner ["namespaces", "paths", "elements"]
  return {
    namespaces := ← r.defaulted "namespaces" (Json.list? Json.str?) []
    paths := ← r.defaulted "paths" (Json.list? Path.ofJson?) []
    elements := ← r.defaulted "elements" (Json.list? Json.str?) [] }

def field (name : String) (r : FilterRules) : List (String × Json) :=
  if r.isEmpty then [] else [(name, r.toJson)]

end FilterRules

namespace DiagramSettings

def toJson (s : DiagramSettings) : Json :=
  .obj ([("mode", .str s.layout.word)] ++ optionalField "to" .str s.target ++
    [("generate_return_messages", .bool s.returnMessages),
      ("generate_condition_text", .bool s.conditionText),
      ("generate_message_comments", .bool s.comments),
      ("combine_free_functions_into_file_participants", .bool s.mergeFiles),
      ("inline_lambda_messages", .bool s.inlineLambdas),
      ("unresolved_calls", .str s.unresolved.word)] ++
    optionalField "max_depth" (fun n => .num n.toNat) s.maxDepth ++
    [("start_from", .arr (s.startFrom.map EntrySpec.toJson))] ++
    s.included.field "include" ++ s.excluded.field "exclude")

def read? (manner : Manner) (j : Json) : Option DiagramSettings := do
  let r ← j.recordIn? manner ["mode", "to", "generate_return_messages", "generate_condition_text",
    "generate_message_comments", "combine_free_functions_into_file_participants",
    "inline_lambda_messages", "unresolved_calls", "max_depth", "start_from", "include", "exclude"]
  return {
    layout := ← r.defaulted "mode" (Layout.read? manner) .merged
    target := ← r.optional "to" Json.str?
    returnMessages := ← r.defaulted "generate_return_messages" Json.bool? false
    conditionText := ← r.defaulted "generate_condition_text" Json.bool? true
    comments := ← r.defaulted "generate_message_comments" Json.bool? false
    mergeFiles := ← r.defaulted "combine_free_functions_into_file_participants" Json.bool? false
    inlineLambdas := ← r.defaulted "inline_lambda_messages" Json.bool? false
    unresolved := ← r.defaulted "unresolved_calls" (UnresolvedPolicy.read? manner) .elide
    maxDepth := ← r.optional "max_depth" Json.word64?
    startFrom := ← r.defaulted "start_from" (Json.list? EntrySpec.ofJson?) []
    included := ← r.defaulted "include" (FilterRules.read? manner) {}
    excluded := ← r.defaulted "exclude" (FilterRules.read? manner) {} }

end DiagramSettings

namespace ProjectSettings

def toJson (s : ProjectSettings) : Json :=
  .obj ([("name", .str s.name), ("ast_paths", .arr (s.dumps.map Path.toJson)),
    ("output_dir", s.outputDir.toJson)] ++ optionalField "root" Path.toJson s.root)

def read? (manner : Manner) (j : Json) : Option ProjectSettings := do
  let r ← j.recordIn? manner ["name", "ast_paths", "output_dir", "root"]
  return {
    name := ← r.required "name" Json.str?
    dumps := ← r.defaulted "ast_paths" (Json.list? Path.ofJson?) []
    outputDir := ← r.required "output_dir" Path.ofJson?
    root := ← r.optional "root" Path.ofJson? }

end ProjectSettings

namespace Settings

def formatsToJson (formats : List Format) : Json :=
  .obj [("formats", .arr (formats.map fun f => .str f.word))]

def readFormats? (manner : Manner) (j : Json) : Option (List Format) := do
  let r ← j.recordIn? manner ["formats"]
  r.required "formats" (Json.list? (Format.read? manner))

def diagramsToJson (diagrams : List (String × DiagramSettings)) : Json :=
  .obj (diagrams.map fun (name, d) => (name, d.toJson))

def readDiagrams? (manner : Manner) : Json → Option (List (String × DiagramSettings))
  | .obj fields => do
    let diagrams ← fields.mapM fun (name, j) => do return (name, ← DiagramSettings.read? manner j)
    return diagrams.foldl (fun all (name, d) => insertDiagram name d all) []
  | _ => none

def toJson (s : Settings) : Json :=
  .obj [("project", s.project.toJson), ("output", formatsToJson s.formats),
    ("diagrams", diagramsToJson s.diagrams)]

def read? (manner : Manner) (j : Json) : Option Settings := do
  let r ← j.recordIn? manner ["project", "output", "diagrams"]
  return {
    project := ← r.required "project" (ProjectSettings.read? manner)
    formats := ← r.required "output" (readFormats? manner)
    diagrams := ← r.defaulted "diagrams" (readDiagrams? manner) [] }

end Settings

end Lifeline
