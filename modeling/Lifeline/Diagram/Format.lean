import Lifeline.Diagram.PlantUml
import Lifeline.Diagram.Mermaid
import Lifeline.Json.Printer

namespace Lifeline

inductive Format
  | plantUml
  | mermaid
  | json
  deriving DecidableEq, Repr

namespace Format

def all : List Format := [.plantUml, .mermaid, .json]

def word : Format → String
  | .plantUml => "plantuml"
  | .mermaid => "mermaid"
  | .json => "json"

def ofWord? (w : String) : Option Format :=
  all.find? (·.word == w)

def extension : Format → String
  | .plantUml => "puml"
  | .mermaid => "mmd"
  | .json => "json"

def render : Format → Diagram → String
  | .plantUml, d => PlantUml.render d
  | .mermaid, d => Mermaid.render d
  | .json, d => d.toJson.pretty ++ "\n"

end Format

end Lifeline
