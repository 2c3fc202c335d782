import TwigPrinter.Disk.Path
import TwigPrinter.Json.Reader
import TwigPrinter.Template.Decode
import TwigPrinter.Yaml.Document
/-!
Templates from the text of documents. The texts are read by a reader for each format; what a reader
says about a text that it cannot read is passed on as it is.
-/
namespace TwigPrinter

inductive SourceFormat where
  | json
  | yaml
  deriving DecidableEq, Repr

inductive LoadError where
  | json (fault : String)
  | yaml (fault : String)
  | malformed (defect : Malformed)
  | unknownFormat (name : String)
  deriving DecidableEq, Repr

def LoadError.message : LoadError → String
  | .json fault => "Invalid JSON: " ++ fault
  | .yaml fault => "Invalid YAML: " ++ fault
  | .malformed defect => defect.message
  | .unknownFormat name => "Unknown input format '" ++ name ++ "'"

/-- The readers of documents. One that fails says why in its own words. -/
structure Readers where
  json : String → Except String Value
  yaml : String → Except String Value

/-- The readers of this library, with its wordings. -/
def Readers.own : Readers where
  json text := (Json.parse text).mapError Json.Fault.message
  yaml text := (Yaml.parse text).mapError Yaml.Fault.message

namespace SourceFormat

def name : SourceFormat → String
  | .json => "json"
  | .yaml => "yaml"

def label : SourceFormat → String
  | .json => "Json"
  | .yaml => "Yaml"

def ofName? : String → Option SourceFormat
  | "json" => some .json
  | "yaml" | "yml" => some .yaml
  | _ => none

def ofName (name : String) : Except LoadError SourceFormat :=
  match ofName? name with
  | some format => .ok format
  | none => .error (.unknownFormat name)

def ofPath? (path : String) : Option SourceFormat := (Path.extension? path).bind ofName?

def parse (readers : Readers) : SourceFormat → String → Except LoadError Value
  | .json, text => (readers.json text).mapError .json
  | .yaml, text => (readers.yaml text).mapError .yaml

end SourceFormat

def Node.load (readers : Readers) (format : SourceFormat) (text : String) :
    Except LoadError Node := do
  let v ← format.parse readers text
  (Node.decode v).mapError .malformed

end TwigPrinter
