import TwigPrinter.Format.Outline
import TwigPrinter.Log
import TwigPrinter.Twig.Print
/-!
Output formats by name. The formats are kept in the order of their names, each name once; a format
replaces one that has the same name.
-/
namespace TwigPrinter

inductive FormatError where
  | notFound (name : String)
  | print (error : PrintError)
  deriving DecidableEq, Repr

def FormatError.message : FormatError → String
  | .notFound name => "Format '" ++ name ++ "' not found"
  | .print error => "Transform error: " ++ error.message

structure Formatter where
  name : String
  description : String := ""
  serialize : Node → Logged FormatError String

namespace Formatter

def twig (o : Options) : Formatter where
  name := "twig"
  description := "Twig template source"
  serialize root :=
    let printed := root.toTwig o
    ⟨printed.events.map (·.record root.kind), printed.result.mapError .print⟩

def treeviz : Formatter where
  name := "treeviz"
  description := "Tree dump of the parsed template"
  serialize root := .pure root.outline

end Formatter

structure Registry where
  formatters : List Formatter := []

namespace Registry

def empty : Registry := {}

def insert (f : Formatter) : List Formatter → List Formatter
  | [] => [f]
  | g :: rest =>
    if f.name < g.name then f :: g :: rest
    else if f.name = g.name then f :: rest
    else g :: insert f rest

def register (r : Registry) (f : Formatter) : Registry := ⟨insert f r.formatters⟩

def get? (r : Registry) (name : String) : Option Formatter :=
  r.formatters.find? (·.name = name)

def has (r : Registry) (name : String) : Bool := r.formatters.any (·.name = name)

def names (r : Registry) : List String := r.formatters.map (·.name)

def serialize (r : Registry) (root : Node) (format : String) : Logged FormatError String :=
  match r.get? format with
  | some f => f.serialize root
  | none => .fail (.notFound format)

def withOptions (o : Options) : Registry := (empty.register (.twig o)).register .treeviz

end Registry
end TwigPrinter
