import TwigPrinter.Template.Node
import TwigPrinter.Twig.Fragment
import TwigPrinter.Twig.Options
import TwigPrinter.Twig.Trace
/-!
Twig source of a template. `Node.print` goes through the tree once, in document order, and tells for
every node whether it stands outside of a tag (`wrap`), where an expression needs a tag of its own.

A node that printing comes to and that Twig source cannot be given for ends the whole printing. The
body of an assignment that has a value too is passed over without being looked at.
-/
namespace TwigPrinter
namespace Node

def filterName? : Node → Option String
  | .symbol name => some name
  | .literal (.string name) => some name
  | _ => none

def keyText? : Node → Option String
  | .symbol name => some name
  | .literal value => some value.text
  | _ => none

def selfConditional? (test body : Node) (alternative : Option Node) : Option String :=
  match test, body, alternative with
  | .symbol x, .symbol y, none => if x = y then some x else none
  | _, _, _ => none

/-- Whether the target of a negation is tested as it stands, without brackets around it. -/
def standsAlone : Node → Bool
  | .seq .group _ => true
  | n => n.isBareVariable || n.isLiteral

/-- Whether the printed form never has a tag of its own, so that an output adds it. -/
def needsOutputTag : Node → Bool
  | .literal _ | .call _ _ | .seq .dict _ => true
  | _ => false

def outputItem (child : Node) (printed : Fragment) : Fragment :=
  if child.needsOutputTag then .expression printed true else printed

end Node

def Options.collapsed? (o : Options) (test body : Node) (alternative : Option Node) :
    Option String :=
  if o.collapseSelfConditional then Node.selfConditional? test body alternative else none

/-- The Twig operator for a comparison operator: Twig has no strict comparison. -/
def comparisonOp : String → String
  | "===" => "=="
  | "!==" => "!="
  | op => op

namespace Fragment

def ofScalar : Scalar → Fragment
  | .string s => .quoted s
  | other => .text other.text

def coerce (source : Node) (printed : Fragment) : Fragment :=
  if source.isBareVariable then printed.truthTest false else printed

/-- The truth test of a negation, with brackets around a target that could be torn apart by it. -/
def negation (target : Node) (printed : Fragment) : Fragment :=
  if target.standsAlone then printed.truthTest true
  else (Fragment.seq ["(", printed, ")"]).truthTest true

def ifBlock (test body : Fragment) : Option Fragment → Fragment
  | some other =>
    .seq [.statement (.seq ["if ", test]), body, .statement "else", other, .statement "endif"]
  | none => .seq [.statement (.seq ["if ", test]), body, .statement "endif"]

def choice (test body : Fragment) (other : Option Fragment) : Fragment :=
  .seq [test, " ? ", body, " : ", other.getD "\"\""]

def forBlock (target items body : Fragment) : Fragment :=
  .seq [.statement (.seq ["for ", target, " in ", items]), body, .statement "endfor"]

def filterCall (name : String) (args : List String) : Fragment :=
  match args.tail with
  | [] => .text (args.headD "" ++ " | " ++ name)
  | rest => .text (args.headD "" ++ " | " ++ name ++ "(" ++ ",".intercalate rest ++ ")")

def inclusion (target : Fragment) (ignoreMissing : Bool) : Fragment :=
  if ignoreMissing then .statement (.seq ["include ", target, " ignore missing"])
  else .statement (.seq ["include ", target])

def assignment (names value : Fragment) : Fragment :=
  .statement (.seq ["set ", names, " = ", value])

def assignmentBlock (names body : Fragment) : Fragment :=
  .seq [.statement (.seq ["set ", names]), body, .statement "endset"]

end Fragment

def Traced.coerce (source : Node) (printed : Fragment) : Traced Fragment := do
  noteIf source.isBareVariable (.truthTest source.kind)
  pure (printed.coerce source)

def Traced.includePath (o : Options) (path : String) : Traced Fragment := do
  noteIf (o.includePath path != path) (.strip path)
  pure (.quoted (o.includePath path))

mutual

def Node.print (o : Options) (n : Node) (wrap : Bool) : Traced Fragment :=
  Traced.after (.visit n.kind wrap) <| match n with
  | .seq .root children => do
    let parts ← printAll o (fun _ => false) children
    pure (.seq parts)
  | .seq .list children => do
    let parts ← printAll o Node.isLiteral children
    pure (.seq parts)
  | .seq .output children => do
    let parts ← printAll o (fun _ => true) children
    pure (.seq (List.zipWith Node.outputItem children parts))
  | .seq .group children => do
    let parts ← printAll o (fun _ => false) children
    pure (.expression (.seq ["(", .seq parts, ")"]) wrap)
  | .seq .dict children => do
    let parts ← printAll o (fun _ => false) children
    pure (.wrap (.joined ", " parts) .brace true)
  | .data text => pure (.text text)
  | .symbol name => pure (.expression (.text name) wrap)
  | .literal value => pure (.ofScalar value)
  | .lookup target key => do
    let base ← target.print o false
    let index ← key.print o key.isLiteral
    pure (.expression (.seq [base, "[", index, "]"]) wrap)
  | .binary op left right => do
    let l ← left.print o left.isLiteral
    let r ← right.print o right.isLiteral
    if op.isLogical then do
      let l ← Traced.coerce left l
      let r ← Traced.coerce right r
      pure (.expression (.seq [l, op.token, r]) wrap)
    else
      pure (.expression (.seq [l, op.token, r]) wrap)
  | .negation target => do
    let inner ← target.print o false
    pure (.expression (.negation target inner) wrap)
  | .comparison first rest => do
    let head ← first.print o first.isLiteral
    let tail ← printAll o (fun _ => false) rest
    pure (.expression (.seq (head :: tail)) wrap)
  | .comparand operand op => do
    let right ← operand.print o operand.isLiteral
    pure (.seq [" ", comparisonOp op, " ", right])
  | .ifBlock test body alternative => do
    let test ← test.print o false
    let body ← body.print o true
    let other ← printOption o true alternative
    pure (.ifBlock test body other)
  | .inlineIf test body alternative =>
    match o.collapsed? test body alternative with
    | some name => do
      Traced.note (.collapse name)
      body.print o wrap
    | none => do
      let tested ← test.print o false
      let tested ← Traced.coerce test tested
      let chosen ← body.print o false
      let other ← printOption o false alternative
      pure (.expression (.choice tested chosen other) wrap)
  | .forLoop target items body alternative =>
    match alternative with
    | some _ => do
      Traced.note .loopAlternative
      Traced.fail (.construct Kind.forLoop.name "else_ is not handled")
    | none => do
      let target ← target.print o false
      let items ← items.print o false
      let body ← body.print o true
      pure (.forBlock target items body)
  | .filter name args =>
    match name.filterName? with
    | none => Traced.fail (.unhandled name.kind.name)
    | some old => do
      Traced.noteIf (o.filterName old != old) (.rename old (o.filterName old))
      let args ← (match args with
        | .seq .list entries => renderOperands o entries
        | single => do
          let printed ← single.print o single.isLiteral
          pure [printed.render])
      pure (.expression (.filterCall (o.filterName old) args) wrap)
  | .call name args => do
    let name ← name.print o false
    let args ← (match args with
      | .seq .list entries => renderOperands o entries
      | single => do
        let printed ← single.print o single.isLiteral
        pure [printed.render])
    pure (.seq [name, "(", .text (", ".intercalate args), ")"])
  | .inclusion template ignoreMissing => do
    let target ← (match template with
      | .literal (.string path) => Traced.includePath o path
      | _ => template.print o false)
    pure (.inclusion target ignoreMissing)
  | .assignment targets value body => do
    let names ← printAll o (fun _ => false) targets
    match value, body with
    | some value, _ => do
      let value ← value.print o false
      pure (.assignment (.joined ", " names) value)
    | none, some body => do
      let body ← body.print o true
      pure (.assignmentBlock (.joined ", " names) body)
    | none, none =>
      Traced.fail (.construct Kind.assignment.name "neither value nor body is present")
  | .capture body => body.print o true
  | .pair key value =>
    match key.keyText? with
    | none => Traced.fail (.unhandled key.kind.name)
    | some text => do
      let printed ← value.print o false
      pure (.seq [.quoted text, ": ", printed])
  | .other name => do
    Traced.note (.noRule name)
    Traced.fail (.unhandled name)

def printAll (o : Options) (wrap : Node → Bool) : List Node → Traced (List Fragment)
  | [] => pure []
  | n :: rest => do
    let part ← n.print o (wrap n)
    let parts ← printAll o wrap rest
    pure (part :: parts)

def printOption (o : Options) (wrap : Bool) : Option Node → Traced (Option Fragment)
  | none => pure none
  | some n => do
    let part ← n.print o wrap
    pure (some part)

def renderOperands (o : Options) : List Node → Traced (List String)
  | [] => pure []
  | n :: rest => do
    let part ← n.print o n.isLiteral
    let parts ← renderOperands o rest
    pure (part.render :: parts)

end

namespace Node

def toFragment (o : Options) (root : Node) : Traced Fragment := root.print o false

def toTwig (o : Options) (root : Node) : Traced String := do
  let printed ← root.toFragment o
  Traced.note (.finish printed.render.utf8ByteSize)
  pure printed.render

end Node
end TwigPrinter
