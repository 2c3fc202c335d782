import TwigPrinter.Text.Quoted
/-!
Pieces of Twig source before they are joined. Delimiters are put around a piece by `Fragment.wrap`,
which can also leave them out, so that the same piece serves inside and outside of a tag.
-/
namespace TwigPrinter

inductive Delimiters where
  | expression
  | statement
  | quote
  | brace
  deriving DecidableEq, Repr

namespace Delimiters

def left : Delimiters → String
  | .expression => "\x7b\x7b "
  | .statement => "\x7b% "
  | .quote => "\""
  | .brace => "\x7b"

def right : Delimiters → String
  | .expression => " \x7d\x7d"
  | .statement => " %\x7d"
  | .quote => "\""
  | .brace => "\x7d"

end Delimiters

inductive Fragment where
  | text (s : String)
  | seq (parts : List Fragment)
  | wrap (inner : Fragment) (marks : Delimiters) (emit : Bool)
  deriving Repr

namespace Fragment

instance : Coe String Fragment := ⟨.text⟩

mutual

def render : Fragment → String
  | .text s => s
  | .seq parts => renderAll parts
  | .wrap inner marks true => marks.left ++ inner.render ++ marks.right
  | .wrap inner _ false => inner.render

def renderAll : List Fragment → String
  | [] => ""
  | part :: rest => part.render ++ renderAll rest

end

mutual

/-- Whether there is nothing in the fragment, not even marks that are left out. -/
def isEmpty : Fragment → Bool
  | .text s => s.isEmpty
  | .seq parts => allEmpty parts
  | .wrap _ _ _ => false

def allEmpty : List Fragment → Bool
  | [] => true
  | part :: rest => part.isEmpty && allEmpty rest

end

def expression (inner : Fragment) (emit : Bool) : Fragment := .wrap inner .expression emit

def statement (inner : Fragment) : Fragment := .wrap inner .statement true

def quoted (s : String) : Fragment := .wrap (.text (Text.escape s)) .quote true

def joined (sep : String) (parts : List Fragment) : Fragment :=
  .seq (parts.intersperse (.text sep))

/-- The explicit form of a truth test: Nunjucks takes an empty value for false, Twig does not take
every one. The tested fragment stands twice in it. -/
def truthTest (tested : Fragment) (negated : Bool) : Fragment :=
  if negated then .seq ["( ", tested, " == false or ", tested, " is empty )"]
  else .seq ["( ", tested, " == true or ", tested, " is not empty )"]

end Fragment
end TwigPrinter
