/-!
A place in a YAML text, and the classes of characters that the text is made of.
-/
namespace TwigPrinter.Yaml

inductive Fault where
  | forbiddenCharacter
  | badDirective
  | badAnchor
  | badTag
  | badBlockHeader
  | tabInIndentation
  | badEscape
  | unclosedString
  | unexpectedColon
  | strayCharacter
  | entryNotAllowed
  | keyNotAllowed
  | valueNotAllowed
  | missingColon
  | unexpectedToken
  | undefinedTagHandle
  | undefinedAnchor
  | moreThanOneDocument
  | badScalar
  | localTag
  | badKey
  | tooDeep
  | tooManyAliases
  deriving DecidableEq, Repr

/-- The wording is this library's own: other readers of YAML say it in other words. -/
def Fault.message : Fault → String
  | .forbiddenCharacter => "control characters are not allowed"
  | .badDirective => "invalid directive"
  | .badAnchor => "invalid anchor"
  | .badTag => "invalid tag"
  | .badBlockHeader => "invalid block scalar header"
  | .tabInIndentation => "tab character where an indentation space is expected"
  | .badEscape => "invalid escape in a double-quoted string"
  | .unclosedString => "unclosed quoted string"
  | .unexpectedColon => "unexpected colon in a plain scalar"
  | .strayCharacter => "character that cannot start any token"
  | .entryNotAllowed => "block sequence entries are not allowed in this context"
  | .keyNotAllowed => "mapping keys are not allowed in this context"
  | .valueNotAllowed => "mapping values are not allowed in this context"
  | .missingColon => "could not find expected colon"
  | .unexpectedToken => "unexpected token"
  | .undefinedTagHandle => "undefined tag handle"
  | .undefinedAnchor => "undefined anchor"
  | .moreThanOneDocument => "more than one document"
  | .badScalar => "scalar does not fit its tag"
  | .localTag => "local tags have no meaning here"
  | .badKey => "mapping key is not a scalar"
  | .tooDeep => "nesting too deep"
  | .tooManyAliases => "too many aliases"

/-- Repeats a step until it gives a result. Every step of the readers here takes something off the
input, so its length bounds the number of steps. -/
def repeatStep {σ α : Type} (step : σ → Except Fault (σ ⊕ α)) : Nat → σ → Except Fault α
  | 0, _ => .error .unexpectedToken
  | n + 1, s =>
    match step s with
    | .error e => .error e
    | .ok (.inl s) => repeatStep step n s
    | .ok (.inr a) => .ok a

def isBlank (c : Char) : Bool := c == ' ' || c == '\t'

def isBreak (c : Char) : Bool :=
  c == '\n' || c == '\r' || c.toNat == 0x85 || c.toNat == 0x2028 || c.toNat == 0x2029

def isSpace (c : Char) : Bool := isBlank c || isBreak c

def isAllowed (c : Char) : Bool :=
  let n := c.toNat
  n == 0x9 || n == 0xa || n == 0xd || (0x20 ≤ n && n ≤ 0x7e) || n == 0x85
    || (0xa0 ≤ n && n ≤ 0xfffd) || 0x10000 ≤ n

def isNameChar (c : Char) : Bool := c.isAlphanum || c == '_' || c == '-'

def startsSpace : List Char → Bool
  | [] => true
  | c :: _ => isSpace c

def breakText (c : Char) : List Char :=
  if c.toNat == 0x2028 || c.toNat == 0x2029 then [c] else ['\n']

structure Cursor where
  rest : List Char
  /-- How many characters were passed in all. -/
  index : Nat
  line : Nat
  column : Nat

namespace Cursor

def start (text : String) : Cursor := ⟨text.toList, 0, 0, 0⟩

def bound (c : Cursor) : Nat := c.rest.length + 2

def skip (c : Cursor) (n : Nat) : Cursor :=
  ⟨c.rest.drop n, c.index + n, c.line, c.column + n⟩

def skipBreak (c : Cursor) : Cursor :=
  match c.rest with
  | '\r' :: '\n' :: rest => ⟨rest, c.index + 2, c.line + 1, 0⟩
  | b :: rest => if isBreak b then ⟨rest, c.index + 1, c.line + 1, 0⟩ else c
  | [] => c

def breakHere (c : Cursor) : List Char :=
  match c.rest with
  | b :: _ => if isBreak b then breakText b else []
  | [] => []

def span (c : Cursor) (p : Char → Bool) : List Char × Cursor :=
  let taken := c.rest.takeWhile p
  (taken, c.skip taken.length)

def skipWhile (c : Cursor) (p : Char → Bool) : Cursor := (c.span p).2

def looksAt (c : Cursor) (x : Char) : Bool := c.rest.head? == some x

def atEnd (c : Cursor) : Bool := c.rest.isEmpty

def atBlank (c : Cursor) : Bool := c.rest.head?.any isBlank

def atBreak (c : Cursor) : Bool := c.rest.head?.any isBreak

def atLineEnd (c : Cursor) : Bool := c.atEnd || c.atBreak

def skipComment (c : Cursor) : Cursor :=
  let c := c.skipWhile isBlank
  if c.looksAt '#' then c.skipWhile (!isBreak ·) else c

def atDocumentMark (c : Cursor) (x : Char) : Bool :=
  c.column == 0 && c.rest.take 3 == [x, x, x] && startsSpace (c.rest.drop 3)

def atAnyDocumentMark (c : Cursor) : Bool := c.atDocumentMark '-' || c.atDocumentMark '.'

end Cursor
end TwigPrinter.Yaml
