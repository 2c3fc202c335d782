import TwigPrinter.Yaml.Scalar
import TwigPrinter.Yaml.Tag
/-!
Tokens of a YAML text, and the readers of those that are not scalars.
-/
namespace TwigPrinter.Yaml

inductive Token where
  | version (major minor : Nat)
  | tagHandle (handle : String) (start : Tag)
  | documentStart
  | documentEnd
  | blockSequenceStart
  | blockMappingStart
  | blockEnd
  | flowSequenceStart
  | flowSequenceEnd
  | flowMappingStart
  | flowMappingEnd
  | blockEntry
  | flowEntry
  | key
  | value
  | alias (name : String)
  | anchor (name : String)
  /-- A tag as written; an empty handle means that the rest is the whole tag. -/
  | tag (handle : String) (suffix : Tag)
  | scalar (plain : Bool) (text : String)
  deriving DecidableEq, Repr

def isTagChar (verbatim : Bool) (c : Char) : Bool :=
  isNameChar c || ";/?:@&=+$.%!~*'()".toList.contains c ||
    (verbatim && (c == ',' || c == '[' || c == ']'))

def tagStep (verbatim : Bool) (s : List UInt8 × Cursor) :
    Except Fault ((List UInt8 × Cursor) ⊕ (List UInt8 × Cursor)) :=
  let (done, c) := s
  match c.rest with
  | [] => .ok (.inr s)
  | x :: _ =>
    if !isTagChar verbatim x then .ok (.inr s)
    else if x == '%' then
      match percentBytes? c.rest with
      | some bytes => .ok (.inl (bytes.reverse ++ done, c.skip (3 * bytes.length)))
      | none => .error .badTag
    else .ok (.inl (x.toUInt8 :: done, c.skip 1))

/-- The rest of a tag after the characters that were read of it already, which may not be empty in
all. The first one of these is its exclamation mark. -/
def tagRest (verbatim : Bool) (read : List Char) (c : Cursor) : Except Fault (Tag × Cursor) := do
  let (done, c) ← repeatStep (tagStep verbatim) c.bound ([], c)
  if read.isEmpty && done.isEmpty then throw .badTag
  pure (.ofBytes ((read.drop 1).map Char.toUInt8 ++ done.reverse), c)

def handleText (c : Cursor) : Except Fault (List Char × Cursor) :=
  if c.looksAt '!' then
    let (name, c) := (c.skip 1).span isNameChar
    if c.looksAt '!' then .ok ('!' :: name ++ ['!'], c.skip 1) else .ok ('!' :: name, c)
  else .error .badTag

def readTag (flow : Bool) (c : Cursor) : Except Fault (Token × Cursor) := do
  let (token, c) ←
    if c.rest.take 2 == ['!', '<'] then do
      let (whole, c) ← tagRest true [] (c.skip 2)
      if c.looksAt '>' then pure (Token.tag "" whole, c.skip 1) else throw .badTag
    else do
      let (handle, c) ← handleText c
      if 1 < handle.length && handle.getLast? == some '!' then do
        let (suffix, c) ← tagRest false [] c
        pure (Token.tag (String.ofList handle) suffix, c)
      else do
        let (suffix, c) ← tagRest false handle c
        pure (if suffix.isEmpty then Token.tag "" .mark else Token.tag "!" suffix, c)
  if startsSpace c.rest || (flow && c.looksAt ',') then pure (token, c) else throw .badTag

def readAnchorName (c : Cursor) : Except Fault (String × Cursor) :=
  let (name, c) := (c.skip 1).span isNameChar
  let ends := startsSpace c.rest || c.rest.head?.any ("?:,]\x7d%@`".toList.contains ·)
  if name.isEmpty || !ends then .error .badAnchor else .ok (String.ofList name, c)

def versionNumber (c : Cursor) : Except Fault (Nat × Cursor) :=
  let (digits, c) := c.span Char.isDigit
  if digits.isEmpty || 9 < digits.length then .error .badDirective
  else .ok (Text.decimal digits, c)

def readVersion (c : Cursor) : Except Fault (Token × Cursor) := do
  let (major, c) ← versionNumber (c.skipWhile isBlank)
  if !c.looksAt '.' then throw .badDirective
  let (minor, c) ← versionNumber (c.skip 1)
  pure (.version major minor, c)

def readTagHandle (c : Cursor) : Except Fault (Token × Cursor) := do
  let (handle, c) ← handleText (c.skipWhile isBlank)
  if handle != ['!'] && handle.getLast? != some '!' then throw .badDirective
  if !c.atBlank then throw .badDirective
  let (start, c) ← tagRest true [] (c.skipWhile isBlank)
  if startsSpace c.rest then pure (.tagHandle (String.ofList handle) start, c)
  else throw .badDirective

def readDirective (c : Cursor) : Except Fault (Token × Cursor) := do
  let (name, c) := (c.skip 1).span isNameChar
  if name.isEmpty || !startsSpace c.rest then throw .badDirective
  let (token, c) ←
    if name == "YAML".toList then readVersion c
    else if name == "TAG".toList then readTagHandle c
    else throw .badDirective
  let c := c.skipComment
  if c.atLineEnd then pure (token, c.skipBreak) else throw .badDirective

end TwigPrinter.Yaml
