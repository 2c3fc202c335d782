import TwigPrinter.Yaml.Token
/-!
The tokens of a whole YAML text. Blocks are told by their indentation. A mapping whose key stands on
one line with its colon is noticed only at the colon; its tokens are then put before those of the
key.
-/
namespace TwigPrinter.Yaml

structure PossibleKey where
  /-- Whether nothing but a key can stand there. -/
  required : Bool
  /-- How many tokens come before it. -/
  position : Nat
  index : Nat
  line : Nat
  column : Nat

structure Scanner where
  cursor : Cursor
  /-- The tokens so far, the last one first. -/
  tokens : List Token := []
  count : Nat := 0
  /-- The column of the innermost block, -1 outside of all. -/
  indent : Int := -1
  indents : List Int := []
  keyAllowed : Bool := true
  possibleKey : Option PossibleKey := none
  /-- The possible keys outside of each open bracket, the innermost first. -/
  outerKeys : List (Option PossibleKey) := []

namespace Scanner

def inFlow (s : Scanner) : Bool := !s.outerKeys.isEmpty

def push (s : Scanner) (t : Token) : Scanner :=
  { s with tokens := t :: s.tokens, count := s.count + 1 }

def insert (s : Scanner) (position : Nat) (ts : List Token) : Scanner :=
  let later := s.count - position
  { s with
    tokens := s.tokens.take later ++ ts.reverse ++ s.tokens.drop later
    count := s.count + ts.length }

def opensBlock (s : Scanner) (column : Nat) : Bool := !s.inFlow && s.indent < column

def openBlock (s : Scanner) (column : Nat) : Scanner :=
  { s with indent := column, indents := s.indent :: s.indents }

def closeBlocks (column : Int) : List Int → Scanner → Scanner
  | [], s => s
  | outer :: rest, s =>
    if column < s.indent then
      closeBlocks column rest { s.push .blockEnd with indent := outer, indents := rest }
    else s

def unindent (s : Scanner) (column : Int) : Scanner :=
  if s.inFlow then s else closeBlocks column s.indents s

/-- Gives up the possible key. One that is required has to be a key. -/
def dropKey (s : Scanner) : Except Fault Scanner :=
  if s.possibleKey.any (·.required) then .error .missingColon
  else .ok { s with possibleKey := none }

def saveKey (s : Scanner) : Except Fault Scanner :=
  if s.keyAllowed then do
    let c := s.cursor
    let s ← s.dropKey
    pure { s with possibleKey := some {
      required := !s.inFlow && s.indent == c.column
      position := s.count
      index := c.index
      line := c.line
      column := c.column } }
  else .ok s

def keyLimit : Nat := 1024

/-- A key has to be on one line with its colon and not too long. -/
def PossibleKey.isStale (k : PossibleKey) (c : Cursor) : Bool :=
  k.line < c.line || k.index + keyLimit < c.index

def refreshKey (c : Cursor) : Option PossibleKey → Except Fault (Option PossibleKey)
  | none => .ok none
  | some k =>
    if PossibleKey.isStale k c then (if k.required then .error .missingColon else .ok none)
    else .ok (some k)

def refreshKeys (s : Scanner) : Except Fault Scanner := do
  let key ← refreshKey s.cursor s.possibleKey
  let outer ← s.outerKeys.mapM (refreshKey s.cursor)
  pure { s with possibleKey := key, outerKeys := outer }

def byteOrderMark : Char := Char.ofNat 0xfeff

/-- Passes blanks, a comment and a line break; the result is the place of the next token. Tabs are
no indentation. -/
def blankStep (s : Scanner) : Except Fault (Scanner ⊕ Scanner) :=
  let c := s.cursor
  let c := if c.column == 0 && c.looksAt byteOrderMark then c.skip 1 else c
  let c := c.skipWhile fun x => x == ' ' || (x == '\t' && (s.inFlow || !s.keyAllowed))
  let c := if c.looksAt '#' then c.skipWhile (!isBreak ·) else c
  if c.atBreak then
    .ok (.inl { s with cursor := c.skipBreak, keyAllowed := s.keyAllowed || !s.inFlow })
  else .ok (.inr { s with cursor := c })

def mark (s : Scanner) (t : Token) : Scanner := { s.push t with cursor := s.cursor.skip 1 }

def documentMark (s : Scanner) (t : Token) : Except Fault Scanner := do
  let s ← (s.unindent (-1)).dropKey
  pure { s.push t with keyAllowed := false, cursor := s.cursor.skip 3 }

def directive (s : Scanner) : Except Fault Scanner := do
  let s ← (s.unindent (-1)).dropKey
  let (t, c) ← readDirective s.cursor
  pure { s.push t with keyAllowed := false, cursor := c }

def openBracket (s : Scanner) (t : Token) : Except Fault Scanner := do
  let s ← s.saveKey
  pure { s.mark t with
    outerKeys := s.possibleKey :: s.outerKeys, possibleKey := none, keyAllowed := true }

def closeBracket (s : Scanner) (t : Token) : Except Fault Scanner := do
  let s ← s.dropKey
  let s := { s.mark t with keyAllowed := false }
  match s.outerKeys with
  | [] => pure s
  | key :: outer => pure { s with possibleKey := key, outerKeys := outer }

def flowEntry (s : Scanner) : Except Fault Scanner := do
  let s ← s.dropKey
  pure { s.mark .flowEntry with keyAllowed := true }

def openHere (s : Scanner) (t : Token) : Scanner :=
  if s.opensBlock s.cursor.column then (s.openBlock s.cursor.column).push t else s

def blockEntry (s : Scanner) : Except Fault Scanner := do
  if !s.inFlow && !s.keyAllowed then throw .entryNotAllowed
  let s ← (s.openHere .blockSequenceStart).dropKey
  pure { s.mark .blockEntry with keyAllowed := true }

def explicitKey (s : Scanner) : Except Fault Scanner := do
  if !s.inFlow && !s.keyAllowed then throw .keyNotAllowed
  let s ← (s.openHere .blockMappingStart).dropKey
  pure { s.mark .key with keyAllowed := !s.inFlow }

/-- A colon: it ends the possible key if there is one. -/
def value (s : Scanner) : Except Fault Scanner :=
  match s.possibleKey with
  | some k =>
    let s := { s with possibleKey := none, keyAllowed := false }
    if s.opensBlock k.column then
      let s := (s.openBlock k.column).insert k.position [.blockMappingStart, .key]
      .ok (s.mark .value)
    else .ok ((s.insert k.position [.key]).mark .value)
  | none =>
    if !s.inFlow && !s.keyAllowed then .error .valueNotAllowed
    else .ok { (s.openHere .blockMappingStart).mark .value with keyAllowed := !s.inFlow }

def anchor (s : Scanner) (make : String → Token) : Except Fault Scanner := do
  let s ← s.saveKey
  let (name, c) ← readAnchorName s.cursor
  pure { s.push (make name) with keyAllowed := false, cursor := c }

def tag (s : Scanner) : Except Fault Scanner := do
  let s ← s.saveKey
  let (t, c) ← readTag s.inFlow s.cursor
  pure { s.push t with keyAllowed := false, cursor := c }

def blockScalar (s : Scanner) (literal : Bool) : Except Fault Scanner := do
  let s ← s.dropKey
  let (text, c) ← readBlock literal s.indent s.cursor
  pure { s.push (.scalar false (String.ofList text)) with keyAllowed := true, cursor := c }

def quotedScalar (s : Scanner) (double : Bool) : Except Fault Scanner := do
  let s ← s.saveKey
  let (text, c) ← readQuoted double s.cursor
  pure { s.push (.scalar false (String.ofList text)) with keyAllowed := false, cursor := c }

def plainScalar (s : Scanner) : Except Fault Scanner := do
  let s ← s.saveKey
  let p ← readPlain s.inFlow (s.indent + 1) s.cursor
  pure { s.push (.scalar true (String.ofList p.text)) with
    keyAllowed := p.broken, cursor := p.cursor }

def startsPlain (flow : Bool) (c : Char) (rest : List Char) : Bool :=
  let special := "-?:,[]\x7b\x7d#&*!|>'\"%@`".toList.contains c
  (!isSpace c && !special)
    || (c == '-' && !(rest.head?.any isBlank))
    || (!flow && (c == '?' || c == ':') && !startsSpace rest)

def finish (s : Scanner) : Except Fault (List Token) := do
  let s ← (s.unindent (-1)).dropKey
  pure s.tokens.reverse

def step (s : Scanner) : Except Fault (Scanner ⊕ List Token) := do
  let s ← repeatStep blankStep s.cursor.bound s
  let s ← s.refreshKeys
  let s := s.unindent s.cursor.column
  let c := s.cursor
  match c.rest with
  | [] => .inr <$> s.finish
  | x :: rest =>
    let single := startsSpace rest
    .inl <$>
      if c.column == 0 && x == '%' then s.directive
      else if c.atDocumentMark '-' then s.documentMark .documentStart
      else if c.atDocumentMark '.' then s.documentMark .documentEnd
      else if x == '[' then s.openBracket .flowSequenceStart
      else if x == '\x7b' then s.openBracket .flowMappingStart
      else if x == ']' then s.closeBracket .flowSequenceEnd
      else if x == '\x7d' then s.closeBracket .flowMappingEnd
      else if x == ',' then s.flowEntry
      else if x == '-' && single then s.blockEntry
      else if x == '?' && (s.inFlow || single) then s.explicitKey
      else if x == ':' && (s.inFlow || single) then s.value
      else if x == '*' then s.anchor .alias
      else if x == '&' then s.anchor .anchor
      else if x == '!' then s.tag
      else if x == '|' && !s.inFlow then s.blockScalar true
      else if x == '>' && !s.inFlow then s.blockScalar false
      else if x == '\'' then s.quotedScalar false
      else if x == '"' then s.quotedScalar true
      else if startsPlain s.inFlow x rest then s.plainScalar
      else .error .strayCharacter

end Scanner

def Token.scan (text : String) : Except Fault (List Token) :=
  if text.toList.all isAllowed then
    let c := Cursor.start text
    repeatStep Scanner.step c.bound { cursor := c }
  else .error .forbiddenCharacter

end TwigPrinter.Yaml
