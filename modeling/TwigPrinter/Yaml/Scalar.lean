import TwigPrinter.Text.Digits
import TwigPrinter.Yaml.Cursor
/-!
The texts of scalars: quoted, plain and block scalars. Each reader starts at the scalar and gives
its text and the place behind it.
-/
namespace TwigPrinter.Yaml

structure Gap where
  /-- The blanks, in reverse, as long as there is no line break. -/
  blanks : List Char := []
  broken : Bool := false
  /-- The text of the first line break. -/
  first : List Char := []
  /-- The texts of the other ones. -/
  more : List Char := []

namespace Gap

/-- What the gap stands for: one line break is a space, of several the first is dropped. -/
def text (g : Gap) : List Char :=
  if g.broken then
    if g.first == ['\n'] then (if g.more.isEmpty then [' '] else g.more) else g.first ++ g.more
  else g.blanks.reverse

def step (indent : Int) (s : Gap × Cursor) : Except Fault ((Gap × Cursor) ⊕ (Gap × Cursor)) :=
  let (g, c) := s
  match c.rest with
  | [] => .ok (.inr s)
  | x :: _ =>
    if isBlank x then
      if g.broken && x == '\t' && (c.column : Int) < indent then .error .tabInIndentation
      else .ok (.inl (if g.broken then g else { g with blanks := x :: g.blanks }, c.skip 1))
    else if isBreak x then
      let g := if g.broken then { g with more := g.more ++ breakText x }
        else { g with blanks := [], broken := true, first := breakText x }
      .ok (.inl (g, c.skipBreak))
    else .ok (.inr s)

def read (indent : Int) (g : Gap) (c : Cursor) : Except Fault (Gap × Cursor) :=
  repeatStep (step indent) c.bound (g, c)

end Gap

def escaped? : Char → Option Char
  | '0' => some '\x00'
  | 'a' => some '\x07'
  | 'b' => some '\x08'
  | 't' => some '\t'
  | '\t' => some '\t'
  | 'n' => some '\n'
  | 'v' => some '\x0b'
  | 'f' => some '\x0c'
  | 'r' => some '\r'
  | 'e' => some '\x1b'
  | ' ' => some ' '
  | '"' => some '"'
  | '/' => some '/'
  | '\\' => some '\\'
  | 'N' => some (Char.ofNat 0x85)
  | '_' => some (Char.ofNat 0xa0)
  | 'L' => some (Char.ofNat 0x2028)
  | 'P' => some (Char.ofNat 0x2029)
  | _ => none

def escapeDigits? : Char → Option Nat
  | 'x' => some 2
  | 'u' => some 4
  | 'U' => some 8
  | _ => none

/-- The state inside a quoted scalar: the text so far in reverse, and whether the line was just
ended by a backslash. -/
structure QuotedState where
  text : List Char
  joined : Bool
  cursor : Cursor

def quotedWordStep (double : Bool) (s : QuotedState) : Except Fault (QuotedState ⊕ QuotedState) :=
  let c := s.cursor
  match c.rest with
  | [] => .ok (.inr s)
  | x :: rest =>
    if isSpace x then .ok (.inr s)
    else if !double && x == '\'' then
      if rest.head? == some '\'' then
        .ok (.inl { s with text := '\'' :: s.text, cursor := c.skip 2 })
      else .ok (.inr s)
    else if double && x == '"' then .ok (.inr s)
    else if double && x == '\\' then
      match rest with
      | [] => .error .badEscape
      | y :: rest =>
        if isBreak y then .ok (.inr { s with joined := true, cursor := (c.skip 1).skipBreak })
        else match escaped? y with
          | some z => .ok (.inl { s with text := z :: s.text, cursor := c.skip 2 })
          | none =>
            match escapeDigits? y with
            | none => .error .badEscape
            | some n =>
              match Text.codePoint? n rest with
              | none => .error .badEscape
              | some z => .ok (.inl { s with text := z :: s.text, cursor := c.skip (2 + n) })
    else .ok (.inl { s with text := x :: s.text, cursor := c.skip 1 })

def quotedStep (double : Bool) (s : QuotedState) :
    Except Fault (QuotedState ⊕ (List Char × Cursor)) := do
  if s.cursor.atAnyDocumentMark || s.cursor.atEnd then throw .unclosedString
  let s ← repeatStep (quotedWordStep double) s.cursor.bound { s with joined := false }
  if s.cursor.looksAt (if double then '"' else '\'') then
    pure (.inr (s.text.reverse, s.cursor.skip 1))
  else
    let (g, c) ← Gap.read 0 { broken := s.joined } s.cursor
    pure (.inl { text := g.text.reverse ++ s.text, joined := false, cursor := c })

def readQuoted (double : Bool) (c : Cursor) : Except Fault (List Char × Cursor) :=
  repeatStep (quotedStep double) c.bound ⟨[], false, c.skip 1⟩

def isFlowMark (c : Char) : Bool :=
  c == ',' || c == '[' || c == ']' || c == '\x7b' || c == '\x7d'

def plainWord (flow : Bool) (done : List Char) : List Char → Except Fault (List Char × List Char)
  | [] => .ok (done, [])
  | x :: rest =>
    if isSpace x then .ok (done, x :: rest)
    else if flow && x == ':' && rest.head?.any (fun y => isFlowMark y || y == '?') then
      .error .unexpectedColon
    else if (x == ':' && startsSpace rest) || (flow && isFlowMark x) then .ok (done, x :: rest)
    else plainWord flow (x :: done) rest

structure PlainState where
  text : List Char
  gap : Gap
  cursor : Cursor

structure PlainScalar where
  text : List Char
  broken : Bool
  cursor : Cursor

def PlainState.finish (s : PlainState) : PlainScalar := ⟨s.text.reverse, s.gap.broken, s.cursor⟩

/-- One word of a plain scalar and the gap after it. The scalar ends where a line starts before
`indent`, except between brackets. -/
def plainStep (flow : Bool) (indent : Int) (s : PlainState) :
    Except Fault (PlainState ⊕ PlainScalar) := do
  let c := s.cursor
  if c.atAnyDocumentMark || c.looksAt '#' then pure (.inr s.finish)
  else
    let (word, _) ← plainWord flow [] c.rest
    let s : PlainState :=
      if word.isEmpty then s
      else ⟨word ++ s.gap.text.reverse ++ s.text, {}, c.skip word.length⟩
    if s.cursor.atBlank || s.cursor.atBreak then
      let (g, c) ← Gap.read indent s.gap s.cursor
      let s : PlainState := { s with gap := g, cursor := c }
      if !flow && (c.column : Int) < indent then pure (.inr s.finish) else pure (.inl s)
    else pure (.inr s.finish)

def readPlain (flow : Bool) (indent : Int) (c : Cursor) : Except Fault PlainScalar :=
  repeatStep (plainStep flow indent) c.bound ⟨[], {}, c⟩

inductive Chomping where
  | strip
  | clip
  | keep
  deriving DecidableEq, Repr

def chomping? : Char → Option Chomping
  | '+' => some .keep
  | '-' => some .strip
  | _ => none

def indentDigit? : Char → Option Nat := Text.digit? 10

def blockHeader (c : Cursor) : Except Fault (Chomping × Option Nat × Cursor) := do
  let c := c.skip 1
  let first := c.rest.head?
  let (chomping, increment, c) := match first.bind chomping? with
    | some chomping =>
      let c := c.skip 1
      match c.rest.head?.bind indentDigit? with
      | some n => (chomping, some n, c.skip 1)
      | none => (chomping, none, c)
    | none =>
      match first.bind indentDigit? with
      | some n =>
        let c := c.skip 1
        match c.rest.head?.bind chomping? with
        | some chomping => (chomping, some n, c.skip 1)
        | none => (Chomping.clip, some n, c)
      | none => (Chomping.clip, none, c)
  if increment == some 0 then throw .badBlockHeader
  let c := c.skipComment
  if c.atLineEnd then pure (chomping, increment, c.skipBreak) else throw .badBlockHeader

/-- Passes the indentation of one line, and the line itself if there is nothing else on it. The
widest indentation of such lines counts as long as the one of the scalar is not known. -/
def blockBreaksStep (indent : Option Nat) (s : List Char × Nat × Cursor) :
    Except Fault ((List Char × Nat × Cursor) ⊕ (List Char × Nat × Cursor)) :=
  let (breaks, widest, c) := s
  let spaces := (c.rest.takeWhile (· == ' ')).length
  let spaces := match indent with
    | none => spaces
    | some n => min spaces (n - c.column)
  let c := c.skip spaces
  let widest := max widest c.column
  if c.looksAt '\t' && indent.all (c.column < ·) then .error .tabInIndentation
  else if c.atBreak then .ok (.inl (breaks ++ c.breakHere, widest, c.skipBreak))
  else .ok (.inr (breaks, widest, c))

def blockBreaks (indent : Option Nat) (c : Cursor) : Except Fault (List Char × Nat × Cursor) :=
  repeatStep (blockBreaksStep indent) c.bound ([], 0, c)

/-- The state inside a block scalar: the text in reverse, the break after the last line and those of
the empty lines after it, and whether the last line starts with a blank. -/
structure BlockState where
  text : List Char
  lastBreak : List Char
  emptyBreaks : List Char
  indented : Bool
  cursor : Cursor

/-- One line of a block scalar. A folded scalar has a space for a single break between two lines
that do not start with a blank. -/
def blockStep (literal : Bool) (indent : Nat) (s : BlockState) :
    Except Fault (BlockState ⊕ BlockState) := do
  let c := s.cursor
  if c.column != indent || c.atEnd then pure (.inr s)
  else
    let blank := c.atBlank
    let fold := !literal && s.lastBreak == ['\n'] && !s.indented && !blank
    let joint := if fold then (if s.emptyBreaks.isEmpty then [' '] else []) else s.lastBreak
    let (line, c) := c.span (!isBreak ·)
    let lastBreak := c.breakHere
    let (emptyBreaks, _, c) ← blockBreaks (some indent) c.skipBreak
    pure (.inl {
      text := line.reverse ++ (joint ++ s.emptyBreaks).reverse ++ s.text
      lastBreak := lastBreak
      emptyBreaks := emptyBreaks
      indented := blank
      cursor := c })

def readBlock (literal : Bool) (parent : Int) (c : Cursor) : Except Fault (List Char × Cursor) := do
  let (chomping, increment, c) ← blockHeader c
  let known := increment.map fun n => n + parent.toNat
  let (breaks, widest, c) ← blockBreaks known c
  let indent := known.getD (max (max widest (parent + 1).toNat) 1)
  let s ← repeatStep (blockStep literal indent) c.bound ⟨[], [], breaks, false, c⟩
  let tail := match chomping with
    | .strip => []
    | .clip => s.lastBreak
    | .keep => s.lastBreak ++ s.emptyBreaks
  pure (s.text.reverse ++ tail, s.cursor)

end TwigPrinter.Yaml
