import TwigPrinter.Yaml.Scan
/-!
The tree of a YAML document. Aliases stay in the tree and refer to anchored nodes by number, so a
node may refer to one that it is part of.
-/
namespace TwigPrinter.Yaml

inductive Node where
  | scalar (tag : Option Tag) (plain : Bool) (text : String)
  | sequence (tag : Option Tag) (items : List Node)
  | mapping (tag : Option Tag) (entries : List (Node × Node))
  | alias (number : Nat)

namespace Node

def empty : Node := .scalar none true ""

mutual

/-- How many marks a document needs that lists the tree: one for a leaf, two for the ends of a
collection. -/
def weight : Node → Nat
  | .scalar _ _ _ | .alias _ => 1
  | .sequence _ items => 2 + weightItems items
  | .mapping _ entries => 2 + weightEntries entries

def weightItems : List Node → Nat
  | [] => 0
  | n :: rest => n.weight + weightItems rest

def weightEntries : List (Node × Node) → Nat
  | [] => 0
  | (key, value) :: rest => key.weight + value.weight + weightEntries rest

end

end Node

/-- What is known besides the tokens: the meaning of tag handles, and the anchors. An anchor gets as
its number how many names are in use before it, so a name that is used again may share its number
with others. -/
structure Context where
  handles : List (String × Tag) := []
  /-- The number of each name. -/
  numbers : List (String × Nat) := []
  /-- The number and the place of each anchored node, in the order in which they start, the last
  one first. -/
  starts : List (Nat × Nat) := []
  /-- The anchored nodes that are complete, by their places. -/
  nodes : List (Nat × Node) := []

namespace Context

def nextPlace (ctx : Context) : Nat := ctx.starts.length

def addAnchor (ctx : Context) (name : String) : Context :=
  let number := ctx.numbers.length
  { ctx with
    numbers := (name, number) :: ctx.numbers.filter (·.1 != name)
    starts := (number, ctx.nextPlace) :: ctx.starts }

def setNode (ctx : Context) (place : Nat) (n : Node) : Context :=
  { ctx with nodes := (place, n) :: ctx.nodes }

/-- The anchored nodes by their numbers. Of those with one number the one that starts last comes
first. -/
def anchored (ctx : Context) : List (Nat × Node) :=
  ctx.starts.filterMap fun (number, place) => (ctx.nodes.lookup place).map (number, ·)

def standardHandles : List (String × Tag) := [("!", .mark), ("!!", .standardStart)]

def tag (ctx : Context) (handle : String) (suffix : Tag) : Except Fault Tag :=
  if handle.isEmpty then .ok suffix
  else match (ctx.handles ++ standardHandles).lookup handle with
    | some start => .ok (start.append suffix)
    | none => .error .undefinedTagHandle

end Context

structure Properties where
  anchor : Option String := none
  tag : Option Tag := none

namespace Properties

def isEmpty (p : Properties) : Bool := p.anchor.isNone && p.tag.isNone

def read (ctx : Context) : List Token → Except Fault (Properties × List Token)
  | .anchor name :: .tag handle suffix :: rest | .tag handle suffix :: .anchor name :: rest => do
    let tag ← ctx.tag handle suffix
    pure ({ anchor := some name, tag := some tag }, rest)
  | .anchor name :: rest => .ok ({ anchor := some name }, rest)
  | .tag handle suffix :: rest => do
    let tag ← ctx.tag handle suffix
    pure ({ tag := some tag }, rest)
  | rest => .ok ({}, rest)

end Properties

/-- What the readers below give: what they read, the tokens behind it and the context after it. -/
abbrev Read (α : Type) := α × List Token × Context

/-- Which collections may start a node: between brackets no blocks may, and a sequence without
indentation of its own only as the key or the value of a mapping. -/
inductive Position where
  | flow
  | block
  | entry
  deriving DecidableEq, Repr

def endsEntry : List Token → Bool
  | .blockEntry :: _ | .blockEnd :: _ => true
  | _ => false

def endsPair : List Token → Bool
  | .key :: _ | .value :: _ | .blockEnd :: _ => true
  | _ => false

def endsFlowItem : List Token → Bool
  | .flowEntry :: _ | .flowSequenceEnd :: _ => true
  | _ => false

def endsFlowValue : List Token → Bool
  | .flowEntry :: _ | .flowMappingEnd :: _ => true
  | _ => false

mutual

def node : (fuel : Nat) → Position → List Token → Context → Except Fault (Read Node)
  | 0, _, _, _ => .error .unexpectedToken
  | fuel + 1, position, ts, ctx =>
    match ts with
    | .alias name :: rest =>
      match ctx.numbers.lookup name with
      | some number => .ok (.alias number, rest, ctx)
      | none => .error .undefinedAnchor
    | ts => do
      let (props, ts) ← Properties.read ctx ts
      match props.anchor with
      | none => content fuel position props ts ctx
      | some name => do
        let (n, ts, after) ← content fuel position props ts (ctx.addAnchor name)
        pure (n, ts, after.setNode ctx.nextPlace n)

def content : (fuel : Nat) → Position → Properties → List Token → Context → Except Fault (Read Node)
  | 0, _, _, _, _ => .error .unexpectedToken
  | fuel + 1, position, props, ts, ctx =>
    match ts with
    | .scalar plain text :: rest => .ok (.scalar props.tag plain text, rest, ctx)
    | .flowSequenceStart :: rest => do
      let (items, rest, ctx) ← flowItems fuel true [] rest ctx
      pure (.sequence props.tag items, rest, ctx)
    | .flowMappingStart :: rest => do
      let (entries, rest, ctx) ← flowPairs fuel true [] rest ctx
      pure (.mapping props.tag entries, rest, ctx)
    | ts =>
      match position, ts with
      | .entry, .blockEntry :: _ => do
        let (items, rest, ctx) ← looseItems fuel [] ts ctx
        pure (.sequence props.tag items, rest, ctx)
      | .block, .blockSequenceStart :: rest | .entry, .blockSequenceStart :: rest => do
        let (items, rest, ctx) ← blockItems fuel [] rest ctx
        pure (.sequence props.tag items, rest, ctx)
      | .block, .blockMappingStart :: rest | .entry, .blockMappingStart :: rest => do
        let (entries, rest, ctx) ← blockPairs fuel [] rest ctx
        pure (.mapping props.tag entries, rest, ctx)
      | _, ts =>
        if props.isEmpty then .error .unexpectedToken
        else .ok (.scalar props.tag true "", ts, ctx)

def blockItems : (fuel : Nat) → List Node → List Token → Context → Except Fault (Read (List Node))
  | 0, _, _, _ => .error .unexpectedToken
  | fuel + 1, done, ts, ctx =>
    match ts with
    | .blockEntry :: rest =>
      if endsEntry rest then blockItems fuel (.empty :: done) rest ctx
      else do
        let (n, rest, ctx) ← node fuel .block rest ctx
        blockItems fuel (n :: done) rest ctx
    | .blockEnd :: rest => .ok (done.reverse, rest, ctx)
    | _ => .error .unexpectedToken

def looseItems : (fuel : Nat) → List Node → List Token → Context → Except Fault (Read (List Node))
  | 0, _, _, _ => .error .unexpectedToken
  | fuel + 1, done, ts, ctx =>
    match ts with
    | .blockEntry :: rest =>
      if endsEntry rest || endsPair rest then looseItems fuel (.empty :: done) rest ctx
      else do
        let (n, rest, ctx) ← node fuel .block rest ctx
        looseItems fuel (n :: done) rest ctx
    | ts => .ok (done.reverse, ts, ctx)

def blockPairs : (fuel : Nat) → List (Node × Node) → List Token → Context →
    Except Fault (Read (List (Node × Node)))
  | 0, _, _, _ => .error .unexpectedToken
  | fuel + 1, done, ts, ctx =>
    match ts with
    | .key :: rest => do
      let (key, rest, ctx) ←
        if endsPair rest then pure (.empty, rest, ctx) else node fuel .entry rest ctx
      match rest with
      | .value :: rest => do
        let (value, rest, ctx) ←
          if endsPair rest then pure (.empty, rest, ctx) else node fuel .entry rest ctx
        blockPairs fuel ((key, value) :: done) rest ctx
      | rest => blockPairs fuel ((key, .empty) :: done) rest ctx
    | .blockEnd :: rest => .ok (done.reverse, rest, ctx)
    | _ => .error .unexpectedToken

def flowItems : (fuel : Nat) → (first : Bool) → List Node → List Token → Context →
    Except Fault (Read (List Node))
  | 0, _, _, _, _ => .error .unexpectedToken
  | fuel + 1, first, done, ts, ctx =>
    match ts with
    | .flowSequenceEnd :: rest => .ok (done.reverse, rest, ctx)
    | ts => do
      let ts ← match first, ts with
        | true, ts => pure ts
        | false, .flowEntry :: rest => pure rest
        | false, _ => throw .unexpectedToken
      match ts with
      | .flowSequenceEnd :: rest => pure (done.reverse, rest, ctx)
      | .key :: rest => do
        let (pair, rest, ctx) ← flowSinglePair fuel rest ctx
        flowItems fuel false (.mapping none [pair] :: done) rest ctx
      | ts => do
        let (n, rest, ctx) ← node fuel .flow ts ctx
        flowItems fuel false (n :: done) rest ctx

/-- The entry of a mapping that stands between square brackets without braces. Where its key is
missing, the token that shows it is passed. -/
def flowSinglePair : (fuel : Nat) → List Token → Context → Except Fault (Read (Node × Node))
  | 0, _, _ => .error .unexpectedToken
  | fuel + 1, ts, ctx => do
    let (key, rest, ctx) ← match ts with
      | .value :: rest | .flowEntry :: rest | .flowSequenceEnd :: rest => pure (.empty, rest, ctx)
      | ts => node fuel .flow ts ctx
    match rest with
    | .value :: rest =>
      if endsFlowItem rest then pure ((key, .empty), rest, ctx)
      else do
        let (value, rest, ctx) ← node fuel .flow rest ctx
        pure ((key, value), rest, ctx)
    | rest => pure ((key, .empty), rest, ctx)

def flowPairs : (fuel : Nat) → (first : Bool) → List (Node × Node) → List Token → Context →
    Except Fault (Read (List (Node × Node)))
  | 0, _, _, _, _ => .error .unexpectedToken
  | fuel + 1, first, done, ts, ctx =>
    match ts with
    | .flowMappingEnd :: rest => .ok (done.reverse, rest, ctx)
    | ts => do
      let ts ← match first, ts with
        | true, ts => pure ts
        | false, .flowEntry :: rest => pure rest
        | false, _ => throw .unexpectedToken
      match ts with
      | .flowMappingEnd :: rest => pure (done.reverse, rest, ctx)
      | .key :: rest => do
        let (key, rest, ctx) ← match rest with
          | .value :: _ | .flowEntry :: _ | .flowMappingEnd :: _ => pure (.empty, rest, ctx)
          | rest => node fuel .flow rest ctx
        match rest with
        | .value :: rest => do
          let (value, rest, ctx) ←
            if endsFlowValue rest then pure (.empty, rest, ctx) else node fuel .flow rest ctx
          flowPairs fuel false ((key, value) :: done) rest ctx
        | rest => flowPairs fuel false ((key, .empty) :: done) rest ctx
      | ts => do
        let (key, rest, ctx) ← node fuel .flow ts ctx
        flowPairs fuel false ((key, .empty) :: done) rest ctx

end

def isKnownVersion (major minor : Nat) : Bool := major == 1 && (minor == 1 || minor == 2)

def directives (version : Bool) (ctx : Context) :
    List Token → Except Fault (Bool × Context × List Token)
  | .version major minor :: rest =>
    if version || !isKnownVersion major minor then .error .badDirective
    else do
      let (_, ctx, rest) ← directives true ctx rest
      pure (true, ctx, rest)
  | .tagHandle handle start :: rest =>
    if (ctx.handles.lookup handle).isSome then .error .badDirective
    else do
      let (_, ctx, rest) ←
        directives version { ctx with handles := (handle, start) :: ctx.handles } rest
      pure (true, ctx, rest)
  | rest => .ok (false, ctx, rest)

structure Tree where
  root : Option Node
  anchored : List (Nat × Node)

def markedNode (fuel : Nat) (ts : List Token) (ctx : Context) : Except Fault (Read Node) :=
  match ts with
  | [] | .version _ _ :: _ | .tagHandle _ _ :: _ | .documentStart :: _ | .documentEnd :: _ =>
    .ok (.empty, ts, ctx)
  | ts => node fuel .block ts ctx

def isDocumentEnd : Token → Bool
  | .documentEnd => true
  | _ => false

def Tree.ofTokens (ts : List Token) : Except Fault Tree :=
  if ts.isEmpty then .ok ⟨none, []⟩
  else do
    let fuel := 2 * ts.length + 4
    let (marked, ctx, ts) ← directives false {} ts
    let (root, rest, ctx) ← match ts with
      | .documentStart :: ts => markedNode fuel ts ctx
      | ts => if marked then throw .unexpectedToken else node fuel .block ts ctx
    if (rest.dropWhile isDocumentEnd).isEmpty then pure ⟨some root, ctx.anchored⟩
    else throw .moreThanOneDocument

end TwigPrinter.Yaml
