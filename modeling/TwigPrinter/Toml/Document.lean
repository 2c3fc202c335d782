import TwigPrinter.Toml.Lexeme
/-!
TOML documents.
-/
namespace TwigPrinter.Toml

def skipLines : (fuel : Nat) → List Char → Except Fault (List Char)
  | 0, cs => .ok cs
  | fuel + 1, cs =>
    match skipSpace cs with
    | '#' :: rest => do
      let rest ← endLine ('#' :: rest)
      skipLines fuel rest
    | rest => .ok rest

mutual

/-- One value. `depth` is how many arrays and inline tables may still be opened; every call takes
one from `fuel`. -/
def value : (fuel depth : Nat) → List Char → Except Fault (Value × List Char)
  | 0, _, cs => stop cs
  | fuel + 1, depth, cs =>
    match cs with
    | [] => .error .endOfInput
    | c :: rest =>
      if c == '"' || c == '\'' then do
        let (s, rest) ← string cs
        pure (.string s, rest)
      else if c == '[' then
        match depth with
        | 0 => .error .tooDeep
        | depth + 1 => items fuel depth [] rest
      else if c == '\x7b' then
        match depth with
        | 0 => .error .tooDeep
        | depth + 1 =>
          match skipBlank rest with
          | '\x7d' :: rest => .ok (.table [], rest)
          | rest => pairs fuel depth (.empty .defined) rest
      else if startsDate cs || startsTime cs then dateTime cs
      else if c == '+' || c == '-' || c.isDigit || c == 'i' || c == 'n' then number cs
      else if cs.take 4 == ['t', 'r', 'u', 'e'] then .ok (.bool true, cs.drop 4)
      else if cs.take 5 == ['f', 'a', 'l', 's', 'e'] then .ok (.bool false, cs.drop 5)
      else .error (.unexpected c)

def items : (fuel depth : Nat) → List Value → List Char → Except Fault (Value × List Char)
  | 0, _, _, cs => stop cs
  | fuel + 1, depth, done, cs => do
    let cs ← skipLines cs.length cs
    match cs with
    | ']' :: rest => pure (.array done.reverse, rest)
    | cs => do
      let (v, rest) ← value fuel depth cs
      let rest ← skipLines rest.length rest
      match rest with
      | ',' :: rest => items fuel depth (v :: done) rest
      | ']' :: rest => pure (.array (v :: done).reverse, rest)
      | rest => stop rest

def pairs : (fuel depth : Nat) → Table → List Char → Except Fault (Value × List Char)
  | 0, _, _, cs => stop cs
  | fuel + 1, depth, t, cs => do
    let ((path, last), rest) ← key cs
    match rest with
    | '=' :: rest => do
      let (v, rest) ← value fuel depth (skipBlank rest)
      let t ← t.addValue path last v
      match skipBlank rest with
      | ',' :: rest => pairs fuel depth t rest
      | '\x7d' :: rest => pure (.table t.toEntries, rest)
      | rest => stop rest
    | rest => stop rest

end

/-- A document while it is read: its tables and the path of the one that entries belong to. -/
structure State where
  root : Table := .empty .defined
  current : List String := []
  rest : List Char

def header (s : State) (cs : List Char) : Except Fault State :=
  match cs with
  | '[' :: rest => do
    let ((path, last), rest) ← key rest
    match rest with
    | ']' :: ']' :: rest => do
      let rest ← endLine rest
      let root ← s.root.extend path last
      pure ⟨root, path ++ [last], rest⟩
    | rest => stop rest
  | cs => do
    let ((path, last), rest) ← key cs
    match rest with
    | ']' :: rest => do
      let rest ← endLine rest
      let root ← s.root.define path last
      pure ⟨root, path ++ [last], rest⟩
    | rest => stop rest

def entry (s : State) (cs : List Char) : Except Fault State := do
  let ((path, last), rest) ← key cs
  match rest with
  | '=' :: rest => do
    let (v, rest) ← value (2 * rest.length + 2) depthLimit (skipBlank rest)
    let rest ← endLine rest
    let root ← s.root.descend .implied (Table.addValue path last v) s.current
    pure ⟨root, s.current, rest⟩
  | rest => stop rest

def lines : (fuel : Nat) → State → Except Fault Table
  | 0, s => .ok s.root
  | fuel + 1, s => do
    let cs ← skipLines s.rest.length s.rest
    match cs with
    | [] => pure s.root
    | '[' :: rest => do
      let s ← header s rest
      lines fuel s
    | cs => do
      let s ← entry s cs
      lines fuel s

def dropMark : List Char → List Char
  | c :: rest => if c.toNat == 0xfeff then rest else c :: rest
  | [] => []

def entries (cs : List Char) : Except Fault (List (String × Value)) := do
  let t ← lines (cs.length + 1) { rest := cs }
  pure t.toEntries

def parse (text : String) : Except Fault (List (String × Value)) := entries (dropMark text.toList)

end TwigPrinter.Toml
