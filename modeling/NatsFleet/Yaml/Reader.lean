import NatsFleet.Json.Basic
import NatsFleet.Yaml.Scanner

/-!
The documents of a YAML text as values. Plain scalars are null, truth values, numbers or texts by
their spelling; all other scalars are texts.
-/
namespace NatsFleet.Yaml

/-- A reader: the tokens left, why they end, if not with the text, and the values that have
names. -/
structure Reader where
  tokens : List Token
  problem : Option Problem
  named : List (String × Json) := []

namespace Reader

def peek (r : Reader) : Except Problem Token :=
  match r.tokens with
  | t :: _ => .ok t
  | [] => .error (r.problem.getD ⟨"EndOfStream", {}, none⟩)

def skip (r : Reader) : Reader := { r with tokens := r.tokens.drop 1 }

/-- Leading zeros before further digits make a text of a number. -/
def isPadded (digits : List Char) : Bool :=
  match digits with
  | '0' :: _ :: _ => digits.all Char.isDigit
  | _ => false

/-- The value of a digit, in a base up to sixteen. -/
def digit? (base : Nat) (c : Char) : Option Nat :=
  let n :=
    if c.isDigit then c.toNat - '0'.toNat
    else if 'a' ≤ c ∧ c ≤ 'f' then c.toNat - 'a'.toNat + 10
    else if 'A' ≤ c ∧ c ≤ 'F' then c.toNat - 'A'.toNat + 10
    else base
  if n < base then some n else none

/-- The number that digits of a base stand for. -/
def natural? (base : Nat) (cs : List Char) : Option Nat :=
  if cs.isEmpty then none
  else (cs.mapM (digit? base)).map fun ds => ds.foldl (fun n d => n * base + d) 0

/-- The whole number that a plain scalar is: in base ten, or in another base after its mark. -/
def whole? (cs : List Char) : Option Int :=
  let (negative, digits) := match cs with
    | '-' :: rest => (true, rest)
    | '+' :: rest => (false, rest)
    | rest => (false, rest)
  let n := match digits with
    | '0' :: 'x' :: rest => natural? 16 rest
    | '0' :: 'o' :: rest => natural? 8 rest
    | '0' :: 'b' :: rest => natural? 2 rest
    | digits => if isPadded digits then none else natural? 10 digits
  n.map fun n => if negative then -(n : Int) else n

def digitValues (cs : List Char) : List Nat := cs.map fun d => d.toNat - '0'.toNat

/-- The real number that a plain scalar is. -/
def real? (cs : List Char) : Option Json.Number :=
  let (negative, cs) := match cs with
    | '-' :: rest => (true, rest)
    | '+' :: rest => (false, rest)
    | rest => (false, rest)
  let before := cs.takeWhile Char.isDigit
  let (after, rest) := match cs.dropWhile Char.isDigit with
    | '.' :: rest => (rest.takeWhile Char.isDigit, rest.dropWhile Char.isDigit)
    | rest => ([], rest)
  let number (exponent : Option (Bool × List Nat)) : Option Json.Number :=
    if before.isEmpty && after.isEmpty then none
    else Json.Number.ofDigits? negative (digitValues before) (digitValues after)
      (exponent.or (some (false, [0])))
  match rest with
  | [] => if isPadded cs then none else number none
  | e :: rest =>
    let (down, digits) := match rest with
      | '-' :: rest => (true, rest)
      | '+' :: rest => (false, rest)
      | rest => (false, rest)
    if (e = 'e' || e = 'E') && !digits.isEmpty && digits.all Char.isDigit then
      number (some (down, digitValues digits))
    else none

def resolve (text : String) : Json :=
  if ["", "~", "null", "Null", "NULL"].contains text then .null
  else if ["true", "True", "TRUE"].contains text then .bool true
  else if ["false", "False", "FALSE"].contains text then .bool false
  else match whole? text.toList, real? text.toList with
    | some n, _ => .int n
    | none, some x => .number x
    | none, none => .string text

def keyText : Json → String
  | .string s => s
  | j => j.text

/-- A key that stands twice, as messages show it. -/
def keyShown : Json → String
  | .null => "with null key"
  | .bool b => "with key \x60" ++ toString b ++ "\x60"
  | .number n => "with key " ++ n.text
  | .string s => "with key " ++ Text.quoted s
  | _ => "in YAML map"

/-- Keys are the same: those of different kinds never are. -/
def sameKey (a b : Json) : Bool := keyText a = keyText b && keyShown a = keyShown b

/-- Where a value of a mapping stands, after the path to the mapping. -/
def below (path : String) (key : Json) : String :=
  let name := match key with
    | .array _ | .object _ => "?"
    | key => keyText key
  (if path = "." then "" else path ++ ".") ++ name

/-- Where an item of a sequence stands. -/
def inSequence (path : String) (index : Nat) : String := path ++ "[" ++ toString index ++ "]"

/-- No key of a mapping may stand twice. -/
def checkNew (path : String) (mark : Mark) (key : Json) (entries : List (Json × Json)) :
    Except Problem Unit :=
  if entries.any fun e => sameKey e.1 key then
    let place := if path = "." then "" else path ++ ": "
    .error ⟨place ++ "duplicate entry " ++ keyShown key, mark, none⟩
  else .ok ()

def mapping (entries : List (Json × Json)) : Json :=
  .object (entries.map fun e => (keyText e.1, e.2))

/-- The tokens before a node: a tag and a name for it. -/
def properties : Nat → Reader → Option String → Option String →
    Except Problem (Option String × Option String × Reader)
  | 0, r, tag, name => .ok (tag, name, r)
  | fuel + 1, r, tag, name => do
    match (← r.peek).lexeme with
    | .tag text =>
      if tag.isSome then .ok (tag, name, r) else properties fuel r.skip (some text) name
    | .anchor n =>
      if name.isSome then .ok (tag, name, r) else properties fuel r.skip tag (some n)
    | _ => .ok (tag, name, r)

mutual

/-- A node: in a block, or within brackets; `flat` if a sequence may stand as far left as its
key. -/
def node : Nat → String → Bool → Bool → Reader → Except Problem (Json × Reader)
  | 0, _, _, _, r => .ok (.null, r)
  | fuel + 1, path, inBlock, flat, r => do
    let start := (← r.peek).start
    let (tag, name, r) ← properties 2 r none none
    let token ← r.peek
    let (value, r) ← match token.lexeme with
      | .alias n =>
        match r.named.lookup n with
        | some value => .ok (value, r.skip)
        | none => .error ⟨"unknown anchor", token.start, none⟩
      | .scalar text plain =>
        .ok (if plain && (tag.isNone || tag = some "!") then resolve text else .string text, r.skip)
      | .flowSequence => flowItems fuel path token.start true [] r.skip
      | .flowMapping => flowPairs fuel path token.start true [] r.skip
      | lexeme =>
        if flat && lexeme = .blockEntry then flatItems fuel path [] r
        else if inBlock && lexeme = .blockSequence then blockItems fuel path token.start [] r.skip
        else if inBlock && lexeme = .blockMapping then blockPairs fuel path token.start [] r.skip
        else if tag.isSome || name.isSome then .ok (.null, r)
        else .error ⟨"did not find expected node content", token.start,
          some (if inBlock then "while parsing a block node" else "while parsing a flow node",
            start)⟩
    .ok (value, { r with named := (name.toList.map fun n => (n, value)) ++ r.named })

/-- A node, or nothing if one of these tokens comes next. -/
def nodeUnless : Nat → String → Bool → Bool → List Lexeme → Reader →
    Except Problem (Json × Reader)
  | 0, _, _, _, _, r => .ok (.null, r)
  | fuel + 1, path, inBlock, flat, enders, r => do
    if enders.contains (← r.peek).lexeme then .ok (.null, r) else node fuel path inBlock flat r

/-- A node after the mark of a value, or nothing. -/
def valueUnless : Nat → String → Bool → List Lexeme → Reader → Except Problem (Json × Reader)
  | 0, _, _, _, r => .ok (.null, r)
  | fuel + 1, path, inBlock, enders, r => do
    if (← r.peek).lexeme = .value then nodeUnless fuel path inBlock inBlock enders r.skip
    else .ok (.null, r)

def blockItems : Nat → String → Mark → List Json → Reader → Except Problem (Json × Reader)
  | 0, _, _, items, r => .ok (.array items, r)
  | fuel + 1, path, start, items, r => do
    let token ← r.peek
    match token.lexeme with
    | .blockEntry =>
      let enders := [.blockEntry, .blockEnd]
      let (item, r) ← nodeUnless fuel (inSequence path items.length) true false enders r.skip
      blockItems fuel path start (items ++ [item]) r
    | .blockEnd => .ok (.array items, r.skip)
    | _ => .error ⟨"did not find expected '-' indicator", token.start,
        some ("while parsing a block collection", start)⟩

/-- The items of a block sequence that stands as far left as its key. -/
def flatItems : Nat → String → List Json → Reader → Except Problem (Json × Reader)
  | 0, _, items, r => .ok (.array items, r)
  | fuel + 1, path, items, r => do
    match (← r.peek).lexeme with
    | .blockEntry =>
      let enders := [.blockEntry, .key, .value, .blockEnd]
      let (item, r) ← nodeUnless fuel (inSequence path items.length) true false enders r.skip
      flatItems fuel path (items ++ [item]) r
    | _ => .ok (.array items, r)

def blockPairs : Nat → String → Mark → List (Json × Json) → Reader →
    Except Problem (Json × Reader)
  | 0, _, _, entries, r => .ok (mapping entries, r)
  | fuel + 1, path, start, entries, r => do
    let token ← r.peek
    match token.lexeme with
    | .key | .value =>
      let enders := [.key, .value, .blockEnd]
      let (key, r) ← if token.lexeme = .key then nodeUnless fuel path true true enders r.skip
        else .ok (.null, r)
      checkNew path start key entries
      let (value, r) ← valueUnless fuel (below path key) true enders r
      blockPairs fuel path start (entries ++ [(key, value)]) r
    | .blockEnd => .ok (mapping entries, r.skip)
    | _ => .error ⟨"did not find expected key", token.start,
        some ("while parsing a block mapping", start)⟩

/-- The items of a sequence in brackets. An entry of a mapping may stand for an item. -/
def flowItems : Nat → String → Mark → Bool → List Json → Reader →
    Except Problem (Json × Reader)
  | 0, _, _, _, items, r => .ok (.array items, r)
  | fuel + 1, path, start, first, items, r => do
    let token ← r.peek
    if token.lexeme = .flowSequenceEnd then .ok (.array items, r.skip)
    else if !first && token.lexeme ≠ .flowEntry then
      .error ⟨"did not find expected ',' or ']'", token.start,
        some ("while parsing a flow sequence", start)⟩
    else
      let r := if first then r else r.skip
      let next ← r.peek
      let inner := inSequence path items.length
      match next.lexeme with
      | .flowSequenceEnd => .ok (.array items, r.skip)
      | .key =>
        let enders := [.flowEntry, .flowSequenceEnd]
        let (key, r) ← nodeUnless fuel inner false false (.value :: enders) r.skip
        let (value, r) ← valueUnless fuel (below inner key) false enders r
        flowItems fuel path start false (items ++ [mapping [(key, value)]]) r
      | _ =>
        let (item, r) ← node fuel inner false false r
        flowItems fuel path start false (items ++ [item]) r

/-- The entries of a mapping in brackets. -/
def flowPairs : Nat → String → Mark → Bool → List (Json × Json) → Reader →
    Except Problem (Json × Reader)
  | 0, _, _, _, entries, r => .ok (mapping entries, r)
  | fuel + 1, path, start, first, entries, r => do
    let token ← r.peek
    if token.lexeme = .flowMappingEnd then .ok (mapping entries, r.skip)
    else if !first && token.lexeme ≠ .flowEntry then
      .error ⟨"did not find expected ',' or '\x7d'", token.start,
        some ("while parsing a flow mapping", start)⟩
    else
      let r := if first then r else r.skip
      let next ← r.peek
      match next.lexeme with
      | .flowMappingEnd => .ok (mapping entries, r.skip)
      | .key =>
        let (key, r) ← nodeUnless fuel path false false [.value, .flowEntry, .flowMappingEnd] r.skip
        checkNew path start key entries
        let (value, r) ← valueUnless fuel (below path key) false [.flowEntry, .flowMappingEnd] r
        flowPairs fuel path start false (entries ++ [(key, value)]) r
      | _ =>
        let (key, r) ← node fuel path false false r
        checkNew path start key entries
        flowPairs fuel path start false (entries ++ [(key, .null)]) r

end

def skipAll (r : Reader) (lexemes : List Lexeme) : Reader :=
  { r with tokens := r.tokens.dropWhile fun t => lexemes.contains t.lexeme }

/-- The documents left, and the problem that ends them early. The first document needs no mark at
its start, and neither does one behind the mark of another one's end. -/
def documents (fuel : Nat) : Nat → Bool → Reader → List Json × Option Problem
  | 0, _, _ => ([], none)
  | count + 1, bare, r =>
    let r := if bare then r else r.skipAll [.documentEnd]
    match r.peek with
    | .error p => ([], some p)
    | .ok token =>
      let content (r : Reader) : List Json × Option Problem :=
        let enders := [.directive, .documentStart, .documentEnd, .streamEnd]
        match nodeUnless fuel "." true false enders r with
        | .error p => ([], some p)
        | .ok (value, r) =>
          match r.peek with
          | .error p => ([], some p)
          | .ok t =>
            let (more, problem) := documents fuel count (t.lexeme = .documentEnd)
              (r.skipAll [.documentEnd])
            (value :: more, problem)
      match token.lexeme with
      | .streamEnd => ([], none)
      | .documentStart => content { r.skip with named := [] }
      | .directive =>
        let r := r.skipAll [.directive]
        match r.tokens with
        | ⟨.documentStart, _⟩ :: _ => content { r.skip with named := [] }
        | t :: _ => ([], some ⟨"did not find expected <document start>", t.start, none⟩)
        | [] => ([], r.problem)
      | _ =>
        if bare then content { r with named := [] }
        else ([], some ⟨"did not find expected <document start>", token.start, none⟩)

end Reader

/-- The documents of a text, and the problem that ends them early. A text without any holds one that
is null. -/
def documents (text : String) : List Json × Option Problem :=
  let (tokens, problem) := tokens text
  let (values, problem) := Reader.documents (6 * tokens.length + 6) (tokens.length + 1) true
    { tokens := tokens, problem := problem }
  if values.isEmpty && problem.isNone then ([.null], none) else (values, problem)

end NatsFleet.Yaml
