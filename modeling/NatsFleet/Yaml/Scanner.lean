import NatsFleet.Yaml.Token

/-!
Cutting a YAML text into tokens. Indentation opens and closes block collections; a node that a colon
follows turns out to be a key, so each level of flow collections remembers where a key may start.
-/
namespace NatsFleet.Yaml

/-- Where a key without a question mark may start: before which token, and whether there must be
one. -/
structure Candidate where
  number : Nat
  mark : Mark
  required : Bool

/-- A scanner: the text left and its place, the tokens so far, the indentations, and for each open
flow collection, the innermost first, the place of a possible key. -/
structure Scanner where
  rest : List Char
  mark : Mark := {}
  tokens : List Token := []
  indent : Int := -1
  indents : List Int := []
  keyAllowed : Bool := true
  candidates : List (Option Candidate) := [none]

def isBreak (c : Char) : Bool :=
  c = '\n' || c = '\r' || c.toNat = 0x85 || c.toNat = 0x2028 || c.toNat = 0x2029

def isBlank (c : Char) : Bool := c = ' ' || c = '\t'

/-- Nothing but a blank, a break or the end of the text comes next. -/
def atGap : List Char → Bool
  | [] => true
  | c :: _ => isBlank c || isBreak c

/-- A line of three marks that ends or starts a document. -/
def isIndicator (column : Nat) : List Char → Bool
  | '-' :: '-' :: '-' :: rest => column = 0 && atGap rest
  | '.' :: '.' :: '.' :: rest => column = 0 && atGap rest
  | _ => false

namespace Scanner

/-- The scanner is inside a flow collection. -/
def inFlow (s : Scanner) : Bool := 1 < s.candidates.length

def fail {α : Type} (s : Scanner) (problem : String) (context : Option (String × Mark) := none) :
    Except Problem α := .error ⟨problem, s.mark, context⟩

/-- Passes a number of characters of a line. -/
def skip (s : Scanner) (n : Nat) : Scanner :=
  { s with
    rest := s.rest.drop n
    mark := { s.mark with index := s.mark.index + n, column := s.mark.column + n } }

def skipBreak (s : Scanner) : Scanner :=
  let (n, rest) := match s.rest with
    | '\r' :: '\n' :: rest => (2, rest)
    | _ :: rest => (1, rest)
    | [] => (0, [])
  { s with rest := rest, mark := ⟨s.mark.index + n, s.mark.line + 1, 0⟩ }

/-- Passes characters of a line as long as they satisfy a test. -/
def skipWhile (s : Scanner) (test : Char → Bool) : Scanner := s.skip (s.rest.takeWhile test).length

/-- Adds a token that starts at a place. -/
def emit (s : Scanner) (lexeme : Lexeme) (start : Mark) : Scanner :=
  { s with tokens := s.tokens ++ [⟨lexeme, start⟩] }

def take (s : Scanner) (lexeme : Lexeme) (n : Nat) : Scanner := (s.skip n).emit lexeme s.mark

/-- There is no key where one must be. -/
def missingKey {α : Type} (s : Scanner) (c : Candidate) : Except Problem α :=
  s.fail "could not find expected ':'" (some ("while scanning a simple key", c.mark))

/-- Forgets the keys that can no longer be. -/
def stale (s : Scanner) : Except Problem Scanner := do
  let old (c : Candidate) : Bool := c.mark.line < s.mark.line || c.mark.index + 1024 < s.mark.index
  match s.candidates.find? fun c => c.any fun c => c.required && old c with
  | some (some c) => s.missingKey c
  | _ => .ok { s with candidates := s.candidates.map fun c => c.filter fun c => !old c }

/-- Forgets the possible key of this level. -/
def dropKey (s : Scanner) : Except Problem Scanner :=
  match s.candidates with
  | some c :: rest =>
    if c.required then s.missingKey c else .ok { s with candidates := none :: rest }
  | _ => .ok s

def saveKey (s : Scanner) : Except Problem Scanner := do
  if s.keyAllowed then
    let required := !s.inFlow && s.indent = (s.mark.column : Int)
    let s ← s.dropKey
    .ok { s with candidates := some ⟨s.tokens.length, s.mark, required⟩ :: s.candidates.drop 1 }
  else .ok s

/-- A block collection starts at a column, unless one is open there. -/
def roll (s : Scanner) (column number : Nat) (lexeme : Lexeme) (mark : Mark) : Scanner :=
  if s.inFlow || (column : Int) ≤ s.indent then s
  else
    { s with
      indents := s.indent :: s.indents
      indent := column
      tokens := s.tokens.take number ++ [⟨lexeme, mark⟩] ++ s.tokens.drop number }

/-- The block collections of the given indentations end that lie beyond a column. -/
def unrollFrom (s : Scanner) (column : Int) : List Int → Scanner
  | [] => s
  | indent :: rest =>
    if column < s.indent then
      ({ s with indent := indent, indents := rest }.emit .blockEnd s.mark).unrollFrom column rest
    else s

/-- The block collections beyond a column end. -/
def unroll (s : Scanner) (column : Int) : Scanner :=
  if s.inFlow then s else s.unrollFrom column s.indents

def skipGap : Nat → Scanner → Scanner
  | 0, s => s
  | fuel + 1, s =>
    let s := s.skipWhile fun c => c = ' ' || (c = '\t' && (s.inFlow || !s.keyAllowed))
    let s := match s.rest with
      | '#' :: _ => s.skipWhile fun c => !isBreak c
      | _ => s
    match s.rest with
    | c :: _ =>
      if isBreak c then
        let s := s.skipBreak
        skipGap fuel (if s.inFlow then s else { s with keyAllowed := true })
      else s
    | [] => s

/-- The text of line ends between two parts of a scalar. -/
def folded (breaks : Nat) : List Char :=
  if breaks ≤ 1 then [' '] else List.replicate (breaks - 1) '\n'

/-- The blanks and line ends after a part of a scalar: how many lines end, and the blanks if none
does. A tab may not stand before the column `indent` of a further line. -/
def gap (indent : Int) : Nat → Nat → List Char → Scanner → Except Mark (Nat × List Char × Scanner)
  | 0, breaks, blanks, s => .ok (breaks, blanks, s)
  | fuel + 1, breaks, blanks, s =>
    match s.rest with
    | c :: _ =>
      if isBlank c then
        if 0 < breaks && c = '\t' && (s.mark.column : Int) < indent then .error s.mark
        else gap indent fuel breaks (if breaks = 0 then blanks ++ [c] else blanks) (s.skip 1)
      else if isBreak c then gap indent fuel (breaks + 1) [] s.skipBreak
      else .ok (breaks, blanks, s)
    | [] => .ok (breaks, blanks, s)

/-- The characters of a plain scalar up to a blank, a line end or an indicator. -/
def plainRun (inFlow : Bool) : List Char → Except Unit (List Char)
  | [] => .ok []
  | c :: rest =>
    let flowMark (c : Char) : Bool := c = ',' || c = '[' || c = ']' || c = '\x7b' || c = '\x7d'
    if isBlank c || isBreak c then .ok []
    else if c = ':' && atGap rest then .ok []
    else if inFlow && c = ':' && rest.head?.any (fun d => flowMark d || d = '?') then .error ()
    else if inFlow && flowMark c then .ok []
    else (plainRun inFlow rest).map (c :: ·)

/-- What stands between two parts of a scalar: blanks, or a number of line ends. -/
def joint (breaks : Nat) (blanks : List Char) : List Char :=
  if breaks = 0 then blanks else folded breaks

/-- A plain scalar from here on, after the part read so far and the gap behind it; whether it ends
with the end of a line. -/
def plain (start : Mark) :
    Nat → List Char → Nat → List Char → Scanner → Except Problem (List Char × Bool × Scanner)
  | 0, sofar, breaks, _, s => .ok (sofar, 0 < breaks, s)
  | fuel + 1, sofar, breaks, blanks, s =>
    let context := some ("while scanning a plain scalar", start)
    if isIndicator s.mark.column s.rest || s.rest.head? = some '#' then
      .ok (sofar, 0 < breaks, s)
    else match plainRun s.inFlow s.rest with
      | .error () => s.fail "found unexpected ':'" context
      | .ok run =>
        if run.isEmpty then .ok (sofar, 0 < breaks, s)
        else
          let sofar := sofar ++ joint breaks blanks ++ run
          match gap (s.indent + 1) (s.rest.length + 1) 0 [] (s.skip run.length) with
          | .error mark =>
            .error ⟨"found a tab character that violates indentation", mark, context⟩
          | .ok (breaks, blanks, after) =>
            if breaks = 0 && blanks.isEmpty then .ok (sofar, false, after)
            else if !s.inFlow && (after.mark.column : Int) ≤ s.indent then
              .ok (sofar, 0 < breaks, after)
            else plain start fuel sofar breaks blanks after

/-- The character that an escape of one letter stands for. -/
def escape? (c : Char) : Option Char :=
  [('0', '\x00'), ('a', '\x07'), ('b', '\x08'), ('t', '\t'), ('\t', '\t'), ('n', '\n'),
    ('v', '\x0b'), ('f', '\x0c'), ('r', '\r'), ('e', '\x1b'), (' ', ' '), ('"', '"'), ('/', '/'),
    ('\\', '\\'), ('N', '\x85'), ('_', '\xa0'), ('L', '\u2028'), ('P', '\u2029')].lookup c

/-- How many hexadecimal digits an escape has. -/
def escapeWidth? (c : Char) : Option Nat := [('x', 2), ('u', 4), ('U', 8)].lookup c

def hexValue? (cs : List Char) : Option Nat :=
  cs.foldlM (fun n c =>
    if c.isDigit then some (n * 16 + (c.toNat - '0'.toNat))
    else if 'a' ≤ c ∧ c ≤ 'f' then some (n * 16 + (c.toNat - 'a'.toNat + 10))
    else if 'A' ≤ c ∧ c ≤ 'F' then some (n * 16 + (c.toNat - 'A'.toNat + 10))
    else none) 0

/-- A quoted scalar from here on, after the part read so far. -/
def quoted (single : Bool) (start : Mark) :
    Nat → List Char → Scanner → Except Problem (List Char × Scanner)
  | 0, sofar, s => .ok (sofar, s)
  | fuel + 1, sofar, s =>
    let context := some ("while scanning a quoted scalar", start)
    let parsing := some ("while parsing a quoted scalar", start)
    if isIndicator s.mark.column s.rest then s.fail "found unexpected document indicator" context
    else match s.rest with
      | [] => s.fail "found unexpected end of stream" context
      | '\'' :: '\'' :: _ =>
        if single then quoted single start fuel (sofar ++ ['\'']) (s.skip 2)
        else quoted single start fuel (sofar ++ ['\'', '\'']) (s.skip 2)
      | '\\' :: c :: rest =>
        if single then quoted single start fuel (sofar ++ ['\\']) (s.skip 1)
        else if isBreak c then
          match gap (-1) (s.rest.length + 1) 0 [] (s.skip 1).skipBreak with
          | .error mark => .error ⟨"found unexpected end of stream", mark, context⟩
          | .ok (breaks, _, s) => quoted single start fuel (sofar ++ List.replicate breaks '\n') s
        else match escape? c, escapeWidth? c with
          | some d, _ => quoted single start fuel (sofar ++ [d]) (s.skip 2)
          | none, some width =>
            match hexValue? (rest.take width) with
            | some n =>
              if (rest.take width).length < width then
                s.fail "did not find expected hexdecimal number" parsing
              else if 0xD800 ≤ n && n < 0xE000 || 0x110000 ≤ n then
                s.fail "found invalid Unicode character escape code" parsing
              else quoted single start fuel (sofar ++ [Char.ofNat n]) (s.skip (2 + width))
            | none => s.fail "did not find expected hexdecimal number" parsing
          | none, none => s.fail "found unknown escape character" parsing
      | c :: _ =>
        if c = (if single then '\'' else '"') then .ok (sofar, s.skip 1)
        else if isBlank c || isBreak c then
          match gap (-1) (s.rest.length + 1) 0 [] s with
          | .error mark => .error ⟨"found unexpected end of stream", mark, context⟩
          | .ok (breaks, blanks, after) =>
            quoted single start fuel (sofar ++ joint breaks blanks) after
        else quoted single start fuel (sofar ++ [c]) (s.skip 1)

/-- How a block scalar deals with the line ends at its end. -/
inductive Chomping where
  | strip
  | clip
  | keep
  deriving DecidableEq

/-- The lines of a block scalar: each one's text, and none at all for an empty line. Without a given
indentation the first line that is not empty has it. -/
def blockLines : Nat → Option Nat → Scanner → List (Option (List Char)) →
    Except Problem (List (Option (List Char)) × Scanner)
  | 0, _, s, lines => .ok (lines, s)
  | fuel + 1, indent, s, lines =>
    let spaces := (s.rest.takeWhile (· = ' ')).length
    let width := indent.getD (max spaces (s.indent + 1).toNat)
    let s' := s.skip (min spaces width)
    match s'.rest with
    | [] => .ok (lines, s)
    | c :: _ =>
      if isBreak c then blockLines fuel indent s'.skipBreak (lines ++ [none])
      else if spaces < width || (max 1 (s.indent + 1).toNat) > spaces then .ok (lines, s)
      else
        let text := s'.rest.takeWhile fun c => !isBreak c
        let after := s'.skip text.length
        if after.rest.isEmpty then .ok (lines ++ [some text], after)
        else blockLines fuel (some width) after.skipBreak (lines ++ [some text])

/-- The lines of a literal scalar, joined. -/
def literalText (lines : List (Option (List Char))) : List Char :=
  (lines.map fun l => l.getD [] ++ ['\n']).flatten

/-- The lines of a folded scalar, joined: a line end between two lines of text is a space, unless
one of them is indented. -/
def foldedText : List (Option (List Char)) → List Char
  | [] => []
  | none :: rest => '\n' :: foldedText rest
  | [some line] => line ++ ['\n']
  | some line :: rest =>
    let indented (l : List Char) : Bool := l.head?.any isBlank
    match rest with
    | some next :: _ =>
      line ++ (if indented line || indented next then ['\n'] else [' ']) ++ foldedText rest
    | _ =>
      match rest.dropWhile Option.isNone with
      | some next :: _ =>
        line ++ (if indented line || indented next then ['\n'] else []) ++ foldedText rest
      | _ => line ++ ['\n'] ++ foldedText rest

/-- The head of a block scalar: how it ends, and its indentation. -/
def blockHead (s : Scanner) (start : Mark) : Except Problem (Chomping × Option Nat × Scanner) := do
  let context := some ("while scanning a block scalar", start)
  let head := s.rest.takeWhile fun c => c = '+' || c = '-' || c.isDigit
  let signs := head.filter fun c => !c.isDigit
  let digits := head.filter Char.isDigit
  if digits.head? = some '0' then s.fail "found an indentation indicator equal to 0" context
  else
    let after := (s.skip (min head.length 2)).skipWhile isBlank
    let after := match after.rest with
      | '#' :: _ => after.skipWhile fun c => !isBreak c
      | _ => after
    let chomping := match signs with
      | '+' :: _ => Chomping.keep
      | '-' :: _ => .strip
      | _ => .clip
    let indent := digits.head?.map fun d => s.indent.toNat + (d.toNat - '0'.toNat)
    match after.rest with
    | [] => .ok (chomping, indent, after)
    | c :: _ =>
      if isBreak c then .ok (chomping, indent, after.skipBreak)
      else after.fail "did not find expected comment or line break" context

def block (isLiteral : Bool) (s : Scanner) : Except Problem Scanner := do
  let s ← s.dropKey
  let (chomping, indent, after) ← { s.skip 1 with keyAllowed := true }.blockHead s.mark
  let (lines, after) ← blockLines (after.rest.length + 1) indent after []
  let body := (lines.reverse.dropWhile Option.isNone).reverse
  let text := if isLiteral then literalText body else foldedText body
  let ending := lines.drop body.length
  let text := match chomping with
    | .strip => text.dropLast
    | .clip => text
    | .keep => text ++ literalText ending
  .ok (after.emit (.scalar (String.ofList text) false) s.mark)

def name (s : Scanner) (what : String) (lexeme : String → Lexeme) : Except Problem Scanner := do
  let s ← s.saveKey
  let text := (s.rest.drop 1).takeWhile fun c => c.isAlphanum || c = '_' || c = '-'
  let after := s.skip (1 + text.length)
  let follows := atGap after.rest ||
    after.rest.head?.any fun c => "?:,]\x7d%@".toList.contains c || c.toNat = 0x60
  if text.isEmpty || !follows then
    after.fail "did not find expected alphabetic or numeric character"
      (some ("while scanning " ++ what, s.mark))
  else .ok ({ after with keyAllowed := false }.emit (lexeme (String.ofList text)) s.mark)

def openFlow (s : Scanner) (lexeme : Lexeme) : Except Problem Scanner := do
  let s ← s.saveKey
  .ok ({ s with candidates := none :: s.candidates, keyAllowed := true }.take lexeme 1)

def closeFlow (s : Scanner) (lexeme : Lexeme) : Except Problem Scanner := do
  let s ← s.dropKey
  let candidates := if s.inFlow then s.candidates.drop 1 else s.candidates
  .ok ({ s with candidates := candidates, keyAllowed := false }.take lexeme 1)

def document (s : Scanner) (lexeme : Lexeme) : Except Problem Scanner := do
  let s ← (s.unroll (-1)).dropKey
  .ok ({ s with keyAllowed := false }.take lexeme 3)

/-- A dash: an item of a block sequence. -/
def entry (s : Scanner) : Except Problem Scanner := do
  if !s.inFlow && !s.keyAllowed then
    s.fail "block sequence entries are not allowed in this context"
  else
    let s ← (s.roll s.mark.column s.tokens.length .blockSequence s.mark).dropKey
    .ok ({ s with keyAllowed := true }.take .blockEntry 1)

def explicitKey (s : Scanner) : Except Problem Scanner := do
  if !s.inFlow && !s.keyAllowed then s.fail "mapping keys are not allowed in this context"
  else
    let s ← (s.roll s.mark.column s.tokens.length .blockMapping s.mark).dropKey
    .ok ({ s with keyAllowed := !s.inFlow }.take .key 1)

/-- A colon: the value of a key, which may turn out to be one only now. -/
def value (s : Scanner) : Except Problem Scanner := do
  match s.candidates with
  | some c :: rest =>
    let key : Token := ⟨.key, c.mark⟩
    let s := { s with tokens := s.tokens.take c.number ++ [key] ++ s.tokens.drop c.number }
    let s := s.roll c.mark.column c.number .blockMapping c.mark
    .ok ({ s with candidates := none :: rest, keyAllowed := false }.take .value 1)
  | _ =>
    if !s.inFlow && !s.keyAllowed then s.fail "mapping values are not allowed in this context"
    else
      let s := s.roll s.mark.column s.tokens.length .blockMapping s.mark
      .ok ({ s with keyAllowed := !s.inFlow }.take .value 1)

/-- A comma between the items of a collection in brackets. -/
def comma (s : Scanner) : Except Problem Scanner := do
  let s ← s.dropKey
  .ok ({ s with keyAllowed := true }.take .flowEntry 1)

def finish (s : Scanner) : Except Problem Scanner := do
  let mark := if s.mark.column = 0 then s.mark else ⟨s.mark.index, s.mark.line + 1, 0⟩
  let s ← ({ s with mark := mark }.unroll (-1)).dropKey
  .ok ({ s with keyAllowed := false }.emit .streamEnd s.mark)

def quote (s : Scanner) (single : Bool) : Except Problem Scanner := do
  let s ← s.saveKey
  let (text, after) ← quoted single s.mark (s.rest.length + 1) [] (s.skip 1)
  .ok ({ after with keyAllowed := false }.emit (.scalar (String.ofList text) false) s.mark)

def word (s : Scanner) : Except Problem Scanner := do
  let s ← s.saveKey
  let (text, broken, after) ←
    plain s.mark (s.rest.length + 1) [] 0 [] { s with keyAllowed := false }
  .ok ({ after with keyAllowed := broken }.emit (.scalar (String.ofList text) true) s.mark)

def tagged (s : Scanner) : Except Problem Scanner := do
  let s ← s.saveKey
  let text := s.rest.takeWhile fun c => !isBlank c && !isBreak c && !(s.inFlow && c = ',')
  .ok (({ s with keyAllowed := false }.skip text.length).emit (.tag (String.ofList text)) s.mark)

def directive (s : Scanner) : Except Problem Scanner := do
  let s ← (s.unroll (-1)).dropKey
  let line := s.rest.takeWhile fun c => !isBreak c
  .ok (({ s with keyAllowed := false }.skip line.length).emit .directive s.mark)

/-- A character that starts no plain scalar. -/
def isIndicatorChar (c : Char) : Bool :=
  "-?:,[]\x7b\x7d#&*!|>'\"%@".toList.contains c || c.toNat = 0x60

def lex (s : Scanner) : Except Problem Scanner :=
  match s.rest with
  | [] => s.finish
  | c :: rest =>
    if s.mark.column = 0 && c = '%' then s.directive
    else if isIndicator s.mark.column s.rest then
      s.document (if c = '-' then .documentStart else .documentEnd)
    else if c = '[' then s.openFlow .flowSequence
    else if c = '\x7b' then s.openFlow .flowMapping
    else if c = ']' then s.closeFlow .flowSequenceEnd
    else if c = '\x7d' then s.closeFlow .flowMappingEnd
    else if c = ',' then s.comma
    else if c = '-' && atGap rest then s.entry
    else if c = '?' && (s.inFlow || atGap rest) then s.explicitKey
    else if c = ':' && (s.inFlow || atGap rest) then s.value
    else if c = '*' then s.name "an alias" .alias
    else if c = '&' then s.name "an anchor" .anchor
    else if c = '!' then s.tagged
    else if c = '|' && !s.inFlow then block true s
    else if c = '>' && !s.inFlow then block false s
    else if c = '\'' then s.quote true
    else if c = '"' then s.quote false
    else if !isBlank c && (!isIndicatorChar c ||
        (c = '-' && !(rest.head?.any isBlank)) ||
        (!s.inFlow && (c = '?' || c = ':') && !atGap rest)) then s.word
    else s.fail "found character that cannot start any token"
      (some ("while scanning for the next token", s.mark))

def fetch (s : Scanner) : Except Problem Scanner := do
  let s ← (skipGap (s.rest.length + 1) s).stale
  (s.unroll s.mark.column).lex

/-- The tokens that are certain once scanning has stopped: no key can turn up before them. -/
def certain (s : Scanner) : List Token :=
  s.tokens.take ((s.candidates.filterMap fun c => c.map (·.number)).min?.getD s.tokens.length)

/-- The tokens up to the end of the text, or up to a problem. -/
def scan : Nat → Scanner → List Token × Option Problem
  | 0, s => (s.certain, none)
  | fuel + 1, s =>
    match s.fetch with
    | .error p => (s.certain, some p)
    | .ok s =>
      if s.tokens.getLast?.any fun t => t.lexeme = .streamEnd then (s.tokens, none)
      else scan fuel s

end Scanner

/-- The tokens of a text up to its end, or up to a problem. -/
def tokens (text : String) : List Token × Option Problem :=
  let cs := text.toList
  Scanner.scan (cs.length + 2) { rest := if cs.head? = some '\ufeff' then cs.drop 1 else cs }

end NatsFleet.Yaml
