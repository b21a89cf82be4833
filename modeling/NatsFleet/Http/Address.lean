/-!
Addresses: a scheme, an authority and a target. An address without a scheme is either a target or an
authority alone.
-/
namespace NatsFleet.Http

/-- What is wrong with the text of an address. -/
inductive AddressFlaw where
  | empty
  | tooLong
  | character
  | authority
  | format
  | schemeTooLong
  deriving DecidableEq

def AddressFlaw.message : AddressFlaw → String
  | .empty => "empty string"
  | .tooLong => "uri too long"
  | .character => "invalid uri character"
  | .authority => "invalid authority"
  | .format => "invalid format"
  | .schemeTooLong => "scheme too long"

structure Address where
  scheme : Option String := none
  authority : Option String := none
  -- The path and the query.
  target : String := ""

def Address.text (a : Address) : String :=
  ((a.scheme.map fun s => s ++ "://").getD "") ++ a.authority.getD "" ++
    (if a.target.isEmpty && a.scheme.isSome then "/"
      else if a.target.startsWith "?" then "/" ++ a.target
      else a.target)

/-- A character may stand in the name of a scheme. -/
def isSchemeChar (c : Char) : Bool := c.isAlphanum || c = '+' || c = '-' || c = '.'

/-- A character may stand in an authority. -/
def isAuthorityChar (c : Char) : Bool :=
  c.isAlphanum || "!$&'()*+,-.;=_~:@[]%".toList.contains c

def endsAuthority (c : Char) : Bool := c = '/' || c = '?' || c = '#'

/-- What has been seen of an authority: colons and percent signs count from the last at sign or
closing bracket on. -/
structure AuthoritySeen where
  colons : Nat := 0
  percent : Bool := false
  opened : Bool := false
  closed : Bool := false

def AuthoritySeen.step (s : AuthoritySeen) (c : Char) : Except AddressFlaw AuthoritySeen :=
  if !isAuthorityChar c then .error .character
  else if c = ':' then
    if 8 ≤ s.colons then .error .authority else .ok { s with colons := s.colons + 1 }
  else if c = '[' then
    if s.percent || s.opened then .error .authority else .ok { s with opened := true }
  else if c = ']' then
    if !s.opened || s.closed then .error .authority
    else .ok { s with closed := true, colons := 0, percent := false }
  else if c = '@' then .ok { s with colons := 0, percent := false }
  else if c = '%' then .ok { s with percent := true }
  else .ok s

/-- The authority at the start of a text: at most one colon stands before a port, brackets come in
pairs, and something follows an at sign. -/
def readAuthority (cs : List Char) : Except AddressFlaw String := do
  let name := cs.takeWhile fun c => !endsAuthority c
  let seen ← name.foldlM AuthoritySeen.step {}
  if seen.opened ≠ seen.closed || 1 < seen.colons || name.getLast? = some '@' || seen.percent then
    .error .authority
  else .ok (String.ofList name)

/-- A character may stand in a path. -/
def isPathChar (c : Char) : Bool :=
  0x21 ≤ c.toNat && c ≠ '<' && c ≠ '>' && c.toNat ≠ 0x60

/-- A character may stand in a query. -/
def isQueryChar (c : Char) : Bool := 0x21 ≤ c.toNat && c ≠ '"' && c ≠ '<' && c ≠ '>'

/-- The path and the query of a text, up to a number sign. -/
def readTarget (cs : List Char) : Except AddressFlaw String :=
  let target := cs.takeWhile (· ≠ '#')
  let path := target.takeWhile (· ≠ '?')
  if path.all isPathChar && (target.drop path.length).all isQueryChar then
    .ok (String.ofList target)
  else .error .character

/-- The scheme at the start of a text, in lower case if it is a usual one, and what follows it. -/
def readScheme (cs : List Char) : Except AddressFlaw (Option String × List Char) :=
  let name := cs.takeWhile isSchemeChar
  match cs.drop name.length with
  | ':' :: '/' :: '/' :: rest =>
    let usual := (String.ofList name).toLower
    if usual = "http" || usual = "https" then .ok (some usual, rest)
    else if 64 < name.length then .error .schemeTooLong
    else .ok (some (String.ofList name), rest)
  | _ => .ok (none, cs)

def Address.read (text : String) : Except AddressFlaw Address :=
  if 65534 < text.utf8ByteSize then .error .tooLong
  else match text.toList with
    | [] => .error .empty
    | ['*'] => .ok { target := "*" }
    | ['?'] | ['#'] => .error .character
    | '/' :: rest => do
      let target ← readTarget ('/' :: rest)
      .ok { target := target }
    | cs => do
      let (scheme, rest) ← readScheme cs
      let authority ← readAuthority rest
      let after := rest.drop authority.length
      if scheme.isNone then
        if after.isEmpty then .ok { authority := some authority } else .error .format
      else if authority.isEmpty then .error .format
      else
        let target ← readTarget after
        .ok ⟨scheme, some authority, target⟩

end NatsFleet.Http
