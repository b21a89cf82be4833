import NatsFleet.Json.Basic

/-!
Requests to an HTTP server and its replies. A request is aimed at a target: a path and, after the
first question mark, a query.
-/
namespace NatsFleet.Http

inductive Verb where
  | get
  | post
  | patch
  | delete
  deriving DecidableEq

def Verb.name : Verb → String
  | .get => "GET"
  | .post => "POST"
  | .patch => "PATCH"
  | .delete => "DELETE"

structure Request where
  verb : Verb
  path : String
  query : String := ""
  contentType : Option String := none
  body : Option Json := none

inductive Reply where
  | answer (status : Nat) (body : String)
  -- The connection broke.
  | broken (reason : String)

/-- A byte of a query stands for itself. -/
def isPlain (b : UInt8) : Bool :=
  let c := Char.ofNat b.toNat
  c.isAlphanum || c = '*' || c = '-' || c = '.' || c = '_'

/-- A byte of a text as a query has it. -/
def escapedByte (b : UInt8) : List Char :=
  if isPlain b then [Char.ofNat b.toNat]
  else if b = 0x20 then ['+']
  else '%' :: (Text.hexPadded 2 b.toNat).map Char.toUpper

/-- A text as a query has it. -/
def escaped (text : String) : String := String.ofList (text.toUTF8.toList.flatMap escapedByte)

/-- Parameters as a query has them, each after an ampersand. -/
def parameters (pairs : List (String × String)) : String :=
  "".intercalate (pairs.map fun p => "&" ++ escaped p.1 ++ "=" ++ escaped p.2)

/-- A character may stand in a target. -/
def isTargetChar (c : Char) : Bool :=
  0x21 ≤ c.toNat && c ≠ '<' && c ≠ '>' && c.toNat ≠ 0x60 && c.toNat ≠ 0x7f

/-- The path of a target and its query. -/
def splitTarget (target : String) : String × String :=
  let cs := target.toList.takeWhile (· ≠ '#')
  (String.ofList (cs.takeWhile (· ≠ '?')), String.ofList ((cs.dropWhile (· ≠ '?')).drop 1))

/-- A request for a target; none when something stands in it that no target may have. -/
def Request.ofTarget? (verb : Verb) (target : String) (contentType : Option String)
    (body : Option Json) : Option Request :=
  if target.toList.all isTargetChar then
    let (path, query) := splitTarget target
    some ⟨verb, path, query, contentType, body⟩
  else none

end NatsFleet.Http
