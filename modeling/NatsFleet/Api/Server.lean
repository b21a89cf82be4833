import NatsFleet.Api.Exchange

/-!
A server whose replies are laid down beforehand: those to listings and to watches of the declared
clusters apart from those to all other requests.
-/
namespace NatsFleet

/-- A server with a script for each kind of request. -/
structure Server where
  lists : Script := {}
  watches : Script := {}
  others : Script := {}

namespace Server

def isWatch (r : Http.Request) : Bool := r.query.startsWith "&watch=true"

def isListing (r : Http.Request) : Bool := r.verb = .get && r.path.endsWith "/natsclusters"

def reply (s : Server) (r : Http.Request) : Option Http.Reply × Server :=
  if isListing r then
    if isWatch r then
      let (reply, script) := s.watches.reply r
      (reply, { s with watches := script })
    else
      let (reply, script) := s.lists.reply r
      (reply, { s with lists := script })
  else
    let (reply, script) := s.others.reply r
    (reply, { s with others := script })

end Server

end NatsFleet
