import NatsFleet.Api.Resource
import NatsFleet.Watch.Classifier
import NatsFleet.Watch.Notice

/-!
The course of watching: the objects are listed page by page, and then the changes since the version
of the listing are asked for, again and again. A version that the server no longer knows starts a
new listing.
-/
namespace NatsFleet.Watch

inductive Trouble where
  -- A page of the listing did not come.
  | listing (e : RequestError)
  -- The changes could not be asked for.
  | starting (e : RequestError)
  -- The server told of an error.
  | told (status : ApiStatus)
  -- A line of the changes could not be read.
  | reading (e : RequestError)
  -- A listing or an object came without a version.
  | noVersion

def Trouble.message : Trouble → String
  | .listing e => "failed to perform initial object list: " ++ e.message
  | .starting e => "failed to start watching object: " ++ e.message
  | .told s => "error returned by apiserver during watch: " ++ s.message ++ ": " ++ s.reason
  | .reading e => "watch stream failed: " ++ e.message
  | .noVersion => "no metadata.resourceVersion in watch result (does resource support watch?)"

inductive Course where
  -- A listing starts.
  | unlisted
  -- The page that starts here is asked for.
  | listing (page : Option String)
  -- The changes since a version are asked for.
  | starting (version : String)
  -- Notices are left.
  | reading (version : String) (notices : List (Except RequestError Notice))

/-- What came of a step: reports, then perhaps trouble, and what comes next. -/
structure Batch where
  reports : List Report := []
  trouble : Option Trouble := none
  course : Course

/-- A text that is there and not empty. -/
def nonempty (text : Option String) : Option String := text.filter fun t => !t.isEmpty

namespace Batch

/-- A report in front of the others. -/
def after (r : Report) (b : Batch) : Batch := { b with reports := r :: b.reports }

/-- The report of an object that was written or deleted, and the notices after it. An object without
a version makes the listing start anew. -/
def ofObject (r : Report) (version : Option String) (rest : String → Batch) : Batch :=
  match nonempty version with
  | none => { trouble := some .noVersion, course := .unlisted }
  | some v => (rest v).after r

/-- The notices up to the next trouble. -/
def ofNotices (version : String) : List (Except RequestError Notice) → Batch
  | [] => { course := .starting version }
  | .error e :: rest => { trouble := some (.reading e), course := .reading version rest }
  | .ok (.written c) :: rest =>
    ofObject (.applied c) c.metadata.resourceVersion fun v => ofNotices v rest
  | .ok (.deleted c) :: rest =>
    ofObject (.deleted c) c.metadata.resourceVersion fun v => ofNotices v rest
  | .ok (.reached v) :: rest => ofNotices v rest
  | .ok (.failed s) :: rest =>
    { trouble := some (.told s)
      course := if s.code = 410 then .unlisted else .reading version rest }

def ofPage : Except RequestError (Api.Listing Cluster) → Batch
  | .error e => { trouble := some (.listing e), course := .unlisted }
  | .ok page =>
    let objects := page.items.map Report.listed
    match nonempty page.next, nonempty page.version with
    | some next, _ => { reports := objects, course := .listing (some next) }
    | none, some version =>
      { reports := objects ++ [.complete], course := .starting version }
    | none, none => { trouble := some .noVersion, course := .unlisted }

end Batch

namespace Course

def pageSize : Nat := 500

/-- The request that a watch makes next, if it makes one. -/
def request? (place : Option String) : Course → Option Api.Prepared
  | .listing page => some (Api.list .clusters place
      (("limit", toString pageSize) :: page.toList.map fun token => ("continue", token)))
  | .starting version => some (Api.list .clusters place [("watch", "true"),
      ("timeoutSeconds", "290"), ("allowWatchBookmarks", "true"), ("resourceVersion", version)])
  | _ => none

/-- What comes of the reply to a request. -/
def receive (course : Course) (reply : Except RequestError Http.Reply) : Batch :=
  match course with
  | .listing _ => .ofPage do Api.read (Api.listingDecoder Cluster.decoder) (← reply)
  | .starting version =>
    match reply with
    | .error e => { trouble := some (.starting e), course := course }
    | .ok (.broken reason) =>
      { trouble := some (.starting (.service reason)), course := course }
    | .ok (.answer _ body) => { course := .reading version (Notice.ofBody body) }
  | course => { course := course }

def proceed : Course → Batch
  | .unlisted => { reports := [.listing], course := .listing none }
  | .reading version notices => .ofNotices version notices
  | course => { course := course }

end Course

end NatsFleet.Watch
