import NatsFleet.Cluster.Basic
import NatsFleet.Failure
import NatsFleet.Http.Basic
import NatsFleet.Layout
import NatsFleet.Schema

/-!
The resources of the API server, where they are found, and the requests for them.
-/
namespace NatsFleet.Api

/-- A resource: its group, which is empty for the core one, its version and its plural. -/
structure Resource where
  group : String
  version : String
  plural : String

namespace Resource

def services : Resource := ⟨"", "v1", "services"⟩

def configMaps : Resource := ⟨"", "v1", "configmaps"⟩

def pods : Resource := ⟨"", "v1", "pods"⟩

def clusters : Resource := ⟨Schema.group, Schema.version, Schema.plural⟩

def definitions : Resource := ⟨"apiextensions.k8s.io", "v1", "customresourcedefinitions"⟩

/-- Where the objects of a resource are found, in one namespace or in all of them. -/
def path (r : Resource) (place : Option String) : String :=
  (if r.group.isEmpty then "/api/" else "/apis/" ++ r.group ++ "/") ++ r.version ++ "/" ++
    ((place.map fun name => "namespaces/" ++ name ++ "/").getD "") ++ r.plural

end Resource

/-- A request, unless it cannot be made. -/
abbrev Prepared := Except RequestError Http.Request

def prepare (verb : Http.Verb) (target : String) (contentType : Option String := none)
    (body : Option Json := none) : Prepared :=
  match Http.Request.ofTarget? verb target contentType body with
  | some r => .ok r
  | none => .error (.request "failed to build request: invalid uri character")

/-- A request about the object of a name, which may not be empty. -/
def named (name : String) (r : Prepared) : Prepared :=
  if name.isEmpty then .error (.request "failed to validate request: A non-empty name is required")
  else r

def jsonType : String := "application/json"

def create (r : Resource) (place : Option String) (object : Json) : Prepared :=
  prepare .post (r.path place) (some jsonType) (some object)

def get (r : Resource) (place : Option String) (name : String) : Prepared :=
  named name (prepare .get (r.path place ++ "/" ++ name))

def list (r : Resource) (place : Option String) (parameters : List (String × String)) : Prepared :=
  prepare .get (r.path place ++ "?" ++ Http.parameters parameters)

def delete (r : Resource) (place : Option String) (name : String) : Prepared :=
  named name (prepare .delete (r.path place ++ "/" ++ name) (some jsonType) (some (.object [])))

/-- Declares an object of one's own, whoever manages its fields. -/
def apply (r : Resource) (place : Option String) (name : String) (object : Json) : Prepared :=
  named name (prepare .patch (r.path place ++ "/" ++ name ++ "?" ++
    Http.parameters [("force", "true"), ("fieldManager", Layout.managerName)])
      (some "application/apply-patch+yaml") (some object))

def patchStatus (r : Resource) (place : Option String) (name : String) (status : Json) : Prepared :=
  named name (prepare .patch (r.path place ++ "/" ++ name ++ "/status")
    (some "application/merge-patch+json") (some (.object [("status", status)])))

end NatsFleet.Api
