import NatsFleet.Json.Decode
import NatsFleet.Timestamp

/-!
The metadata that every platform object carries.
-/
namespace NatsFleet

namespace Timestamp

def decoder : Json.Decoder Timestamp
  | _, .string s => do
    match read (← Json.orFault s) with
    | .ok t => .ok t
    | .error e => Json.complain (.refused e.message)
  | _, document => document.mismatch "an RFC 3339 formatted date and time string"

end Timestamp

/-- Labels and annotations: texts by name, in the order of their names. -/
abbrev Labels := List (String × String)

namespace Labels

def toJson (labels : Labels) : Json := .object (labels.map fun l => (l.1, .string l.2))

/-- Adds a label in the order of names; a label of that name is replaced. -/
def put (labels : Labels) (name value : String) : Labels :=
  Json.Decoder.putEntry name value labels

end Labels

/-- The object on whose behalf another one exists. -/
structure OwnerReference where
  apiVersion : String := ""
  blockOwnerDeletion : Option Bool := none
  controller : Option Bool := none
  kind : String := ""
  name : String := ""
  uid : String := ""
  deriving DecidableEq

namespace OwnerReference

def toJson (o : OwnerReference) : Json :=
  .object ([("apiVersion", .string o.apiVersion)] ++
    Json.optional "blockOwnerDeletion" .bool o.blockOwnerDeletion ++
    Json.optional "controller" .bool o.controller ++
    [("kind", .string o.kind), ("name", .string o.name), ("uid", .string o.uid)])

def slots : List (Json.Slot OwnerReference) := [
  .optional "apiVersion" .orEmpty fun o x => { o with apiVersion := x },
  .optional "blockOwnerDeletion" (.option .bool) fun o x => { o with blockOwnerDeletion := x },
  .optional "controller" (.option .bool) fun o x => { o with controller := x },
  .optional "kind" .orEmpty fun o x => { o with kind := x },
  .optional "name" .orEmpty fun o x => { o with name := x },
  .optional "uid" .orEmpty fun o x => { o with uid := x }]

def decoder : Json.Decoder OwnerReference := .object "OwnerReference" slots {}

end OwnerReference

/-- Who manages which fields of an object. -/
structure ManagedFields where
  apiVersion : Option String := none
  fieldsType : Option String := none
  fields : Option Json := none
  manager : Option String := none
  operation : Option String := none
  subresource : Option String := none
  time : Option Timestamp := none

namespace ManagedFields

def toJson (m : ManagedFields) : Json :=
  .object (Json.optional "apiVersion" .string m.apiVersion ++
    Json.optional "fieldsType" .string m.fieldsType ++
    Json.optional "fieldsV1" id m.fields ++
    Json.optional "manager" .string m.manager ++
    Json.optional "operation" .string m.operation ++
    Json.optional "subresource" .string m.subresource ++
    Json.optional "time" (fun t => .string (Timestamp.short t)) m.time)

def slots : List (Json.Slot ManagedFields) := [
  .optional "apiVersion" (.option .string) fun m x => { m with apiVersion := x },
  .optional "fieldsType" (.option .string) fun m x => { m with fieldsType := x },
  .optional "fieldsV1" (.option (.anything 4)) fun m x => { m with fields := x },
  .optional "manager" (.option .string) fun m x => { m with manager := x },
  .optional "operation" (.option .string) fun m x => { m with operation := x },
  .optional "subresource" (.option .string) fun m x => { m with subresource := x },
  .optional "time" (.option Timestamp.decoder) fun m x => { m with time := x }]

def decoder : Json.Decoder ManagedFields := .object "ManagedFieldsEntry" slots {}

end ManagedFields

structure ObjectMeta where
  annotations : Option Labels := none
  creationTimestamp : Option Timestamp := none
  deletionGracePeriodSeconds : Option Int := none
  deletionTimestamp : Option Timestamp := none
  finalizers : Option (List String) := none
  generateName : Option String := none
  generation : Option Int := none
  labels : Option Labels := none
  managedFields : Option (List ManagedFields) := none
  name : Option String := none
  scope : Option String := none
  ownerReferences : Option (List OwnerReference) := none
  resourceVersion : Option String := none
  selfLink : Option String := none
  uid : Option String := none

namespace ObjectMeta

/-- The name of an object: its own, else the one that its own is to be generated from. -/
def anyName (m : ObjectMeta) : String := (m.name.or m.generateName).getD ""

def label? (m : ObjectMeta) (name : String) : Option String := (m.labels.getD []).lookup name

/-- The value of metadata; absent parts are left out. -/
def toJson (m : ObjectMeta) : Json :=
  .object (Json.optional "annotations" Labels.toJson m.annotations ++
    Json.optional "creationTimestamp" (fun t => .string (Timestamp.short t)) m.creationTimestamp ++
    Json.optional "deletionGracePeriodSeconds" .int m.deletionGracePeriodSeconds ++
    Json.optional "deletionTimestamp" (fun t => .string (Timestamp.short t)) m.deletionTimestamp ++
    Json.optional "finalizers" .strings m.finalizers ++
    Json.optional "generateName" .string m.generateName ++
    Json.optional "generation" .int m.generation ++
    Json.optional "labels" Labels.toJson m.labels ++
    Json.optional "managedFields" (fun l => .array (l.map ManagedFields.toJson)) m.managedFields ++
    Json.optional "name" .string m.name ++
    Json.optional "namespace" .string m.scope ++
    Json.optional "ownerReferences" (fun l => .array (l.map OwnerReference.toJson))
      m.ownerReferences ++
    Json.optional "resourceVersion" .string m.resourceVersion ++
    Json.optional "selfLink" .string m.selfLink ++
    Json.optional "uid" .string m.uid)

def slots : List (Json.Slot ObjectMeta) := [
  .optional "annotations" (.option (.map .string)) fun m x => { m with annotations := x },
  .optional "creationTimestamp" (.option Timestamp.decoder)
    fun m x => { m with creationTimestamp := x },
  .optional "deletionGracePeriodSeconds" (.option .integer64)
    fun m x => { m with deletionGracePeriodSeconds := x },
  .optional "deletionTimestamp" (.option Timestamp.decoder)
    fun m x => { m with deletionTimestamp := x },
  .optional "finalizers" (.option (.list .string)) fun m x => { m with finalizers := x },
  .optional "generateName" (.option .string) fun m x => { m with generateName := x },
  .optional "generation" (.option .integer64) fun m x => { m with generation := x },
  .optional "labels" (.option (.map .string)) fun m x => { m with labels := x },
  .optional "managedFields" (.option (.list ManagedFields.decoder))
    fun m x => { m with managedFields := x },
  .optional "name" (.option .string) fun m x => { m with name := x },
  .optional "namespace" (.option .string) fun m x => { m with scope := x },
  .optional "ownerReferences" (.option (.list OwnerReference.decoder))
    fun m x => { m with ownerReferences := x },
  .optional "resourceVersion" (.option .string) fun m x => { m with resourceVersion := x },
  .optional "selfLink" (.option .string) fun m x => { m with selfLink := x },
  .optional "uid" (.option .string) fun m x => { m with uid := x }]

def decoder : Json.Decoder ObjectMeta := .object "ObjectMeta" slots {}

end ObjectMeta

end NatsFleet
