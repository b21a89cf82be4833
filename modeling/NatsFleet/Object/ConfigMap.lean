import NatsFleet.Object.Metadata

/-!
Config maps: named texts that pods mount as files.
-/
namespace NatsFleet

structure ConfigMap where
  metadata : ObjectMeta
  -- The texts by the names of their files.
  data : List (String × String)

namespace ConfigMap

def toJson (c : ConfigMap) : Json :=
  .object [("apiVersion", .string "v1"), ("data", .object (c.data.map fun d => (d.1, .string d.2))),
    ("kind", .string "ConfigMap"), ("metadata", c.metadata.toJson)]

end ConfigMap

end NatsFleet
