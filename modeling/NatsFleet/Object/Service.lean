import NatsFleet.Object.Metadata

/-!
Services: names that resolve to the pods a selector picks.
-/
namespace NatsFleet

structure ServicePort where
  name : String
  port : Int32
  targetPort : Int32
  protocol : String
  deriving DecidableEq

structure Service where
  metadata : ObjectMeta
  -- `None` for a service without an address of its own.
  clusterIp : Option String
  selector : Labels
  ports : List ServicePort
  publishNotReady : Bool

namespace ServicePort

def toJson (p : ServicePort) : Json :=
  .object [("name", .string p.name), ("port", .int p.port.toInt), ("protocol", .string p.protocol),
    ("targetPort", .int p.targetPort.toInt)]

end ServicePort

namespace Service

def toJson (s : Service) : Json :=
  .object [("apiVersion", .string "v1"), ("kind", .string "Service"),
    ("metadata", s.metadata.toJson),
    ("spec", .object (Json.optional "clusterIP" .string s.clusterIp ++
      [("ports", .array (s.ports.map ServicePort.toJson)),
        ("publishNotReadyAddresses", .bool s.publishNotReady),
        ("selector", s.selector.toJson)]))]

end Service

end NatsFleet
