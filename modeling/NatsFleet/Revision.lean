import NatsFleet.Cluster.Spec
import NatsFleet.Digest.Sha256

/-!
The revision of a spec: a short digest of everything that a pod is built from.
-/
namespace NatsFleet.Revision

/-- The bytes that are digested: the image and the two secrets, a zero byte between them. -/
def preimage (spec : ClusterSpec) : List UInt8 :=
  spec.image.toUTF8.toList ++ 0 :: (spec.serverSecret.getD "").toUTF8.toList ++
    0 :: (spec.routesSecret.getD "").toUTF8.toList

/-- The first ten hexadecimal digits of the digest. -/
def ofSpec (spec : ClusterSpec) : String :=
  String.ofList ((Digest.Sha256.hex (Digest.Sha256.digest (preimage spec))).take 10)

end NatsFleet.Revision
