import NatsFleet.Cluster.Basic
import NatsFleet.Object.ConfigMap
import NatsFleet.Object.Pod
import NatsFleet.Object.Service
import NatsFleet.Revision
import NatsFleet.ServerConfig

/-!
The objects that make up a cluster on the platform: two services, one config map and the pods. Their
names, labels and references fit each other, so that every reference between them resolves.
-/
namespace NatsFleet.Manifest

/-- The address at which a pod can be reached through the routes service. -/
def routeAddress (pod cluster namespaceName : String) : String :=
  pod ++ "." ++ Layout.routesServiceName cluster ++ "." ++ namespaceName ++ ".svc"

/-- The labels that select every pod of a cluster. -/
def podSelector (cluster : String) : Labels :=
  [(Layout.appLabel, Layout.appValue), (Layout.clusterLabel, cluster)]

/-- A selector as list requests carry it. -/
def selectorText (selector : Labels) : String :=
  ",".intercalate (selector.map fun l => l.1 ++ "=" ++ l.2)

/-- The selector of the pods of a cluster as list requests carry it. -/
def labelSelector (cluster : String) : String := selectorText (podSelector cluster)

/-- The labels of every object of a cluster. -/
def commonLabels (cluster version : String) : Labels :=
  (podSelector cluster).put Layout.versionLabel version

/-- The labels of the pods of a cluster. -/
def podLabels (cluster : String) (spec : ClusterSpec) : Labels :=
  (commonLabels cluster spec.version).put Layout.revisionLabel (Revision.ofSpec spec)

/-- The metadata of an object of a cluster. -/
def metadata (id : Identity) (name : String) (labels : Labels) : ObjectMeta where
  name := some name
  scope := some id.namespaceName
  labels := some labels
  ownerReferences := id.owner.map fun o => [o]

/-- The service without an address that publishes one name per pod, ready or not, so that routes
resolve before the servers pass their health checks. -/
def routesService (id : Identity) (spec : ClusterSpec) : Service where
  metadata := metadata id (Layout.routesServiceName id.name) (commonLabels id.name spec.version)
  clusterIp := some "None"
  selector := podSelector id.name
  ports := [⟨"cluster", Layout.clusterPort, Layout.clusterPort, "TCP"⟩]
  publishNotReady := true

def clientService (id : Identity) (spec : ClusterSpec) : Service where
  metadata := metadata id id.name (commonLabels id.name spec.version)
  clusterIp := none
  selector := podSelector id.name
  ports := [⟨"client", Layout.clientPort, Layout.clientPort, "TCP"⟩]
  publishNotReady := true

/-- The config map with the text of the configuration. -/
def configMap (id : Identity) (spec : ClusterSpec) (config : ServerConfig) : ConfigMap where
  metadata := metadata id id.name (commonLabels id.name spec.version)
  data := [(Layout.configFile, config.render)]

/-- The mounts of the server container: the configuration, and the certificates of each listener
that has a secret. -/
def mounts (spec : ClusterSpec) : List VolumeMount :=
  ⟨Layout.configVolume, Layout.configPath, true⟩ ::
    (spec.serverSecret.toList.map fun _ => ⟨Layout.serverTlsVolume, Layout.serverTlsPath, true⟩) ++
    (spec.routesSecret.toList.map fun _ => ⟨Layout.routesTlsVolume, Layout.routesTlsPath, true⟩)

/-- The volumes of a pod, one for each mount of its container. -/
def volumes (id : Identity) (spec : ClusterSpec) : List Volume :=
  ⟨Layout.configVolume, .configMap id.name⟩ ::
    (spec.serverSecret.toList.map fun s => ⟨Layout.serverTlsVolume, .secret s⟩) ++
    (spec.routesSecret.toList.map fun s => ⟨Layout.routesTlsVolume, .secret s⟩)

def container (spec : ClusterSpec) : Container where
  name := Layout.containerName
  image := spec.image
  command := ["nats-server", "--config", Layout.configFilePath]
  ports := [⟨"client", Layout.clientPort, "TCP"⟩, ⟨"cluster", Layout.clusterPort, "TCP"⟩,
    ⟨"monitoring", Layout.monitoringPort, "TCP"⟩]
  mounts := mounts spec
  liveness := ⟨"/", Layout.monitoringPort, 10, 10, 5⟩

/-- A server pod, whose host name and subdomain make it resolvable at its route address. -/
def pod (id : Identity) (spec : ClusterSpec) (name : String) : Pod where
  metadata := metadata id name (podLabels id.name spec)
  spec := some {
    hostname := name
    subdomain := Layout.routesServiceName id.name
    containers := [container spec]
    volumes := volumes id spec
    restartPolicy := Layout.restartPolicy }

end NatsFleet.Manifest
