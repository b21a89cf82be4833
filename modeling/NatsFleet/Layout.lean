/-!
The names, ports, labels, paths and timings that all clusters share.
-/
namespace NatsFleet.Layout

/-- The name under which fields are managed. -/
def managerName : String := "nats-operator"

def clientPort : Int32 := 4222

/-- The port for the routes between servers. -/
def clusterPort : Int32 := 6222

/-- The port for monitoring and health checks. -/
def monitoringPort : Int32 := 8222

def containerName : String := "nats"

/-- The label that marks every managed object, and its value. -/
def appLabel : String := "app"

/-- The value of the label that marks every managed object. -/
def appValue : String := "nats"

/-- The label with the name of the cluster. -/
def clusterLabel : String := "nats_cluster"

def versionLabel : String := "nats_version"

/-- The label with the digest of what a pod was built from. -/
def revisionLabel : String := "nats_revision"

def configVolume : String := "config"

def configPath : String := "/etc/nats-config"

def configFile : String := "nats.conf"

/-- The path of the configuration inside a server container. -/
def configFilePath : String := configPath ++ "/" ++ configFile

/-- The volume with the certificates of the client listener. -/
def serverTlsVolume : String := "server-tls-certs"

/-- Where the certificates of the client listener are mounted. -/
def serverTlsPath : String := "/etc/nats-server-tls-certs"

/-- The volume with the certificates of the route listener. -/
def routesTlsVolume : String := "routes-tls-certs"

/-- Where the certificates of the route listener are mounted. -/
def routesTlsPath : String := "/etc/nats-routes-tls-certs"

def caFile : String := "ca.pem"

def serverCertFile : String := "server.pem"

def serverKeyFile : String := "server-key.pem"

def routesCertFile : String := "route.pem"

def routesKeyFile : String := "route-key.pem"

/-- Pods are never restarted: a controller replaces them. -/
def restartPolicy : String := "Never"

/-- The period of a controller's passes, in milliseconds. -/
def reconcileInterval : Nat := 5000

/-- How long a stop waits for a controller, in milliseconds. -/
def stopGrace : Nat := 10000

/-- The period of the readiness polls of a definition, in milliseconds. -/
def pollInterval : Nat := 3000

/-- How long a definition may take to become ready, in milliseconds. -/
def readyTimeout : Nat := 600000

/-- The number of events that wait between the watch and the dispatch loop. -/
def eventCapacity : Nat := 256

/-- The name of the service that publishes one address per pod. -/
def routesServiceName (cluster : String) : String := cluster ++ "-routes"

end NatsFleet.Layout
