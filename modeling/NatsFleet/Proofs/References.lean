import NatsFleet.Proofs.Owners
import NatsFleet.Proofs.Readback
import NatsFleet.Proofs.Selection

/-!
The references between the objects of a cluster: what the services select, where a pod is reached, where
its files come from, and on whose behalf all of them exist.
-/
namespace NatsFleet

namespace Platform

/-- The platform takes the selector of a cluster apart at its commas, so a comma in the name of the
cluster breaks it. -/
theorem selects_pod_iff (id : Identity) (spec : ClusterSpec) (name : String) :
    selects (Manifest.labelSelector id.name) (Manifest.pod id spec name) = true ↔
      ',' ∉ id.name.toList := by
  constructor
  · intro hselects hcomma
    obtain ⟨front, back, hname, hfront⟩ := List.eq_append_cons_of_mem hcomma
    -- The second term asks for the name up to its first comma.
    have hterms : terms (Manifest.labelSelector id.name).toList =
        "app=nats".toList :: ("nats_cluster".toList ++ '=' :: front) :: terms back := by
      have hterm : ',' ∉ "nats_cluster".toList ++ '=' :: front := by
        simp only [List.mem_append, List.mem_cons, not_or]
        exact ⟨by decide, by decide, hfront⟩
      calc terms (Manifest.labelSelector id.name).toList
          = terms ("app=nats".toList ++ ',' ::
              (("nats_cluster".toList ++ '=' :: front) ++ ',' :: back)) := by
            rw [labelSelector_toList, hname, List.append_assoc, List.cons_append]
        _ = "app=nats".toList :: terms (("nats_cluster".toList ++ '=' :: front) ++ ',' :: back) :=
            terms_append_comma (by decide) _
        _ = "app=nats".toList :: ("nats_cluster".toList ++ '=' :: front) :: terms back := by
            rw [terms_append_comma hterm]
    have hlabel : (Manifest.pod id spec name).metadata.label? "nats_cluster" = some id.name := by
      simp [label?_pod, Manifest.podSelector, Layout.appLabel, Layout.clusterLabel,
        Layout.revisionLabel, Layout.versionLabel, List.lookup_cons]
    have hfound : id.name = String.ofList front := by
      simp only [selects, hterms, List.all_cons, Bool.and_eq_true,
        splitTerm_append (show '=' ∉ "nats_cluster".toList by decide), String.ofList_toList, hlabel,
        beq_iff_eq, Option.some.injEq] at hselects
      exact hselects.2.1
    have hlength := congrArg List.length hname
    rw [hfound, String.toList_ofList, List.length_append, List.length_cons] at hlength
    omega
  · intro hcomma
    rw [selects_labelSelector id.name hcomma]
    exact carries_pod id spec name

end Platform

namespace Manifest

/-- The certificates of a listener: its block names them if and only if the pod has the volume of just
that secret, and they lie where this volume is mounted. -/
structure Certified (s : PodSpec) (c : Container) (volume : String) (secret : Option String)
    (block : Option TlsFiles) : Prop where
  shown_iff : block.isSome ↔ ∃ name, secret = some name ∧ ⟨volume, .secret name⟩ ∈ s.volumes
  source : ∀ v ∈ s.volumes, v.name = volume → ∃ name, secret = some name ∧ v.source = .secret name
  mounted : ∀ t, block = some t → ∃ m ∈ c.mounts, m.name = volume ∧
    ∀ f ∈ t.files, ∃ file, f = m.path ++ "/" ++ file ∧ '/' ∉ file.toList

/-- The references between the objects of a cluster, whose pod has this spec and this container. -/
structure Linked (id : Identity) (spec : ClusterSpec) (config : ServerConfig) (name : String)
    (s : PodSpec) (c : Container) : Prop where
  declared : (pod id spec name).spec = some s
  containers : s.containers = [c]
  -- The services and the listings of the cluster find the pod.
  services : ∀ service ∈ Pass.services id spec, ∀ l ∈ service.selector,
    (pod id spec name).metadata.label? l.1 = some l.2
  listed_iff : Platform.selects (labelSelector id.name) (pod id spec name) = true ↔
    ',' ∉ id.name.toList
  -- The pod is reached at its route.
  subdomain : s.subdomain = (routesService id spec).metadata.anyName
  address : s.hostname ++ "." ++ s.subdomain ++ "." ++ id.namespaceName ++ ".svc" =
    routeAddress name id.name id.namespaceName
  -- The container mounts the volumes of the pod, each once.
  mounts : c.mounts.map (·.name) = s.volumes.map (·.name)
  distinct : (s.volumes.map (·.name)).Nodup
  -- The server finds its configuration in the config map of the cluster.
  configured : ∃ m ∈ c.mounts, ∃ v ∈ s.volumes, v.name = Layout.configVolume ∧ m.name = v.name ∧
    v.source = .configMap (configMap id spec config).metadata.anyName ∧
    ∃ key, c.command = ["nats-server", "--config", m.path ++ "/" ++ key] ∧
      (configMap id spec config).data.lookup key = some config.render
  text : (∀ r ∈ config.routes, '\n' ∉ r.toList) → ServerConfig.read config.render = some config
  serverTls : Certified s c Layout.serverTlsVolume spec.serverSecret config.tls
  routesTls : Certified s c Layout.routesTlsVolume spec.routesSecret config.clusterTls
  -- All objects belong together.
  owned : ∀ m ∈ [(routesService id spec).metadata, (clientService id spec).metadata,
      (configMap id spec config).metadata, (pod id spec name).metadata],
    m.scope = some id.namespaceName ∧ m.OwnedBy id

variable {id : Identity} {spec : ClusterSpec} {name : String}

/-- A pod carries every label that its selector asks for. -/
theorem selector_label (id : Identity) (spec : ClusterSpec) (name : String) :
    ∀ l ∈ podSelector id.name, (pod id spec name).metadata.label? l.1 = some l.2 := by
  intro l hl
  have hcarries := List.all_eq_true.mp (Platform.carries_pod id spec name) l hl
  exact beq_iff_eq.mp hcarries

def volumeNames (spec : ClusterSpec) : List String :=
  Layout.configVolume :: ((spec.serverSecret.toList.map fun _ => Layout.serverTlsVolume) ++
    (spec.routesSecret.toList.map fun _ => Layout.routesTlsVolume))

theorem mounts_names (spec : ClusterSpec) : (mounts spec).map (·.name) = volumeNames spec := by
  simp only [mounts, volumeNames, List.cons_append, List.map_cons, List.map_append, List.map_map]
  rfl

theorem volumes_names (id : Identity) (spec : ClusterSpec) :
    (volumes id spec).map (·.name) = volumeNames spec := by
  simp only [volumes, volumeNames, List.cons_append, List.map_cons, List.map_append, List.map_map]
  rfl

/-- The volumes have distinct names. -/
theorem volumeNames_nodup (spec : ClusterSpec) : (volumeNames spec).Nodup := by
  have hall : (Layout.configVolume :: ([Layout.serverTlsVolume] ++ [Layout.routesTlsVolume])).Nodup := by
    decide
  refine hall.sublist ((List.Sublist.append ?_ ?_).cons_cons _)
  · cases spec.serverSecret <;> simp
  · cases spec.routesSecret <;> simp

/-- A listener is certified if the volume, the mount and the block come and go with its secret. -/
theorem Certified.of_secret {s : PodSpec} {c : Container} {volume path : String}
    {secret : Option String} {files : TlsFiles}
    (hvolume : ∀ n, secret = some n → ⟨volume, .secret n⟩ ∈ s.volumes)
    (hsource : ∀ v ∈ s.volumes, v.name = volume → ∃ n, secret = some n ∧ v.source = .secret n)
    (hmount : ∀ n, secret = some n → ⟨volume, path, true⟩ ∈ c.mounts)
    (hfiles : ∀ f ∈ files.files, ∃ file, f = path ++ "/" ++ file ∧ '/' ∉ file.toList) :
    Certified s c volume secret (secret.map fun _ => files) := by
  refine ⟨?_, hsource, ?_⟩
  · constructor
    · intro h
      rw [Option.isSome_map] at h
      obtain ⟨n, hn⟩ := Option.isSome_iff_exists.mp h
      exact ⟨n, hn, hvolume n hn⟩
    · rintro ⟨n, hn, -⟩
      rw [hn]
      rfl
  · intro t ht
    obtain ⟨n, hn, rfl⟩ := Option.map_eq_some_iff.mp ht
    exact ⟨_, hmount n hn, rfl, hfiles⟩

/-- The files of the server lie in the directory that is mounted for them. -/
theorem serverFiles_mounted : ∀ f ∈ TlsFiles.server.files,
    ∃ file, f = Layout.serverTlsPath ++ "/" ++ file ∧ '/' ∉ file.toList := by
  intro f hf
  simp only [TlsFiles.files, TlsFiles.server, List.mem_cons, List.not_mem_nil, or_false] at hf
  rcases hf with rfl | rfl | rfl
  · exact ⟨Layout.caFile, rfl, by decide⟩
  · exact ⟨Layout.serverCertFile, rfl, by decide⟩
  · exact ⟨Layout.serverKeyFile, rfl, by decide⟩

theorem routesFiles_mounted : ∀ f ∈ TlsFiles.routes.files,
    ∃ file, f = Layout.routesTlsPath ++ "/" ++ file ∧ '/' ∉ file.toList := by
  intro f hf
  simp only [TlsFiles.files, TlsFiles.routes, List.mem_cons, List.not_mem_nil, or_false] at hf
  rcases hf with rfl | rfl | rfl
  · exact ⟨Layout.caFile, rfl, by decide⟩
  · exact ⟨Layout.routesCertFile, rfl, by decide⟩
  · exact ⟨Layout.routesKeyFile, rfl, by decide⟩

/-- The volumes are the one of the configuration and one for each secret that is named. -/
theorem mem_volumes {v : Volume} : v ∈ volumes id spec ↔
    v = ⟨Layout.configVolume, .configMap id.name⟩ ∨
      (∃ n, spec.serverSecret = some n ∧ v = ⟨Layout.serverTlsVolume, .secret n⟩) ∨
      ∃ n, spec.routesSecret = some n ∧ v = ⟨Layout.routesTlsVolume, .secret n⟩ := by
  simp only [volumes, List.cons_append, List.mem_cons, List.mem_append, List.mem_map,
    Option.mem_toList, eq_comm]

/-- The mounts are of these volumes, at fixed paths and for reading only. -/
theorem mem_mounts {m : VolumeMount} : m ∈ mounts spec ↔
    m = ⟨Layout.configVolume, Layout.configPath, true⟩ ∨
      (∃ n, spec.serverSecret = some n ∧ m = ⟨Layout.serverTlsVolume, Layout.serverTlsPath, true⟩) ∨
      ∃ n, spec.routesSecret = some n ∧ m = ⟨Layout.routesTlsVolume, Layout.routesTlsPath, true⟩ := by
  simp only [mounts, List.cons_append, List.mem_cons, List.mem_append, List.mem_map,
    Option.mem_toList, eq_comm]

/-- Server TLS is configured exactly with a secret to read it from. -/
theorem serverTls_certified (id : Identity) (spec : ClusterSpec) {s : PodSpec}
    (hvolumes : s.volumes = volumes id spec) :
    Certified s (container spec) Layout.serverTlsVolume spec.serverSecret
      (spec.serverSecret.map fun _ => TlsFiles.server) := by
  apply Certified.of_secret
  · intro n hn
    exact hvolumes ▸ mem_volumes.mpr (.inr (.inl ⟨n, hn, rfl⟩))
  · intro v hv hname
    rcases mem_volumes.mp (hvolumes ▸ hv) with rfl | ⟨n, hn, rfl⟩ | ⟨n, -, rfl⟩
    · exact absurd hname (show Layout.configVolume ≠ Layout.serverTlsVolume by decide)
    · exact ⟨n, hn, rfl⟩
    · exact absurd hname (show Layout.routesTlsVolume ≠ Layout.serverTlsVolume by decide)
  · intro n hn
    exact mem_mounts.mpr (.inr (.inl ⟨n, hn, rfl⟩))
  · exact serverFiles_mounted

theorem routesTls_certified (id : Identity) (spec : ClusterSpec) {s : PodSpec}
    (hvolumes : s.volumes = volumes id spec) :
    Certified s (container spec) Layout.routesTlsVolume spec.routesSecret
      (spec.routesSecret.map fun _ => TlsFiles.routes) := by
  apply Certified.of_secret
  · intro n hn
    exact hvolumes ▸ mem_volumes.mpr (.inr (.inr ⟨n, hn, rfl⟩))
  · intro v hv hname
    rcases mem_volumes.mp (hvolumes ▸ hv) with rfl | ⟨n, -, rfl⟩ | ⟨n, hn, rfl⟩
    · exact absurd hname (show Layout.configVolume ≠ Layout.routesTlsVolume by decide)
    · exact absurd hname (show Layout.serverTlsVolume ≠ Layout.routesTlsVolume by decide)
    · exact ⟨n, hn, rfl⟩
  · intro n hn
    exact mem_mounts.mpr (.inr (.inr ⟨n, hn, rfl⟩))
  · exact routesFiles_mounted

/-- Every reference between the objects of a cluster leads where it should, whatever the cluster, its
spec, its routes and the name of the pod. Only the selector that listings carry is read by the platform
from its text, and finds the pods of the cluster if and only if the name of the cluster has no comma. -/
theorem references_resolve (id : Identity) (spec : ClusterSpec) (routes : List String) (name : String) :
    ∃ s c, Linked id spec (.forCluster spec routes) name s c := by
  refine ⟨_, container spec, rfl, rfl, ?_, Platform.selects_pod_iff id spec name, rfl, rfl, ?_, ?_, ?_,
    ?_, serverTls_certified id spec rfl, routesTls_certified id spec rfl, ?_⟩
  · intro service hservice
    simp only [Pass.services, List.mem_cons, List.not_mem_nil, or_false] at hservice
    rcases hservice with rfl | rfl
    · exact selector_label id spec name
    · exact selector_label id spec name
  · exact (mounts_names spec).trans (volumes_names id spec).symm
  · exact (volumes_names id spec).symm ▸ volumeNames_nodup spec
  · exact ⟨_, mem_mounts.mpr (.inl rfl), _, mem_volumes.mpr (.inl rfl), rfl, rfl, rfl,
      Layout.configFile, rfl, by simp [configMap]⟩
  · intro hroutes
    exact ServerConfig.read_render (ServerConfig.forCluster_oneLined spec hroutes)
  · intro m hm
    simp only [List.mem_cons, List.not_mem_nil, or_false] at hm
    rcases hm with rfl | rfl | rfl | rfl <;> exact ⟨rfl, metadata_ownedBy id _ _⟩

def parted : Identity := ⟨"a,b", "default", none⟩

/-- The pod of such a cluster carries the labels of the selector, but the platform does not find it by
the selector's text. -/
theorem comma_not_listed :
    (∀ l ∈ podSelector parted.name, (pod parted {} "a,b-bcdfg").metadata.label? l.1 = some l.2) ∧
      Platform.selects (labelSelector parted.name) (pod parted {} "a,b-bcdfg") = false := by
  refine ⟨selector_label parted {} "a,b-bcdfg", ?_⟩
  have hcomma : ',' ∈ parted.name.toList := by decide
  have hlisted := Platform.selects_pod_iff parted {} "a,b-bcdfg"
  rw [← Bool.not_eq_true, hlisted, not_not]
  exact hcomma

end Manifest
end NatsFleet
