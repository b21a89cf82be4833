import NatsFleet.Proofs.References

/-!
The revision of a spec against the pods that are built from it. The digested bytes tell two specs apart
if and only if their pods differ by more than the label of the version, but for one case: to the digest
a secret with an empty name is no secret, while the pod still has a volume for it.
-/
namespace NatsFleet

namespace ClusterSpec

def texts (s : ClusterSpec) : List String :=
  s.version :: s.serverImage :: (s.serverSecret.toList ++ s.routesSecret.toList)

def ZeroFree (s : ClusterSpec) : Prop := ∀ x ∈ s.texts, '\x00' ∉ x.toList

instance (s : ClusterSpec) : Decidable s.ZeroFree :=
  inferInstanceAs (Decidable (∀ x ∈ s.texts, '\x00' ∉ x.toList))

def Named (s : ClusterSpec) : Prop := s.serverSecret ≠ some "" ∧ s.routesSecret ≠ some ""

instance (s : ClusterSpec) : Decidable s.Named :=
  inferInstanceAs (Decidable (s.serverSecret ≠ some "" ∧ s.routesSecret ≠ some ""))

theorem ZeroFree.image {s : ClusterSpec} (h : s.ZeroFree) : '\x00' ∉ s.image.toList := by
  have hversion := h s.version List.mem_cons_self
  have hserver := h s.serverImage (List.mem_cons_of_mem _ List.mem_cons_self)
  simp only [ClusterSpec.image, String.toList_append, List.mem_append, not_or]
  exact ⟨⟨hserver, by decide⟩, hversion⟩

theorem ZeroFree.serverSecret {s : ClusterSpec} (h : s.ZeroFree) :
    '\x00' ∉ (s.serverSecret.getD "").toList := by
  cases hsecret : s.serverSecret with
  | none => decide
  | some n => exact h n (by simp [texts, hsecret])

end ClusterSpec

namespace Revision

variable {s t : ClusterSpec}

/-! ### The bytes of a text -/

/-- The loop over the bytes gathers those that are left. -/
theorem toList_loop (bytes : ByteArray) (i : Nat) (sofar : List UInt8) :
    ByteArray.toList.loop bytes i sofar = sofar.reverse ++ bytes.data.toList.drop i := by
  induction i, sofar using ByteArray.toList.loop.induct bytes with
  | case1 i sofar hlt ih =>
    have hi : i < bytes.data.toList.length := hlt
    have hget : bytes.get! i = bytes.data.toList[i] := getElem!_pos bytes.data i hlt
    rw [ByteArray.toList.loop, if_pos hlt, ih, List.drop_eq_getElem_cons hi, hget,
      List.reverse_cons, List.append_assoc, List.singleton_append]
  | case2 i sofar hge =>
    have hle : bytes.data.toList.length ≤ i := Nat.le_of_not_lt hge
    rw [ByteArray.toList.loop, if_neg hge, List.drop_of_length_le hle, List.append_nil]

/-- The bytes of a text are those of its characters. -/
theorem toUTF8_toList (x : String) :
    x.toUTF8.toList = x.toList.flatMap String.utf8EncodeChar := by
  have hbytes : x.toUTF8 = (x.toList.flatMap String.utf8EncodeChar).toByteArray :=
    String.utf8Encode_toList.symm
  rw [ByteArray.toList, toList_loop, List.drop_zero, hbytes, List.toList_data_toByteArray]
  rfl

/-- A text is determined by its bytes. -/
theorem toUTF8_toList_inj {x y : String} (h : x.toUTF8.toList = y.toUTF8.toList) : x = y := by
  rw [toUTF8_toList, toUTF8_toList] at h
  have hencoded : x.toList.utf8Encode = y.toList.utf8Encode := congrArg List.toByteArray h
  rw [String.utf8Encode_toList, String.utf8Encode_toList] at hencoded
  exact String.toByteArray_inj.mp hencoded

theorem ofNat_ne_zero {n : Nat} (hpos : 0 < n) (hlt : n < 256) : (0 : UInt8) ≠ UInt8.ofNat n := by
  intro h
  have htoNat := congrArg UInt8.toNat h
  rw [UInt8.toNat_ofNat_of_lt' hlt] at htoNat
  exact absurd htoNat (by simpa using Nat.ne_of_lt hpos)

/-- Only the zero character has a zero byte. -/
theorem zero_not_mem_utf8EncodeChar {c : Char} (h : c ≠ '\x00') :
    (0 : UInt8) ∉ String.utf8EncodeChar c := by
  have hpos : 0 < c.val.toNat := by
    refine Nat.pos_of_ne_zero fun hzero => h ?_
    exact Char.ext (UInt32.toNat_inj.mp hzero)
  have hlater (m : Nat) : (0 : UInt8) ≠ UInt8.ofNat (m % 64 + 128) :=
    ofNat_ne_zero (by omega) (by omega)
  unfold String.utf8EncodeChar
  dsimp only
  -- A byte of its own, or a first byte and one to three later ones.
  split_ifs with h₁ h₂ h₃ <;> simp only [List.mem_cons, List.not_mem_nil, or_false, not_or]
  · exact ofNat_ne_zero hpos (by omega)
  · exact ⟨ofNat_ne_zero (by omega) (by omega), hlater _⟩
  · exact ⟨ofNat_ne_zero (by omega) (by omega), hlater _, hlater _⟩
  · exact ⟨ofNat_ne_zero (by omega) (by omega), hlater _, hlater _, hlater _⟩

/-- Only the character zero has a byte that is zero. -/
theorem zero_not_mem_toUTF8 {x : String} (h : '\x00' ∉ x.toList) : (0 : UInt8) ∉ x.toUTF8.toList := by
  rw [toUTF8_toList, List.mem_flatMap]
  rintro ⟨c, hc, hzero⟩
  have hne : c ≠ '\x00' := fun heq => h (heq ▸ hc)
  exact zero_not_mem_utf8EncodeChar hne hzero

/-! ### The digested bytes -/

/-- What stands before the first zero byte, and what comes after it. -/
theorem append_zero_inj {a b c d : List UInt8} (ha : 0 ∉ a) (hb : 0 ∉ b)
    (h : a ++ 0 :: c = b ++ 0 :: d) : a = b ∧ c = d := by
  have hlength : a.length = b.length := by
    have hfirst := congrArg (List.idxOf 0) h
    rwa [List.idxOf_append_of_notMem ha, List.idxOf_append_of_notMem hb, List.idxOf_cons_self,
      List.idxOf_cons_self] at hfirst
  obtain ⟨hab, hcd⟩ := List.append_inj h hlength
  exact ⟨hab, (List.cons.inj hcd).2⟩

/-- The digested bytes tell apart the images and the names of the secrets, where an empty name stands for
no secret. -/
theorem preimage_eq_iff (hs : s.ZeroFree) (ht : t.ZeroFree) :
    preimage s = preimage t ↔ s.image = t.image ∧
      s.serverSecret.getD "" = t.serverSecret.getD "" ∧
        s.routesSecret.getD "" = t.routesSecret.getD "" := by
  constructor
  · intro h
    simp only [preimage, List.append_assoc, List.cons_append] at h
    obtain ⟨himage, hrest⟩ :=
      append_zero_inj (zero_not_mem_toUTF8 hs.image) (zero_not_mem_toUTF8 ht.image) h
    obtain ⟨hserver, hroutes⟩ :=
      append_zero_inj (zero_not_mem_toUTF8 hs.serverSecret) (zero_not_mem_toUTF8 ht.serverSecret) hrest
    exact ⟨toUTF8_toList_inj himage, toUTF8_toList_inj hserver, toUTF8_toList_inj hroutes⟩
  · rintro ⟨himage, hserver, hroutes⟩
    rw [preimage, himage, hserver, hroutes]
    rfl

end Revision

def Pod.withoutLabel (p : Pod) (name : String) : Pod :=
  { p with metadata :=
      { p.metadata with labels := p.metadata.labels.map fun l => l.filter fun e => e.1 ≠ name } }

namespace Manifest

variable {s t : ClusterSpec}

/-- Two specs give the same pod, apart from the label of the version. -/
def SamePod (id : Identity) (s t : ClusterSpec) (name : String) : Prop :=
  (pod id s name).withoutLabel Layout.versionLabel = (pod id t name).withoutLabel Layout.versionLabel

/-- The labels of a pod, in their order. -/
theorem podLabels_eq (cluster : String) (spec : ClusterSpec) :
    podLabels cluster spec = [(Layout.appLabel, Layout.appValue), (Layout.clusterLabel, cluster),
      (Layout.revisionLabel, Revision.ofSpec spec), (Layout.versionLabel, spec.version)] := by
  rfl

/-- The volumes for secrets are those of the two listeners. -/
theorem secret_mem_volumes (id : Identity) {volume n : String} :
    ⟨volume, .secret n⟩ ∈ volumes id s ↔
      (volume = Layout.serverTlsVolume ∧ s.serverSecret = some n) ∨
        (volume = Layout.routesTlsVolume ∧ s.routesSecret = some n) := by
  rw [mem_volumes]
  constructor
  · rintro (h | ⟨m, hm, h⟩ | ⟨m, hm, h⟩)
    · cases h
    · cases h
      exact .inl ⟨rfl, hm⟩
    · cases h
      exact .inr ⟨rfl, hm⟩
  · rintro (⟨rfl, h⟩ | ⟨rfl, h⟩)
    · exact .inr (.inl ⟨n, h, rfl⟩)
    · exact .inr (.inr ⟨n, h, rfl⟩)

/-- The volumes of a pod show its secrets. -/
theorem volumes_inj (id : Identity) (h : volumes id s = volumes id t) :
    s.serverSecret = t.serverSecret ∧ s.routesSecret = t.routesSecret := by
  have hsecrets (volume n : String) :
      ⟨volume, .secret n⟩ ∈ volumes id s ↔ ⟨volume, .secret n⟩ ∈ volumes id t := by rw [h]
  simp only [secret_mem_volumes] at hsecrets
  have hnames : Layout.serverTlsVolume ≠ Layout.routesTlsVolume := by decide
  constructor
  · refine Option.ext fun n => ?_
    simpa [hnames] using hsecrets Layout.serverTlsVolume n
  · refine Option.ext fun n => ?_
    simpa [hnames.symm] using hsecrets Layout.routesTlsVolume n

/-- Without the version only the revision depends on the spec. -/
theorem labels_withoutVersion (cluster : String) (spec : ClusterSpec) :
    (podLabels cluster spec).filter (fun e => e.1 ≠ Layout.versionLabel) =
      podSelector cluster ++ [(Layout.revisionLabel, Revision.ofSpec spec)] := by
  rw [podLabels_eq]
  rfl

/-- A pod is made from the image and the secrets of its spec. -/
theorem samePod_iff (id : Identity) (s t : ClusterSpec) (name : String) :
    SamePod id s t name ↔
      s.image = t.image ∧ s.serverSecret = t.serverSecret ∧ s.routesSecret = t.routesSecret := by
  constructor
  · intro h
    have hspec := Option.some.inj (congrArg Pod.spec h)
    have hcontainer := (List.cons.inj (congrArg PodSpec.containers hspec)).1
    exact ⟨congrArg Container.image hcontainer, volumes_inj id (congrArg PodSpec.volumes hspec)⟩
  · rintro ⟨himage, hserver, hroutes⟩
    have hrevision : Revision.ofSpec s = Revision.ofSpec t := by
      rw [Revision.ofSpec, Revision.preimage, himage, hserver, hroutes]
      rfl
    have hcontainer : container s = container t := by
      rw [container, mounts, himage, hserver, hroutes]
      rfl
    have hvolumes : volumes id s = volumes id t := by
      rw [volumes, hserver, hroutes]
      rfl
    simp only [SamePod, Pod.withoutLabel, pod, metadata, Option.map_some, labels_withoutVersion,
      hrevision, hcontainer, hvolumes]

theorem eq_iff_getD {a b : Option String} :
    a = b ↔ a.getD "" = b.getD "" ∧ a.isSome = b.isSome := by
  cases a <;> cases b <;> simp

/-- Apart from an empty name the default hides nothing. -/
theorem getD_inj {a b : Option String} (ha : a ≠ some "") (hb : b ≠ some "") :
    a.getD "" = b.getD "" ↔ a = b := by
  cases a <;> cases b <;> simp_all [eq_comm]

/-- Two specs without zero characters are digested from the same bytes if and only if they give the same
pods apart from the label of the version, unless one of them has a secret with an empty name where the
other has none. Different bytes always mean different images or volumes. -/
theorem digest_tracks_pods (hs : s.ZeroFree) (ht : t.ZeroFree) (id : Identity) (name : String) :
    (SamePod id s t name ↔ Revision.preimage s = Revision.preimage t ∧
        s.serverSecret.isSome = t.serverSecret.isSome ∧
          s.routesSecret.isSome = t.routesSecret.isSome) ∧
      (s.Named → t.Named →
        (Revision.preimage s = Revision.preimage t ↔ SamePod id s t name)) ∧
      (Revision.preimage s ≠ Revision.preimage t →
        ∃ p q, (pod id s name).spec = some p ∧ (pod id t name).spec = some q ∧
          (p.containers.map (·.image) ≠ q.containers.map (·.image) ∨ p.volumes ≠ q.volumes)) := by
  have hpreimage := Revision.preimage_eq_iff hs ht
  have hsame := samePod_iff id s t name
  refine ⟨?_, ?_, ?_⟩
  · rw [hsame, hpreimage, eq_iff_getD (a := s.serverSecret), eq_iff_getD (a := s.routesSecret)]
    tauto
  · intro hnamed hnamed'
    rw [hpreimage, hsame, getD_inj hnamed.1 hnamed'.1, getD_inj hnamed.2 hnamed'.2]
  · intro hne
    refine ⟨_, _, rfl, rfl, ?_⟩
    by_contra hagree
    rw [not_or, not_not, not_not] at hagree
    obtain ⟨hserver, hroutes⟩ := volumes_inj id hagree.2
    refine hne (hpreimage.mpr ⟨(List.cons.inj hagree.1).1, ?_, ?_⟩)
    · rw [hserver]
    · rw [hroutes]

def unnamed : ClusterSpec := { tls := some { server := some "" } }

/-- The digest does not tell it from a spec without secrets, yet its pods have one volume more. -/
theorem unnamed_overlooked :
    ClusterSpec.ZeroFree {} ∧ unnamed.ZeroFree ∧ Revision.preimage {} = Revision.preimage unnamed ∧
      ¬ SamePod ⟨"demo", "default", none⟩ {} unnamed "demo-bcdfg" := by
  refine ⟨by decide, by decide, rfl, ?_⟩
  rw [samePod_iff]
  decide

def tagged : ClusterSpec := { serverImage := "nats", version := "2:alpine" }

def retagged : ClusterSpec := { serverImage := "nats:2", version := "alpine" }

def secured : ClusterSpec := { tls := some { server := some "certs" } }

theorem digest_tracks_pods_tagged :
    (tagged.version ≠ retagged.version ∧
        SamePod ⟨"demo", "default", none⟩ tagged retagged "demo-bcdfg") ∧
      ∃ p q, (pod ⟨"demo", "default", none⟩ {} "demo-bcdfg").spec = some p ∧
        (pod ⟨"demo", "default", none⟩ secured "demo-bcdfg").spec = some q ∧
          (p.containers.map (·.image) ≠ q.containers.map (·.image) ∨ p.volumes ≠ q.volumes) := by
  have htagged : Revision.preimage tagged = Revision.preimage retagged := by
    rw [Revision.preimage_eq_iff (by decide) (by decide)]
    decide
  have hsecured : Revision.preimage {} ≠ Revision.preimage secured := by
    rw [Ne, Revision.preimage_eq_iff (by decide) (by decide)]
    decide
  exact ⟨⟨by decide, ((digest_tracks_pods (by decide) (by decide) _ _).2.1 (by decide) (by decide)).mp
    htagged⟩, (digest_tracks_pods (by decide) (by decide) _ _).2.2 hsecured⟩

end Manifest
end NatsFleet
