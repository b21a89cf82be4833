import NatsFleet.Proofs.Alone

/-!
How far a pass has got. At any moment after the pods are listed, what it has asked for and what it
still has to ask for make up its plan, whatever came back so far.
-/
namespace NatsFleet.Pass

namespace Stage

def isRemoving : Stage → Bool
  | .removing _ _ _ => true
  | _ => false

def hasNames : Stage → Bool
  | .configuring _ | .creating _ _ _ | .publishing _ | .finished => true
  | _ => false

def hasCreated : Stage → Bool
  | .publishing _ | .finished => true
  | _ => false

end Stage

/-- All that a pass has asked for by the time it stands at a stage, the request there included. -/
def asked (id : Identity) (answers : List Answered) (stage : Stage) : List Request :=
  answers.map (·.request) ++ (stage.request? id).toList

structure Asks (requests : List Request) (deleted : List String) (written : List ConfigMap)
    (created : List Pod) : Prop where
  deleted : requests.filterMap Request.deletes? = deleted
  written : requests.filterMap Request.writes? = written
  created : requests.filterMap Request.creates? = created

/-- What a pass goes by once the pods are listed. -/
structure Outset where
  id : Identity
  spec : ClusterSpec
  listed : List Pod
  -- What the controller remembered from the pass before.
  memory : Memory

namespace Outset

def plan (o : Outset) : Plan := .ofListing o.id o.spec o.listed

def removed (o : Outset) : List String := o.plan.removals.map Removal.name

def written (o : Outset) (w : Work) : List ConfigMap :=
  if o.memory.config = some (config o.id w).render then []
  else [Manifest.configMap o.id o.spec (config o.id w)]

def created (o : Outset) (names : List String) : List Pod := names.map (Manifest.pod o.id o.spec)

def records (o : Outset) (answers : List Answered) : List PodRecord :=
  recordsAfter o.id (keptRecords o.plan) answers

structure Names (o : Outset) (fuel : Nat) (w : Work) : Prop where
  spec : w.spec = o.spec
  plan : w.plan = o.plan
  planned : ∃ draws draws', Naming.plan o.id.name fuel o.plan.keptNames (o.plan.shortfall o.spec) draws =
    some (w.planned, draws')

/-- The pods have been asked to be removed, and this much else has come back. -/
def Past (o : Outset) (answers : List Answered) (written : List ConfigMap) (created : List Pod) : Prop :=
  Asks (answers.map (·.request)) o.removed written created

/-- Where a pass stands after its listing: each removal, the configuration and each creation has come
back, or is among what the stage is still to ask for. -/
def Reached (o : Outset) (fuel : Nat) (answers : List Answered) (m : Memory) : Stage → Prop
  | .services _ | .listing _ | .removing _ _ [] | .creating _ [] _ => False
  | .removing spec plan (r :: todo) => spec = o.spec ∧ plan = o.plan ∧ m = o.memory ∧
      ∃ gone, o.plan.removals = gone ++ r :: todo ∧
        Asks (answers.map (·.request)) (gone.map Removal.name) [] []
  | .naming => m = o.memory ∧ o.Past answers [] []
  | .configuring w => o.Names fuel w ∧ m = o.memory ∧
      o.memory.config ≠ some (config o.id w).render ∧ o.Past answers [] []
  | .creating w (name :: todo) records => o.Names fuel w ∧ m.pods = o.memory.pods ∧
      records = o.records answers ∧ ∃ made, w.planned = made ++ name :: todo ∧
        o.Past answers (o.written w) (o.created made)
  | .publishing _ | .finished => ∃ w, o.Names fuel w ∧ m.pods = o.records answers ∧
      o.Past answers (o.written w) (o.created w.planned)

end Outset

variable {id : Identity} {fuel : Nat} {o : Outset} {answers front : List Answered} {a : Answered}
  {m m' : Memory} {stage stage' : Stage} {w : Work} {d : Desk}

theorem map_request_snoc {q : Request} (answers : List Answered) (h : a.request = q) :
    (answers ++ [a]).map (·.request) = answers.map (·.request) ++ [q] := by
  rw [List.map_append, ← h]
  rfl

namespace Asks

variable {requests : List Request} {deleted : List String} {written : List ConfigMap}
  {created : List Pod}

/-- One more request adds what it asks for. -/
theorem snoc (h : Asks requests deleted written created) (q : Request) :
    Asks (requests ++ [q]) (deleted ++ q.deletes?.toList) (written ++ q.writes?.toList)
      (created ++ q.creates?.toList) := by
  obtain ⟨rfl, rfl, rfl⟩ := h
  have hsnoc {α : Type} (f : Request → Option α) : (requests ++ [q]).filterMap f =
      requests.filterMap f ++ (f q).toList := List.filterMap_append
  exact ⟨hsnoc _, hsnoc _, hsnoc _⟩

theorem delete (h : Asks requests deleted written created) (name : String) :
    Asks (requests ++ [.deletePod name]) (deleted ++ [name]) written created := by
  simpa [Request.deletes?, Request.writes?, Request.creates?] using h.snoc (.deletePod name)

theorem write (h : Asks requests deleted written created) (config : ConfigMap) :
    Asks (requests ++ [.applyConfigMap config]) deleted (written ++ [config]) created := by
  simpa [Request.deletes?, Request.writes?, Request.creates?] using h.snoc (.applyConfigMap config)

theorem create (h : Asks requests deleted written created) (pod : Pod) :
    Asks (requests ++ [.createPod pod]) deleted written (created ++ [pod]) := by
  simpa [Request.deletes?, Request.writes?, Request.creates?] using h.snoc (.createPod pod)

theorem publish (h : Asks requests deleted written created) (name : String) (s : ClusterStatus) :
    Asks (requests ++ [.patchStatus name s]) deleted written created := by
  simpa [Request.deletes?, Request.writes?, Request.creates?] using h.snoc (.patchStatus name s)

end Asks

theorem created?_eq_none (h : a.request.creates? = none) : a.created? = none := by
  unfold Answered.created?
  cases hrequest : a.request with
  | createPod pod =>
    rw [hrequest] at h
    cases h
  | _ => rfl

theorem recordsAfter_snoc (records : List PodRecord) (answers : List Answered) (a : Answered) :
    recordsAfter id records (answers ++ [a]) =
      a.created?.elim (recordsAfter id records answers) fun name =>
        putRecord (newRecord id name) (recordsAfter id records answers) := by
  unfold recordsAfter
  rw [List.filterMap_append, List.foldl_append]
  cases h : a.created? <;> simp [h]

/-- Records are added for creations only. -/
theorem Outset.records_snoc (h : a.request.creates? = none) :
    o.records (answers ++ [a]) = o.records answers := by
  rw [records, recordsAfter_snoc, created?_eq_none h]
  rfl

/-- As long as no pod has been asked for, the records are those of the kept ones. -/
theorem Outset.records_of_none (h : creations answers = []) :
    o.records answers = keptRecords o.plan := by
  have hnone : answers.filterMap Answered.created? = [] := by
    rw [List.filterMap_eq_nil_iff]
    intro a ha
    exact created?_eq_none (List.filterMap_eq_nil_iff.mp h _ (List.mem_map_of_mem ha))
  rw [records, recordsAfter, hnone]
  rfl

namespace Outset

/-- The write that a pass asks for is the one of its configuration. -/
theorem Names.written_of_ne (hw : o.Names fuel w)
    (hnew : o.memory.config ≠ some (config o.id w).render) :
    o.written w = [Manifest.configMap o.id w.spec (config o.id w)] := by
  rw [written, if_neg hnew, hw.spec]

/-- Then the status is published, unless it says nothing new. -/
theorem conclude_reached (hw : o.Names fuel w)
    (hasks : o.Past answers (o.written w) (o.created w.planned)) :
    o.Reached fuel answers (conclude w (o.records answers) d).2.memory
      (conclude w (o.records answers) d).1 := by
  rw [conclude_eq]
  dsimp only
  split <;> exact ⟨w, hw, rfl, hasks⟩

/-- Then the pods are asked for in the order of their names. -/
theorem create_reached {made todo : List String} (hw : o.Names fuel w)
    (hmemory : d.memory.pods = o.memory.pods) (hplanned : w.planned = made ++ todo)
    (hasks : o.Past answers (o.written w) (o.created made)) :
    o.Reached fuel answers (create w todo (o.records answers) d).2.memory
      (create w todo (o.records answers) d).1 := by
  cases todo with
  | nil =>
    rw [List.append_nil] at hplanned
    rw [← hplanned] at hasks
    exact conclude_reached hw hasks
  | cons name todo => exact ⟨hw, hmemory, rfl, made, hplanned, hasks⟩

/-- Once names are planned, the configuration is written unless it is remembered. -/
theorem configure_reached (hw : o.Names fuel w) (hmemory : d.memory = o.memory)
    (hasks : o.Past answers [] []) :
    o.Reached fuel answers (configure o.id w d).2.memory (configure o.id w d).1 := by
  unfold configure
  rw [hmemory]
  split
  · rename_i hsame
    -- What is remembered need not be written.
    have hwritten : o.written w = [] := if_pos hsame
    rw [hw.plan, ← records_of_none hasks.created]
    exact create_reached hw (congrArg Memory.pods hmemory) (List.nil_append _).symm (hwritten ▸ hasks)
  · rename_i hnew
    exact ⟨hw, hmemory, hnew, hasks⟩

/-- Once the removals are through, names are planned. -/
theorem name_reached (hmemory : d.memory = o.memory) (hasks : o.Past answers [] []) :
    o.Reached fuel answers (name o.id fuel o.spec o.plan d).2.memory
      (name o.id fuel o.spec o.plan d).1 := by
  unfold name
  split
  · exact ⟨hmemory, hasks⟩
  · rename_i planned draws hplanned
    have hw : o.Names fuel ⟨o.spec, o.plan, planned⟩ := ⟨rfl, rfl, _, _, hplanned⟩
    exact configure_reached hw hmemory hasks

/-- A pass that goes on with its removals has asked for those before them. -/
theorem remove_reached {gone todo : List Removal} (hmemory : d.memory = o.memory)
    (hremovals : o.plan.removals = gone ++ todo)
    (hasks : Asks (answers.map (·.request)) (gone.map Removal.name) [] []) :
    o.Reached fuel answers (remove o.id fuel o.spec o.plan todo d).2.memory
      (remove o.id fuel o.spec o.plan todo d).1 := by
  cases todo with
  | nil =>
    rw [List.append_nil] at hremovals
    rw [← hremovals] at hasks
    exact name_reached hmemory hasks
  | cons r todo => exact ⟨rfl, rfl, hmemory, gone, hremovals, hasks⟩

/-- The reply to a write of the configuration, whatever it is, is followed by the creations. -/
theorem configuring_reached (hw : o.Names fuel w) (hmemory : a.desk.memory = o.memory)
    (hnew : o.memory.config ≠ some (config o.id w).render)
    (hasks : o.Past answers [] [])
    (hrequest : a.request = .applyConfigMap (Manifest.configMap o.id w.spec (config o.id w))) :
    o.Reached fuel (answers ++ [a]) (resume o.id fuel (.configuring w) a.reply a.desk).2.memory
      (resume o.id fuel (.configuring w) a.reply a.desk).1 := by
  have hnext : ∃ d', resume o.id fuel (.configuring w) a.reply a.desk =
      create w w.planned (keptRecords w.plan) d' ∧ d'.memory.pods = a.desk.memory.pods := by
    cases a.reply <;> exact ⟨_, rfl, rfl⟩
  obtain ⟨d', hnext, hpods⟩ := hnext
  have hasks' : o.Past (answers ++ [a]) (o.written w) (o.created []) := by
    rw [hw.written_of_ne hnew, Past, map_request_snoc answers hrequest]
    exact hasks.write _
  rw [hnext, hw.plan, ← records_of_none hasks'.created]
  exact create_reached hw (hpods.trans (congrArg Memory.pods hmemory)) (List.nil_append _).symm hasks'

/-- The reply to a creation, whatever it is, is followed by the next one. -/
theorem creating_reached {name : String} {made todo : List String} (hw : o.Names fuel w)
    (hmemory : a.desk.memory.pods = o.memory.pods) (hplanned : w.planned = made ++ name :: todo)
    (hasks : o.Past answers (o.written w) (o.created made))
    (hrequest : a.request = .createPod (Manifest.pod o.id w.spec name)) :
    o.Reached fuel (answers ++ [a])
      (resume o.id fuel (.creating w (name :: todo) (o.records answers)) a.reply a.desk).2.memory
      (resume o.id fuel (.creating w (name :: todo) (o.records answers)) a.reply a.desk).1 := by
  obtain ⟨d', hnext, hmemory', -⟩ := resume_creating fuel todo (o.records answers) hrequest
  have hasks' : o.Past (answers ++ [a]) (o.written w) (o.created (made ++ [name])) := by
    rw [Past, map_request_snoc answers hrequest, hw.spec, created, List.map_append]
    exact hasks.create _
  have hpods : d'.memory.pods = o.memory.pods := (congrArg Memory.pods hmemory').trans hmemory
  have hplanned' : w.planned = made ++ [name] ++ todo := hplanned.trans (List.append_cons made name todo)
  have hrecords : (a.created?.elim (o.records answers) fun name =>
      putRecord (newRecord o.id name) (o.records answers)) = o.records (answers ++ [a]) :=
    (recordsAfter_snoc (keptRecords o.plan) answers a).symm
  rw [hnext, hrecords]
  exact create_reached hw hpods hplanned' hasks'

/-- The reply to a removal, whatever it is, is followed by the next one. -/
theorem removing_reached {r : Removal} {gone todo : List Removal} (hmemory : a.desk.memory = o.memory)
    (hremovals : o.plan.removals = gone ++ r :: todo)
    (hasks : Asks (answers.map (·.request)) (gone.map Removal.name) [] [])
    (hrequest : a.request = .deletePod r.name) :
    o.Reached fuel (answers ++ [a])
      (resume o.id fuel (.removing o.spec o.plan (r :: todo)) a.reply a.desk).2.memory
      (resume o.id fuel (.removing o.spec o.plan (r :: todo)) a.reply a.desk).1 := by
  have hnext : ∃ d', resume o.id fuel (.removing o.spec o.plan (r :: todo)) a.reply a.desk =
      remove o.id fuel o.spec o.plan todo d' ∧ d'.memory = a.desk.memory := by
    cases a.reply <;> exact ⟨_, rfl, rfl⟩
  obtain ⟨d', hnext, hmemory'⟩ := hnext
  have hasks' : Asks ((answers ++ [a]).map (·.request)) ((gone ++ [r]).map Removal.name) [] [] := by
    rw [map_request_snoc answers hrequest, List.map_append]
    exact hasks.delete r.name
  rw [hnext]
  exact remove_reached (hmemory'.trans hmemory) (hremovals.trans (List.append_cons gone r todo)) hasks'

/-- A publication is no creation, and leaves the pods as they are remembered. -/
theorem publishing_reached {s : ClusterStatus} (hw : o.Names fuel w)
    (hpods : a.desk.memory.pods = o.records answers)
    (hasks : o.Past answers (o.written w) (o.created w.planned))
    (hrequest : a.request = .patchStatus o.id.name s) :
    o.Reached fuel (answers ++ [a]) (resume o.id fuel (.publishing s) a.reply a.desk).2.memory
      (resume o.id fuel (.publishing s) a.reply a.desk).1 := by
  have hpods' : (resume o.id fuel (.publishing s) a.reply a.desk).2.memory.pods =
      o.records (answers ++ [a]) := by
    rw [records_snoc (by rw [hrequest]; rfl), ← hpods]
    cases a.reply <;> rfl
  have hasks' : o.Past (answers ++ [a]) (o.written w) (o.created w.planned) := by
    rw [Past, map_request_snoc answers hrequest]
    exact hasks.publish _ _
  have hstage : (resume o.id fuel (.publishing s) a.reply a.desk).1 = .finished := by
    cases a.reply <;> rfl
  rw [hstage]
  exact ⟨w, hw, hpods', hasks'⟩

/-- Whatever comes back, a pass goes on in its plan. -/
theorem Reached.resume (h : o.Reached fuel answers m stage)
    (hrequest : stage.request? o.id = some a.request) (hmemory : a.desk.memory = m) :
    o.Reached fuel (answers ++ [a]) (resume o.id fuel stage a.reply a.desk).2.memory
      (resume o.id fuel stage a.reply a.desk).1 := by
  subst hmemory
  cases stage with
  | services todo => cases h
  | listing spec => cases h
  | removing spec plan todo =>
    cases todo with
    | nil => cases h
    | cons r todo =>
      obtain ⟨rfl, rfl, hmemory, gone, hremovals, hasks⟩ := h
      exact removing_reached hmemory hremovals hasks (Option.some.inj hrequest).symm
  | naming => cases hrequest
  | configuring w =>
    obtain ⟨hw, hmemory, hnew, hasks⟩ := h
    exact configuring_reached hw hmemory hnew hasks (Option.some.inj hrequest).symm
  | creating w todo records =>
    cases todo with
    | nil => cases h
    | cons name todo =>
      obtain ⟨hw, hmemory, rfl, made, hplanned, hasks⟩ := h
      exact creating_reached hw hmemory hplanned hasks (Option.some.inj hrequest).symm
  | publishing s =>
    obtain ⟨w, hw, hpods, hasks⟩ := h
    exact publishing_reached hw hpods hasks (Option.some.inj hrequest).symm
  | finished => cases hrequest

/-- Wherever a pass gets, it has asked for what lies before. -/
theorem Reached.runs (h : o.Reached fuel front m stage)
    (hruns : Runs o.id fuel stage m answers stage' m') :
    o.Reached fuel (front ++ answers) m' stage' := by
  -- The induction is on what comes back; `front` is what has come back before.
  induction hruns generalizing front with
  | refl stage m =>
    rw [List.append_nil]
    exact h
  | reply hrequest hmemory hrest ih =>
    rw [List.append_cons]
    exact ih (h.resume hrequest hmemory)

inductive Stands (o : Outset) (fuel : Nat) (answers : List Answered) (stage : Stage) :
    Memory → Prop
  | removing {deleted : List String} (hstage : stage.isRemoving = true ∧ stage.hasNames = false)
      (hasks : Asks (asked o.id answers stage) deleted [] []) (hdeleted : deleted <+: o.removed) :
      Stands o fuel answers stage o.memory
  | naming (hstage : stage.hasNames = false) (hasks : Asks (asked o.id answers stage) o.removed [] []) :
      Stands o fuel answers stage o.memory
  | creating {created : List Pod} {m : Memory} (w : Work) (hw : o.Names fuel w)
      (hstage : stage.hasNames = true ∧ stage.hasCreated = false)
      (hasks : Asks (asked o.id answers stage) o.removed (o.written w) created)
      (hcreated : created <+: o.created w.planned) (hpods : m.pods = o.memory.pods) :
      Stands o fuel answers stage m
  | created {m : Memory} (w : Work) (hw : o.Names fuel w)
      (hstage : stage.hasNames = true ∧ stage.hasCreated = true)
      (hasks : Asks (asked o.id answers stage) o.removed (o.written w) (o.created w.planned))
      (hpods : m.pods = o.records answers) : Stands o fuel answers stage m

/-- A stage without a request has asked for no more than what came back. -/
theorem asked_of_none (hrequest : stage.request? id = none) :
    asked id answers stage = answers.map (·.request) := by
  rw [asked, hrequest]
  exact List.append_nil _

theorem prefix_asked (id : Identity) (answers : List Answered) (stage : Stage) :
    answers.map (·.request) <+: asked id answers stage := List.prefix_append _ _

/-- A pass that asks for nothing more is over, or it looks for names without end. -/
theorem Reached.stops (h : o.Reached fuel answers m stage) (hrequest : stage.request? o.id = none) :
    stage = .finished ∨ stage = .naming := by
  cases stage with
  | services todo => cases h
  | listing spec => cases h
  | removing spec plan todo => cases todo <;> [cases h; cases hrequest]
  | naming => exact .inr rfl
  | configuring w => cases hrequest
  | creating w todo records => cases todo <;> [cases h; cases hrequest]
  | publishing s => cases hrequest
  | finished => exact .inl rfl

theorem Reached.stands (h : o.Reached fuel answers m stage) : o.Stands fuel answers stage m := by
  cases stage with
  | services todo => cases h
  | listing spec => cases h
  | removing spec plan todo =>
    cases todo with
    | nil => cases h
    | cons r todo =>
      obtain ⟨rfl, rfl, rfl, gone, hremovals, hasks⟩ := h
      have hremoved : o.removed = gone.map Removal.name ++ [r.name] ++ todo.map Removal.name := by
        rw [removed, hremovals, List.map_append, List.map_cons, List.append_cons]
      exact .removing ⟨rfl, rfl⟩ (hasks.delete r.name) (hremoved ▸ List.prefix_append _ _)
  | naming =>
    obtain ⟨rfl, hasks⟩ := h
    exact .naming rfl (by rwa [asked_of_none rfl])
  | configuring w =>
    obtain ⟨hw, rfl, hnew, hasks⟩ := h
    have hnext := hasks.write (Manifest.configMap o.id w.spec (config o.id w))
    rw [List.nil_append, ← hw.written_of_ne hnew] at hnext
    exact .creating w hw ⟨rfl, rfl⟩ hnext List.nil_prefix rfl
  | creating w todo records =>
    cases todo with
    | nil => cases h
    | cons name todo =>
      obtain ⟨hw, hpods, rfl, made, hplanned, hasks⟩ := h
      have hnext := hasks.create (Manifest.pod o.id w.spec name)
      have hsplit : o.created w.planned =
          o.created made ++ [Manifest.pod o.id w.spec name] ++ o.created todo := by
        rw [created, hplanned, List.map_append, List.map_cons, List.append_cons, hw.spec]
        rfl
      exact .creating w hw ⟨rfl, rfl⟩ hnext (hsplit ▸ List.prefix_append _ _) hpods
  | publishing s =>
    obtain ⟨w, hw, hpods, hasks⟩ := h
    exact .created w hw ⟨rfl, rfl⟩ (hasks.publish _ _) hpods
  | finished =>
    obtain ⟨w, hw, hpods, hasks⟩ := h
    refine .created w hw ⟨rfl, rfl⟩ ?_ hpods
    rw [asked_of_none rfl]
    exact hasks

/-- Once there are names, a pass has asked for what they make necessary. -/
theorem Stands.named (h : o.Stands fuel answers stage m) (hstage : stage.hasNames = true) :
    ∃ w, o.Names fuel w ∧ (asked o.id answers stage).filterMap Request.writes? = o.written w ∧
      (asked o.id answers stage).filterMap Request.creates? <+: o.created w.planned ∧
      (stage.hasCreated = true →
        (asked o.id answers stage).filterMap Request.creates? = o.created w.planned) ∧
      m.pods = if stage.hasCreated then o.records answers else o.memory.pods := by
  cases h with
  | removing hstage' hasks hdeleted =>
    rw [hstage'.2] at hstage
    cases hstage
  | naming hstage' hasks =>
    rw [hstage'] at hstage
    cases hstage
  | creating w hw hstage' hasks hcreated hpods =>
    rw [hstage'.2]
    exact ⟨w, hw, hasks.written, hasks.created ▸ hcreated, by rintro ⟨⟩, hpods⟩
  | created w hw hstage' hasks hpods =>
    rw [hstage'.2]
    exact ⟨w, hw, hasks.written, hasks.created ▸ List.prefix_rfl, fun _ => hasks.created, hpods⟩

end Outset

variable {spec : ClusterSpec} {b c : Answered} {listed : List Pod}

/-- The third reply of a pass is to its listing, for which the spec is read anew. -/
theorem runs_listing (h : Runs id fuel (start id spec) m (a :: b :: c :: answers) stage m') :
    ([a, b, c].map (·.request) = (services id spec).map .createService ++
        [.listPods (Manifest.labelSelector id.name)]) ∧ c.desk.memory = m ∧
      Runs id fuel (resume id fuel (.listing b.desk.spec) c.reply c.desk).1
        (resume id fuel (.listing b.desk.spec) c.reply c.desk).2.memory answers stage m' := by
  cases h with
  | reply ha hmemory hrest =>
    cases hrest with
    | reply hb hmemory' hrest =>
      cases hrest with
      | reply hc hmemory'' hrest =>
        have hrequests : [a, b, c].map (·.request) = (services id spec).map .createService ++
            [.listPods (Manifest.labelSelector id.name)] := by
          rw [List.map_cons, List.map_cons, List.map_cons, ← Option.some.inj ha,
            ← Option.some.inj hb, ← Option.some.inj hc]
          rfl
        exact ⟨hrequests, hmemory''.trans (hmemory'.trans hmemory), hrest⟩

/-- A pass that has got past its listing, wherever it stands and whatever came back. -/
theorem runs_reached (h : Runs id fuel (start id spec) m (a :: b :: c :: answers) stage m')
    (hlisted : c.reply = .ok listed) :
    Outset.Reached ⟨id, b.desk.spec, listed, m⟩ fuel (a :: b :: c :: answers) m' stage := by
  obtain ⟨hrequests, hmemory, hrest⟩ := runs_listing h
  have hasks : Asks ([a, b, c].map (·.request)) [] [] [] := by
    rw [hrequests]
    exact ⟨rfl, rfl, rfl⟩
  let o : Outset := ⟨id, b.desk.spec, listed, m⟩
  have hreached : o.Reached fuel [a, b, c] (remove id fuel o.spec o.plan o.plan.removals c.desk).2.memory
      (remove id fuel o.spec o.plan o.plan.removals c.desk).1 :=
    Outset.remove_reached hmemory (List.nil_append _).symm hasks
  rw [hlisted] at hrest
  exact hreached.runs hrest

/-- A pass whose listing fails asks for nothing else, and forgets nothing. -/
theorem runs_unlisted (h : Runs id fuel (start id spec) m (a :: b :: c :: answers) stage m')
    {e : Failure} (hfailed : c.reply = .error e) : answers = [] ∧ stage = .finished ∧ m' = m := by
  obtain ⟨-, rfl, hrest⟩ := runs_listing h
  rw [hfailed] at hrest
  cases hrest with
  | refl => exact ⟨rfl, rfl, rfl⟩
  | reply hrequest => cases hrequest

theorem create_hasNames (w : Work) (todo : List String) (records : List PodRecord) (d : Desk) :
    (create w todo records d).1.hasNames = true := by
  cases todo with
  | nil =>
    show (conclude w records d).1.hasNames = true
    rw [conclude_eq]
    dsimp only
    split <;> rfl
  | cons name todo => rfl

theorem configure_hasNames (id : Identity) (w : Work) (d : Desk) :
    (configure id w d).1.hasNames = true := by
  unfold configure
  split
  · exact create_hasNames _ _ _ _
  · rfl

/-- Once names have been found, no reply makes a pass look for names again. -/
theorem resume_hasNames (id : Identity) (fuel : Nat) (reply : Reply) (d : Desk)
    (h : stage.hasNames = true) : (resume id fuel stage reply d).1.hasNames = true := by
  cases stage with
  | configuring w => cases reply <;> exact create_hasNames _ _ _ _
  | creating w todo records =>
    cases todo with
    | nil => exact create_hasNames w [] records d
    | cons name todo =>
      unfold resume
      dsimp only
      split <;> exact create_hasNames _ _ _ _
  | publishing s => cases reply <;> rfl
  | finished => rfl
  | _ => cases h

/-- A pass never looks for names twice. -/
theorem Runs.hasNames (h : Runs id fuel stage m answers stage' m') (hstage : stage.hasNames = true) :
    stage'.hasNames = true := by
  induction h with
  | refl stage m => exact hstage
  | reply hrequest hmemory hrest ih => exact ih (resume_hasNames id fuel _ _ hstage)

/-- Either there are names for the missing pods, and the pass goes on with its configuration, or it
looks for them without end. -/
theorem runs_name {plan : Plan} (h : Runs id fuel (name id fuel spec plan d).1
    (name id fuel spec plan d).2.memory answers stage m') :
    let names := Naming.plan id.name fuel plan.keptNames (plan.shortfall spec) d.draws
    (names = none ∧ answers = [] ∧ stage = .naming ∧ m' = d.memory) ∨
      ∃ planned draws, names = some (planned, draws) ∧ stage.hasNames = true ∧
        Runs id fuel (configure id ⟨spec, plan, planned⟩ { d with draws := draws }).1
          (configure id ⟨spec, plan, planned⟩ { d with draws := draws }).2.memory answers stage m' := by
  intro names
  unfold name at h
  split at h
  · rename_i hnone
    cases h with
    | refl => exact .inl ⟨hnone, rfl, rfl, rfl⟩
    | reply hrequest => cases hrequest
  · rename_i planned draws hplanned
    exact .inr ⟨planned, draws, hplanned, h.hasNames (configure_hasNames _ _ _), h⟩

/-- A pass that is past its removals: they have all come back, and what it does next depends on the
names that it draws from the random source as it was at the last of these replies. -/
theorem runs_past (h : Runs id fuel (start id spec) m (a :: b :: c :: answers) stage m')
    (hlisted : c.reply = .ok listed) (hpast : stage.isRemoving = false) :
    let plan := Plan.ofListing id b.desk.spec listed
    ∃ removed rest d', answers = removed ++ rest ∧
      removed.map (·.request) = plan.removals.map (fun q => .deletePod q.name) ∧ d'.memory = m ∧
      d'.now = lastTime c.desk.now removed ∧ d'.draws = lastDraws c.desk.draws removed ∧
      Runs id fuel (name id fuel b.desk.spec plan d').1 (name id fuel b.desk.spec plan d').2.memory
        rest stage m' := by
  intro plan
  obtain ⟨-, hmemory, hrest⟩ := runs_listing h
  have hruns : Runs id fuel (remove id fuel b.desk.spec plan plan.removals c.desk).1
      (remove id fuel b.desk.spec plan plan.removals c.desk).2.memory answers stage m' := by
    rw [hlisted] at hrest
    exact hrest
  have hover : ∀ q todo, stage ≠ .removing b.desk.spec plan (q :: todo) := by
    rintro q todo rfl
    cases hpast
  obtain ⟨removed, rest, d', hanswers, hremoved, hmemory', hnow, hdraws, hname⟩ :=
    runs_remove hruns hover
  exact ⟨removed, rest, d', hanswers, hremoved, hmemory'.trans hmemory, hnow, hdraws, hname⟩

end NatsFleet.Pass
