import NatsFleet.Proofs.Traits

/-!
What the passes of a controller read of its spec: each reads it before its first request, and again once
the services have been asked for. The loop of a controller is run beside a record of that, which changes
nothing about the loop.
-/
namespace NatsFleet

/-- A spec that has been read, and how many specs the controller had had by then. -/
structure Read where
  spec : ClusterSpec
  version : Nat

/-- What a pass has read so far: the spec that the services are made of, and the one for all the rest. -/
structure Sight where
  opening : Read
  rest : Option Read

structure Wish where
  identity : Identity
  spec : ClusterSpec
  wake : Signal

def Controller.wish (c : Controller) : Wish := ⟨c.identity, c.spec, c.wake⟩

def Pass.Stage.isOpening : Stage → Bool
  | .services _ => true
  | _ => false

namespace Sight

/-- What a pass has read once it has got on: all, unless the services are still being asked for. -/
def reach (sight : Sight) (now : Read) (opening : Bool) : Sight :=
  if opening then sight else { sight with rest := sight.rest.or (some now) }

def begun (now : Read) (arrived : Option Standing) : Sight :=
  reach ⟨now, none⟩ now (arrived.any (·.stage.isOpening))

def Fits (id : Identity) (sight : Sight) : Pass.Stage → Prop
  | .services todo => sight.rest = none ∧ ∃ made, Pass.services id sight.opening.spec = made ++ todo
  | .listing spec | .removing spec _ _ => sight.rest.map (·.spec) = some spec
  | .configuring w | .creating w _ _ => sight.rest.map (·.spec) = some w.spec
  | _ => sight.rest.isSome = true

def Current (sight : Sight) (now : Read) : Prop :=
  sight.opening = now ∧ ∀ read, sight.rest = some read → read = now

variable {sight : Sight} {now : Read} {id : Identity} {stage : Pass.Stage}

theorem reach_whole (sight : Sight) (now : Read) : (sight.reach now false).rest.isSome = true := by
  unfold reach
  cases sight.rest <;> rfl

/-- What was read after the opening requests stands. -/
theorem reach_of_isSome (h : sight.rest.isSome = true) (now : Read) (opening : Bool) :
    sight.reach now opening = sight := by
  obtain ⟨first, rest⟩ := sight
  cases rest with
  | none => cases h
  | some read => cases opening <;> rfl

theorem reach_opening (sight : Sight) (now : Read) (opening : Bool) :
    (sight.reach now opening).opening = sight.opening := by
  unfold reach
  split_ifs <;> rfl

/-- A sight of what is present now stays one. -/
theorem Current.reach (h : sight.Current now) (opening : Bool) :
    (sight.reach now opening).Current now := by
  refine ⟨(sight.reach_opening now opening).trans h.1, fun read hread => ?_⟩
  unfold Sight.reach at hread
  split_ifs at hread
  · exact h.2 read hread
  · rcases Option.or_eq_some_iff.mp hread with hold | ⟨-, hnew⟩
    · exact h.2 read hold
    · exact (Option.some.inj hnew).symm

/-- A pass that has read the present spec both times. -/
theorem Current.eq (h : sight.Current now) (hwhole : sight.rest.isSome = true) :
    sight = ⟨now, some now⟩ := by
  obtain ⟨first, rest⟩ := sight
  obtain ⟨read, hread⟩ := Option.isSome_iff_exists.mp hwhole
  obtain rfl := h.2 read hread
  obtain rfl : first = read := h.1
  rw [show rest = some first from hread]

/-- A pass that begins now sees what is present now. -/
theorem begun_current (now : Read) (arrived : Option Standing) : (begun now arrived).Current now :=
  Current.reach ⟨rfl, fun read hread => by cases hread⟩ _

/-- After the opening requests a pass has read its spec. -/
theorem Fits.isSome (h : sight.Fits id stage) (hlater : stage.isOpening = false) :
    sight.rest.isSome = true := by
  have hmap {spec : ClusterSpec} (h : sight.rest.map (·.spec) = some spec) :
      sight.rest.isSome = true := by
    cases hrest : sight.rest with
    | none => rw [hrest] at h; cases h
    | some read => rfl
  cases stage with
  | services todo => cases hlater
  | listing spec => exact hmap h
  | removing spec plan todo => exact hmap h
  | configuring w => exact hmap h
  | creating w todo records => exact hmap h
  | _ => exact h

/-- A pass that gets on still fits what it has read. -/
theorem Fits.reach (h : sight.Fits id stage) (now : Read) :
    (sight.reach now stage.isOpening).Fits id stage := by
  cases hopening : stage.isOpening with
  | true => exact h
  | false =>
    rw [reach_of_isSome (h.isSome hopening)]
    exact h

end Sight

namespace Pass

variable {sight : Sight} {id : Identity} {spec : ClusterSpec}

def Stage.WorksFrom (spec : ClusterSpec) : Stage → Prop
  | .services _ => False
  | .listing spec' | .removing spec' _ _ => spec' = spec
  | .configuring w | .creating w _ _ => w.spec = spec
  | _ => True

/-- A stage that works from the spec that was read fits the sight of it. -/
theorem Stage.WorksFrom.fits {stage : Stage} (h : stage.WorksFrom spec)
    (hrest : sight.rest.map (·.spec) = some spec) : sight.Fits id stage := by
  have hsome : sight.rest.isSome = true := by
    rw [← Option.isSome_map, hrest]
    rfl
  cases stage with
  | services todo => exact h.elim
  | listing spec' => exact h ▸ hrest
  | removing spec' plan todo => exact h ▸ hrest
  | configuring w =>
    obtain rfl : w.spec = spec := h
    exact hrest
  | creating w todo records =>
    obtain rfl : w.spec = spec := h
    exact hrest
  | _ => exact hsome

/-- No later step exchanges the spec a pass works from. -/
theorem conclude_worksFrom (w : Work) (records : List PodRecord) (d : Desk) :
    (conclude w records d).1.WorksFrom spec := by
  unfold conclude
  dsimp only
  split <;> trivial

theorem create_worksFrom (w : Work) (todo : List String) (records : List PodRecord) (d : Desk) :
    (create w todo records d).1.WorksFrom w.spec := by
  unfold create
  split
  · exact conclude_worksFrom w records d
  · rfl

theorem configure_worksFrom (id : Identity) (w : Work) (d : Desk) :
    (configure id w d).1.WorksFrom w.spec := by
  unfold configure
  split
  · exact create_worksFrom _ _ _ _
  · rfl

theorem name_worksFrom (id : Identity) (fuel : Nat) (spec : ClusterSpec) (plan : Plan) (d : Desk) :
    (name id fuel spec plan d).1.WorksFrom spec := by
  unfold name
  split
  · trivial
  · exact configure_worksFrom _ _ _

theorem remove_worksFrom (id : Identity) (fuel : Nat) (spec : ClusterSpec) (plan : Plan)
    (todo : List Removal) (d : Desk) : (remove id fuel spec plan todo d).1.WorksFrom spec := by
  unfold remove
  split
  · exact name_worksFrom _ _ _ _ _
  · rfl

/-- Once the services have been asked for, a pass works from one spec to its end. -/
theorem resume_worksFrom {stage : Stage} (fuel : Nat) (reply : Reply) (d : Desk)
    (h : stage.WorksFrom spec) : (resume id fuel stage reply d).1.WorksFrom spec := by
  cases stage with
  | services todo => exact h.elim
  | listing spec' =>
    obtain rfl : spec' = spec := h
    cases reply with
    | error e => trivial
    | ok listed => exact remove_worksFrom _ _ _ _ _ _
  | removing spec' plan todo =>
    obtain rfl : spec' = spec := h
    cases todo with
    | nil => exact name_worksFrom _ _ _ _ _
    | cons r rest => exact remove_worksFrom _ _ _ _ _ _
  | naming => trivial
  | configuring w =>
    obtain rfl : w.spec = spec := h
    exact create_worksFrom _ _ _ _
  | creating w todo records =>
    obtain rfl : w.spec = spec := h
    cases todo with
    | nil => exact conclude_worksFrom _ _ _
    | cons name rest =>
      unfold resume
      dsimp only
      split <;> exact create_worksFrom _ _ _ _
  | publishing s => cases reply <;> trivial
  | finished => trivial

end Pass

namespace Sight

variable {sight : Sight} {now : Read} {id : Identity} {stage : Pass.Stage}

/-- A reply leads to a stage that works from what has been read by then. The spec is read again when the
last service has been asked for. -/
theorem Fits.resume (h : sight.Fits id stage) (fuel : Nat) (reply : Reply) {d : Desk}
    (hd : d.spec = now.spec) : (sight.reach now (Pass.resume id fuel stage reply d).1.isOpening).Fits id
      (Pass.resume id fuel stage reply d).1 := by
  -- After the services nothing more is read, and each stage hands its spec on to the next.
  have hlater {spec : ClusterSpec} (hworks : stage.WorksFrom spec)
      (hrest : sight.rest.map (·.spec) = some spec) :
      (sight.reach now (Pass.resume id fuel stage reply d).1.isOpening).Fits id
        (Pass.resume id fuel stage reply d).1 := by
    have hsome : sight.rest.isSome = true := by
      rw [← Option.isSome_map, hrest]
      rfl
    rw [reach_of_isSome hsome]
    exact (Pass.resume_worksFrom fuel reply d hworks).fits hrest
  -- A stage that holds no spec any more can stand for whichever has been read.
  have hrested (hworks : ∀ spec, stage.WorksFrom spec) (hsome : sight.rest.isSome = true) :
      (sight.reach now (Pass.resume id fuel stage reply d).1.isOpening).Fits id
        (Pass.resume id fuel stage reply d).1 := by
    obtain ⟨read, hread⟩ := Option.isSome_iff_exists.mp hsome
    exact hlater (hworks read.spec) (by rw [hread]; rfl)
  cases stage with
  | services todo =>
    obtain ⟨hrest, made, hmade⟩ := h
    -- When no service is left to ask for, the spec is read for the second time, from the desk.
    have hlisted : (sight.reach now false).rest.map (·.spec) = some d.spec := by
      rw [hd, Sight.reach, if_neg Bool.false_ne_true, hrest]
      rfl
    cases todo with
    | nil => exact hlisted
    | cons service later =>
      cases later with
      | nil => exact hlisted
      | cons service' later =>
        have hleft : Pass.services id sight.opening.spec = made ++ [service] ++ service' :: later := by
          rw [hmade, List.append_assoc]
          rfl
        exact ⟨hrest, made ++ [service], hleft⟩
  | listing spec => exact hlater rfl h
  | removing spec plan todo => exact hlater rfl h
  | configuring w => exact hlater rfl h
  | creating w todo records => exact hlater rfl h
  | naming => exact hrested (fun _ => trivial) h
  | publishing status => exact hrested (fun _ => trivial) h
  | finished => exact hrested (fun _ => trivial) h

/-- A pass that has got to the listing of the pods does not go back to the services. -/
theorem Fits.isOpening (h : sight.Fits id stage) (hrest : sight.rest.isSome = true) :
    stage.isOpening = false := by
  cases stage with
  | services todo =>
    rw [h.1] at hrest
    cases hrest
  | _ => rfl

/-- Once the spec has been read again, the rest of the way reads nothing more. -/
theorem Fits.of_reach_reach {opening : Bool}
    (h : ((sight.reach now opening).reach now stage.isOpening).Fits id stage) :
    (sight.reach now stage.isOpening).Fits id stage := by
  cases opening with
  | true => exact h
  | false =>
    have hsome := sight.reach_whole now
    rw [reach_of_isSome hsome] at h
    rw [h.isOpening hsome]
    exact h

theorem start_fits (id : Identity) (now : Read) : Fits id ⟨now, none⟩ (Pass.start id now.spec) :=
  ⟨rfl, [], rfl⟩

end Sight

namespace Fleet

variable {f : Fleet} {n : Nat} {whole : Bool} {stage : Pass.Stage} {sight : Sight} {now : Read}
  {w : Wish}

abbrev wishes (f : Fleet) : List Wish := f.traits Controller.wish

theorem wishes_getElem? {c : Controller} (hc : f.controller? n = some c) :
    f.wishes[n]? = some c.wish := by
  rw [traits_getElem?, hc]
  rfl

/-- Wherever a pass waits, it works from what it has read by then. -/
theorem drive_fits (hw : f.wishes[n]? = some w) (hspec : w.spec = now.spec)
    (hfits : sight.Fits w.identity stage) {s : Standing}
    (h : (f.drive n whole stage).1 = some s) :
    (sight.reach now s.stage.isOpening).Fits w.identity s.stage := by
  -- Each reply leads to a stage that fits what has been read by then, and the rest reads no more.
  fun_induction drive f n whole stage generalizing sight with
  | case1 => cases h
  | case2 => cases h
  | case3 =>
    obtain rfl := Option.some.inj h
    exact hfits.reach now
  | case4 => cases h
  | case5 =>
    obtain rfl := Option.some.inj h
    exact hfits.reach now
  | case6 f stage c hc request hrequest hwhole place taken hdelay reply p hreply next =>
    rename_i ih
    have hc' : (f.setPlatform place p).controller? n = some c := hc
    have hnext : next.2.wishes = f.wishes :=
      resume_traits (fun _ _ => rfl) hc' stage reply
    obtain rfl : c.wish = w := Option.some.inj ((wishes_getElem? hc).symm.trans hw)
    have hresumed : (sight.reach now next.1.isOpening).Fits c.wish.identity next.1 :=
      hfits.resume f.settings.nameAttempts reply hspec
    exact (ih (hnext ▸ hw) hresumed h).of_reach_reach
  | case7 =>
    obtain rfl := Option.some.inj h
    exact hfits.reach now

/-- The sight of a pass that begins fits the stage it stands at. -/
theorem pass_fits (hw : f.wishes[n]? = some w) (hspec : w.spec = now.spec) {s : Standing}
    (h : (f.pass n whole).1 = some s) : (Sight.begun now (some s)).Fits w.identity s.stage := by
  unfold pass at h
  split at h
  · cases h
  · rename_i c hc
    obtain rfl : c.wish = w := Option.some.inj ((wishes_getElem? hc).symm.trans hw)
    have hstart := Sight.start_fits c.identity now
    rw [← hspec] at hstart
    exact drive_fits hw hspec hstart h

/-- An answer leaves the pass at a stage that fits. -/
theorem land_fits (hw : f.wishes[n]? = some w) (hspec : w.spec = now.spec) {s s' : Standing}
    (hfits : sight.Fits w.identity s.stage) (h : (f.land n whole s).1 = some s') :
    (sight.reach now s'.stage.isOpening).Fits w.identity s'.stage := by
  unfold land at h
  split at h
  · obtain rfl := Option.some.inj h
    exact hfits.reach now
  · cases h
  · rename_i flight c hflight hc
    split at h
    · obtain rfl := Option.some.inj h
      exact hfits.reach now
    · dsimp only at h
      split at h
      · obtain rfl := Option.some.inj h
        exact hfits.reach now
      · rename_i reply p hreply
        have hc' : (f.setPlatform c.key.namespaceName p).controller? n = some c := hc
        have hnext : ((f.setPlatform c.key.namespaceName p).resume n c s.stage reply).2.wishes =
            f.wishes := resume_traits (fun _ _ => rfl) hc' s.stage reply
        obtain rfl : c.wish = w := Option.some.inj ((wishes_getElem? hc).symm.trans hw)
        have hresumed := hfits.resume f.settings.nameAttempts reply
          (d := c.desk f.draws (f.setPlatform c.key.namespaceName p).wallClock) hspec
        exact (drive_fits (hnext ▸ hw) hspec hresumed h).of_reach_reach

end Fleet
end NatsFleet
