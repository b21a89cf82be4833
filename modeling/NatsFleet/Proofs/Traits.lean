import NatsFleet.Proofs.Loops

/-!
What all controllers keep while something is done with one of them: a pass changes what a controller
remembers and nothing else, and a stop changes who is called, waited for and supervised.
-/
namespace NatsFleet.Fleet

variable {α : Type} {p : Controller → α} {f : Fleet} {n : Nat} {c : Controller}

def traits (p : Controller → α) (f : Fleet) : List α := f.controllers.map p

theorem traits_getElem? (p : Controller → α) (f : Fleet) (n : Nat) :
    (f.traits p)[n]? = (f.controller? n).map p := List.getElem?_map

/-- A controller is still there, with what all controllers have kept. -/
theorem controller?_of_traits {g : Fleet} (h : g.traits p = f.traits p)
    (hc : f.controller? n = some c) : ∃ c', g.controller? n = some c' ∧ p c' = p c := by
  have hkept : (g.controller? n).map p = some (p c) := by
    rw [← traits_getElem?, h, traits_getElem?, hc]
    rfl
  exact Option.map_eq_some_iff.mp hkept

/-- A trait that is kept in one controller is kept in the fleet. -/
theorem traits_setController (hc : f.controller? n = some c) {c' : Controller} (h : p c' = p c) :
    (f.setController n c').traits p = f.traits p := by
  have hself : (f.traits p)[n]? = some (p c) := by rw [traits_getElem?, hc]; rfl
  calc (f.setController n c').traits p
      = (f.traits p).set n (p c') := List.map_set
    _ = (f.traits p).set n (p c) := by rw [h]
    _ = f.traits p := Board.set_same hself

theorem traits_changeController (f : Fleet) (n : Nat) {change : Controller → Controller}
    (h : ∀ c, p (change c) = p c) : (f.changeController n change).traits p = f.traits p := by
  have hmodify : (f.changeController n change).traits p = (f.traits p).modify n id :=
    Board.map_modify _ _ h
  exact hmodify.trans (List.modify_id n _)

/-! ## Passes -/

section Passes

variable (hmemory : ∀ (c : Controller) (memory : Memory), p { c with memory := memory } = p c)

include hmemory

theorem resume_traits (hc : f.controller? n = some c) (stage : Pass.Stage) (reply : Reply) :
    (f.resume n c stage reply).2.traits p = f.traits p :=
  traits_setController hc (hmemory c _)

/-- Driving a pass leaves the traits of all controllers. -/
theorem drive_traits (f : Fleet) (n : Nat) (whole : Bool) (stage : Pass.Stage) :
    (f.drive n whole stage).2.traits p = f.traits p := by
  -- A request changes a platform only, and each reply what the controller remembers.
  fun_induction drive f n whole stage with
  | case1 => rfl
  | case2 => rfl
  | case3 => rfl
  | case4 => rfl
  | case5 => rfl
  | case6 f stage c hc request hrequest hwhole place taken hdelay reply q hreply next =>
    rename_i ih
    have hplaced : (f.setPlatform place q).controller? n = some c := hc
    have hresume := resume_traits hmemory hplaced stage reply
    exact ih.trans hresume
  | case7 => rfl

theorem pass_traits (f : Fleet) (n : Nat) (whole : Bool) :
    (f.pass n whole).2.traits p = f.traits p := by
  unfold pass
  split
  · rfl
  · exact drive_traits hmemory f n whole _

theorem land_traits (f : Fleet) (n : Nat) (whole : Bool) (s : Standing) :
    (f.land n whole s).2.traits p = f.traits p := by
  unfold land
  split
  · rfl
  · rfl
  · rename_i flight c hflight hc
    split
    · rfl
    · dsimp only
      split
      · rfl
      · rename_i reply q hreply
        have hplaced : (f.setPlatform c.key.namespaceName q).controller? n = some c := hc
        exact (drive_traits hmemory _ n whole _).trans (resume_traits hmemory hplaced s.stage reply)

end Passes

/-! ## Stops -/

section Stops

variable (hcancel : ∀ (c : Controller) (flag : Bool), p { c with cancelled := flag } = p c)

include hcancel

theorem stop_traits (f : Fleet) (n : Nat) : (f.stop n).traits p = f.traits p := by
  unfold stop
  split
  · rfl
  · rename_i c hc
    exact traits_setController (f := f.note _) hc (hcancel c true)

/-- Cancelling all leaves them too. -/
theorem cancel_traits (f : Fleet) : f.cancel.traits p = f.traits p := by
  have hmap : (f.cancel).traits p = f.controllers.map fun c => p { c with cancelled := true } :=
    List.map_map
  exact hmap.trans (List.map_congr_left fun c _ => hcancel c true)

theorem drain_traits (f : Fleet) (controllers : List Nat) :
    (f.drain controllers).2.traits p = f.traits p := by
  unfold drain
  split_ifs
  · exact cancel_traits hcancel f
  · rfl

variable (hawait : ∀ (c : Controller) (flag : Bool), p { c with awaited := flag } = p c)
  (hrelease : ∀ (c : Controller) (flag : Bool), p { c with supervised := flag } = p c)

include hrelease

omit hcancel in
theorem checkStop_traits (f : Fleet) (n deadline : Nat) :
    (f.checkStop n deadline).2.traits p = f.traits p := by
  unfold checkStop
  split
  · rfl
  · dsimp only
    split_ifs
    · exact traits_changeController f n fun c => hrelease c false
    · exact traits_changeController (f.note _) n fun c => hrelease c false
    · rfl

include hawait

theorem pollStop_traits (f : Fleet) (n grace : Nat) (state : Stopping) :
    (f.pollStop n grace state).2.traits p = f.traits p := by
  cases state with
  | unborn =>
    have hstop := stop_traits hcancel f n
    have hawaits : ((f.stop n).changeController n fun c => { c with awaited := true }).traits p =
        (f.stop n).traits p := traits_changeController _ n fun c => hawait c true
    unfold pollStop
    dsimp only
    split_ifs
    · exact hstop
    · exact (checkStop_traits hrelease _ n _).trans (hawaits.trans hstop)
  | waiting deadline => exact checkStop_traits hrelease f n deadline
  | «over» outcome => rfl

theorem pollCleanUp_traits (f : Fleet) (n : Nat) (state : Stopping) :
    (f.pollCleanUp n state).2.traits p = f.traits p := by
  have hpoll := pollStop_traits hcancel hawait hrelease f n f.settings.grace state
  unfold pollCleanUp
  split
  · rfl
  · split
    · rename_i outcome g c heq hc
      rw [heq] at hpoll
      -- What is removed from the registry is still a controller.
      dsimp only
      split_ifs <;> exact hpoll
    · exact hpoll

theorem pollStops_traits (f : Fleet) (grace : Nat) (stops : List (Nat × Stopping)) :
    (f.pollStops grace stops).2.traits p = f.traits p := by
  induction stops generalizing f with
  | nil => rfl
  | cons stop rest ih =>
    exact (ih _).trans (pollStop_traits hcancel hawait hrelease f stop.1 grace stop.2)

theorem join_traits (f : Fleet) (stops : List (Nat × Stopping)) :
    (f.join stops).2.traits p = f.traits p := by
  have hstops := pollStops_traits hcancel hawait hrelease f f.settings.grace stops
  unfold join
  dsimp only
  split_ifs
  · exact (drain_traits hcancel _ _).trans hstops
  · exact (drain_traits hcancel _ _).trans hstops
  · exact hstops

theorem pollClosing_traits (f : Fleet) (state : Closing) :
    (f.pollClosing state).2.traits p = f.traits p := by
  cases state with
  | unborn =>
    unfold pollClosing
    dsimp only
    split_ifs
    · rfl
    · exact join_traits hcancel hawait hrelease _ _
  | joining stops => exact join_traits hcancel hawait hrelease f stops
  | draining controllers => exact drain_traits hcancel f controllers
  | finished moment => rfl

end Stops

end NatsFleet.Fleet
