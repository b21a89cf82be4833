import NatsFleet.Proofs.Chronicle
import NatsFleet.Proofs.Dispatch

/-!
What tasks that go on bring into the registry and take out of it: entries come with the changes that declare
a cluster, and they go with the clean-ups after deleted ones.
-/
namespace NatsFleet

def Watch.Change.Declares (k : ClusterKey) : Watch.Change → Prop
  | .added c | .updated _ c => c.key = k
  | .deleted _ => False

def Task.Declares (k : ClusterKey) : Task → Prop
  | .dispatch mailbox _ => ∃ change ∈ mailbox.waiting, change.Declares k
  | _ => False

namespace Board

variable {b b' b'' : Board} {declared : ClusterKey → Prop} {n : Nat}

/-- Time stands still, and an entry of the registry stays, or gives way to a controller accepted since, which
happens only under keys that are declared. -/
structure Enters (declared : ClusterKey → Prop) (b b' : Board) : Prop where
  now : b'.now = b.now
  length : b.cards.length ≤ b'.cards.length
  find? : ∀ k, b'.registry.find? k = b.registry.find? k ∨
    declared k ∧ ∃ n, b.cards.length ≤ n ∧ b'.registry.find? k = some n

namespace Enters

theorem same (hnow : b'.now = b.now) (hlength : b'.cards.length = b.cards.length)
    (hregistry : b'.registry = b.registry) : b.Enters declared b' :=
  ⟨hnow, Nat.le_of_eq hlength.symm, fun k => .inl (by rw [hregistry])⟩

theorem refl (b : Board) : b.Enters declared b := same rfl rfl rfl

/-- What may be entered adds up along a run. -/
theorem trans (h : b.Enters declared b') (h' : b'.Enters declared b'') : b.Enters declared b'' := by
  refine ⟨h'.now.trans h.now, Nat.le_trans h.length h'.length, fun k => ?_⟩
  rcases h'.find? k with hsame | ⟨hk, n, hn, hfind⟩
  · rw [hsame]
    exact h.find? k
  · exact .inr ⟨hk, n, Nat.le_trans h.length hn, hfind⟩

theorem mono {declared' : ClusterKey → Prop} (h : b.Enters declared b')
    (hdeclared : ∀ k, declared k → declared' k) : b.Enters declared' b' :=
  ⟨h.now, h.length, fun k => (h.find? k).imp_right (And.imp_left (hdeclared k))⟩

/-- Nothing enters under a key that is not declared. -/
theorem of_not (h : b.Enters declared b') {k : ClusterKey} (hk : ¬ declared k) :
    b'.registry.find? k = b.registry.find? k :=
  (h.find? k).resolve_right fun hnew => hk hnew.1

end Enters

/-! ## Changes and shutdowns -/

/-- A cluster is entered under its own key. -/
theorem enters_add (b : Board) (c : Cluster) : b.Enters (c.key = ·) (b.add c) := by
  unfold add
  split_ifs
  · exact .refl b
  · refine ⟨rfl, by simp, fun k => ?_⟩
    simp only [Registry.find?, KeyMap.find?_put]
    split_ifs with hk
    · exact .inr ⟨hk, b.cards.length, Nat.le_refl _, rfl⟩
    · exact .inl rfl

/-- Dealing with a change enters nothing but what the change declares. -/
theorem enters_handle (b : Board) (change : Watch.Change) :
    b.Enters (change.Declares ·) (b.handle change) := by
  unfold handle
  split_ifs
  · exact .refl b
  · cases change with
    | added c => exact b.enters_add c
    | updated old c =>
      unfold update
      dsimp only
      split
      · exact b.enters_add c
      · exact .same rfl (change_length _ _ _) rfl
    | deleted c =>
      unfold delete
      dsimp only
      split
      · exact .refl b
      · exact .same rfl (change_length _ _ _) rfl

theorem enters_pollStops (b : Board) (grace : Nat) (stops : List (Nat × Stopping)) :
    b.Enters declared (b.pollStops grace stops).2 := by
  induction stops generalizing b with
  | nil => exact .refl b
  | cons stop rest ih =>
    have hpoll : b.Enters declared (b.pollStop stop.1 grace stop.2).2 :=
      .same rfl (change_length _ _ _) rfl
    exact hpoll.trans (ih _)

theorem enters_drain (b : Board) (controllers : List Nat) :
    b.Enters declared (b.drain controllers).2 := by
  unfold drain
  split_ifs
  · exact .same rfl (List.length_map _) rfl
  · exact .refl b

theorem enters_join (b : Board) (stops : List (Nat × Stopping)) :
    b.Enters declared (b.join stops).2 := by
  have hpoll : b.Enters declared (b.pollStops b.settings.grace stops).2 := b.enters_pollStops _ _
  unfold join
  dsimp only
  split_ifs
  · exact hpoll.trans (enters_drain _ _)
  · exact hpoll

/-- A shutdown enters nothing. -/
theorem enters_pollClosing (b : Board) (state : Closing) :
    b.Enters declared (b.pollClosing state).2 := by
  cases state with
  | unborn =>
    unfold pollClosing
    dsimp only
    split_ifs
    · exact .refl b
    · have hphase : b.Enters declared { b with phase := .shuttingDown } := .same rfl rfl rfl
      exact hphase.trans (enters_join _ _)
  | joining stops => exact b.enters_join stops
  | draining controllers => exact b.enters_drain controllers
  | finished moment => exact .refl b

theorem enters_setTask (b : Board) (i : Nat) (t : Task) : b.Enters declared (b.setTask i t) :=
  .same rfl rfl rfl

/-! ## Clean-ups -/

/-- A controller that is unregistered is not registered under any key any more, and every other entry
stays. -/
theorem find?_unregister (h : b.Linked) (hn : n < b.cards.length) (k : ClusterKey) :
    (b.unregister n).registry.find? k =
      if b.registry.find? k = some n then none else b.registry.find? k := by
  have hc : b.cards[n]? = some b.cards[n] := List.getElem?_eq_getElem hn
  -- An entry of this controller is under its own key.
  have howner {k' : ClusterKey} (hfind : b.registry.find? k' = some n) : b.cards[n].key = k' := by
    obtain ⟨c, hc', hkey⟩ := h.find? hfind
    rw [Option.some.inj (hc.symm.trans hc')]
    exact hkey
  unfold unregister Registry.removeController
  rw [hc]
  dsimp only
  by_cases hregistered : b.registry.find? b.cards[n].key = some n
  · rw [if_pos hregistered]
    simp only [Registry.find?, KeyMap.find?_erase]
    by_cases hk : b.cards[n].key = k
    · subst hk
      rw [if_pos rfl]
      exact (if_pos hregistered).symm
    · rw [if_neg hk]
      exact (if_neg fun hfind => hk (howner hfind)).symm
  · rw [if_neg hregistered]
    refine (if_neg fun hfind => hregistered ?_).symm
    rw [howner hfind]
    exact hfind

/-- A clean-up takes the entry of its controller out of the registry at the moment at which it ends, and
leaves every other entry alone. -/
theorem find?_pollCleanUp (h : b.Linked) (hn : n < b.cards.length) (state : Stopping)
    (k : ClusterKey) : (b.pollCleanUp n state).2.registry.find? k =
      if (b.pollCleanUp n state).1.isOver = true ∧ state.isOver = false ∧
        b.registry.find? k = some n then none else b.registry.find? k := by
  have hlinked : (b.pollStop n b.settings.grace state).2.Linked :=
    h.change n fun c => c.poll_key _ _ _
  have hlength : n < (b.pollStop n b.settings.grace state).2.cards.length :=
    Nat.lt_of_lt_of_eq hn (change_length _ _ _).symm
  have hgone := find?_unregister hlinked hlength k
  have hregistry : (b.pollStop n b.settings.grace state).2.registry = b.registry := rfl
  rw [hregistry] at hgone
  unfold pollCleanUp
  dsimp only
  cases hends : (b.pollStop n b.settings.grace state).1.isOver with
  | false => simp [hregistry]
  | true =>
    cases hover : state.isOver with
    | true => simp [hregistry]
    | false => simpa using hgone

/-- A clean-up that has gone on waits until the grace period is over, or it ends. -/
theorem pollCleanUp_unborn (b : Board) (n : Nat) : (b.pollCleanUp n .unborn).1.isOver = true ∨
    (b.pollCleanUp n .unborn).1 = .waiting (b.now + b.settings.grace) := by
  unfold pollCleanUp pollStop
  cases b.cards[n]? with
  | none => exact .inl rfl
  | some c =>
    dsimp only [Card.poll]
    split_ifs
    · exact .inl rfl
    · unfold Card.check
      split_ifs
      · exact .inl rfl
      · exact .inl rfl
      · exact .inr rfl

/-- A clean-up that waits keeps its deadline until it is over. -/
theorem pollCleanUp_waiting (b : Board) (n deadline : Nat) :
    (b.pollCleanUp n (.waiting deadline)).1.isOver = true ∨
      (b.pollCleanUp n (.waiting deadline)).1 = .waiting deadline := by
  unfold pollCleanUp pollStop
  cases b.cards[n]? with
  | none => exact .inl rfl
  | some c =>
    dsimp only [Card.poll]
    unfold Card.check
    split_ifs
    · exact .inl rfl
    · exact .inl rfl
    · exact .inr rfl

theorem pollCleanUp_over (b : Board) (n : Nat) {state : Stopping} (h : state.isOver = true) :
    (b.pollCleanUp n state).1.isOver = true := by
  cases state with
  | «over» outcome =>
    unfold pollCleanUp
    rw [pollStop_over]
    exact h
  | _ => cases h

end Board

namespace Fleet

variable {f : Fleet} {i j n : Nat} {mailbox : Mailbox} {t u : Task}

theorem enters_handleAll (f : Fleet) (changes : List Watch.Change) : f.board.Enters
    (fun k => ∃ change ∈ changes, change.Declares k) (f.handleAll changes).board := by
  induction changes generalizing f with
  | nil => exact .refl _
  | cons change rest ih =>
    have hhandle := f.board.enters_handle change
    rw [← handle_board] at hhandle
    have hfirst := hhandle.mono fun k hk => show ∃ c ∈ change :: rest, c.Declares k from
      ⟨change, List.mem_cons_self, hk⟩
    refine hfirst.trans ((ih (f.handle change)).mono fun k hk => ?_)
    obtain ⟨c, hc, hdeclares⟩ := hk
    exact ⟨c, List.mem_cons_of_mem _ hc, hdeclares⟩

/-- What a dispatch loop does once it has dealt with its changes touches neither the registry nor other
tasks. -/
theorem received_after (f : Fleet) (i : Nat) (mailbox : Mailbox) : ∃ (b : Board) (t : Task),
    (f.received i mailbox).board = b.setTask i t ∧
      b.tasks = (f.handleAll (if f.cancelled then [] else mailbox.waiting)).tasks ∧
      (f.handleAll (if f.cancelled then [] else mailbox.waiting)).board.Enters (fun _ => False) b := by
  have hreceived := received_cases f i mailbox
  generalize (f.received i mailbox).board = b at hreceived ⊢
  cases hreceived with
  | cancelled hroot =>
    rw [hroot, if_pos rfl]
    exact ⟨_, _, rfl, rfl, .refl _⟩
  | waits hroot hopen =>
    rw [hroot, if_neg Bool.false_ne_true]
    exact ⟨_, _, rfl, rfl, .refl _⟩
  | ends hroot hclosed hends =>
    rw [hroot, if_neg Bool.false_ne_true]
    have htasks := Board.pollClosing_tasks (f.handleAll mailbox.waiting).board .unborn
    have hcloses : (f.handleAll mailbox.waiting).board.Enters (fun _ => False) _ :=
      Board.enters_pollClosing _ .unborn
    rw [hends] at htasks hcloses
    exact ⟨_, _, rfl, htasks, hcloses⟩

/-- A dispatch loop enters nothing but what its mailbox declares. -/
theorem enters_received (f : Fleet) (i : Nat) (mailbox : Mailbox) : f.board.Enters
    (fun k => ∃ change ∈ mailbox.waiting, change.Declares k) (f.received i mailbox).board := by
  obtain ⟨b, t, hreceived, -, hafter⟩ := received_after f i mailbox
  have hhandled := f.enters_handleAll (if f.cancelled then [] else mailbox.waiting)
  rw [hreceived]
  refine .trans (hhandled.mono fun k hk => ?_)
    ((hafter.mono fun k hk => hk.elim).trans (Board.enters_setTask b i t))
  obtain ⟨change, hchange, hdeclares⟩ := hk
  split_ifs at hchange
  · exact absurd hchange List.not_mem_nil
  · exact ⟨change, hchange, hdeclares⟩

/-- Whatever task goes on, only a clean-up takes an entry out of the registry, and only a dispatch loop
brings one in. -/
theorem enters_step (horderly : f.board.Orderly) (ht : f.tasks[i]? = some t)
    (hother : ∀ n state, t ≠ .cleanUp n state) :
    f.board.Enters (t.Declares ·) (f.step i).board := by
  have hproper := horderly.proper t (List.mem_of_getElem? ht)
  cases t with
  | loop n first state =>
    rcases step_loop_cases ht with hboard | ⟨state', hboard⟩
    · rw [hboard]
      exact .refl _
    · rw [hboard]
      unfold Board.afterLoop
      split_ifs
      · exact .same rfl (Board.change_length _ _ _) rfl
      · exact .same rfl rfl rfl
  | cleanUp n state => exact absurd rfl (hother n state)
  | shutdown state =>
    rw [step_shutdown_board ht]
    exact (Board.enters_pollClosing _ _).trans (Board.enters_setTask _ _ _)
  | dispatch mailbox state =>
    cases state with
    | unborn =>
      have hbegun : f.board.Enters (Task.Declares · (.dispatch mailbox .unborn)) f.begun.board := by
        rw [begun_board]
        split_ifs
        · exact .same rfl rfl rfl
        · exact .refl _
      rw [step_begins ht]
      exact hbegun.trans (enters_received _ _ _)
    | receiving =>
      rw [step_receives ht]
      exact enters_received _ _ _
    | closing state =>
      rw [step_closing_board ht]
      exact (Board.enters_pollClosing _ _).trans (Board.enters_setTask _ _ _)
    | finished moment =>
      rw [step_returned ht]
      exact .refl _
  | _ => exact hproper.elim

theorem received_other (hne : i ≠ j) (hj : f.tasks[j]? = some u) :
    (f.received i mailbox).tasks[j]? = some u := by
  obtain ⟨b, t, hreceived, htasks, -⟩ := received_after f i mailbox
  have hset := congrArg Board.tasks hreceived
  rw [show (f.received i mailbox).tasks = b.tasks.set i t from hset, List.getElem?_set_ne hne, htasks]
  exact (f.handleAll_joined _).getElem? hj

/-- A task that goes on leaves the others where they are. -/
theorem step_other (horderly : f.board.Orderly) (hne : i ≠ j) (hj : f.tasks[j]? = some u) :
    (f.step i).tasks[j]? = some u := by
  cases ht : f.tasks[i]? with
  | none =>
    rw [step_none ht]
    exact hj
  | some t =>
    have hproper := horderly.proper t (List.mem_of_getElem? ht)
    have hplain (hplain : t.isPlain = true) : (f.step i).tasks[j]? = some u := by
      obtain ⟨t', htasks, -⟩ := step_tasks ht hplain
      rw [htasks, List.getElem?_set_ne hne]
      exact hj
    cases t with
    | loop n first state => exact hplain rfl
    | cleanUp n state => exact hplain rfl
    | shutdown state => exact (step_shutdown_other ht hne.symm).trans hj
    | dispatch mailbox state =>
      cases state with
      | unborn =>
        have hj' : f.begun.tasks[j]? = some u := by rw [begun_tasks, hj]
        rw [step_begins ht]
        exact received_other hne hj'
      | receiving =>
        rw [step_receives ht]
        exact received_other hne hj
      | closing state =>
        have htasks := congrArg Board.tasks (step_closing_board ht)
        rw [Board.setTask, Board.pollClosing_tasks] at htasks
        rw [show (f.step i).tasks = _ from htasks, List.getElem?_set_ne hne]
        exact hj
      | finished moment =>
        rw [step_returned ht]
        exact hj
    | _ => exact hproper.elim

theorem step_cleanUp_self {state : Stopping} (ht : f.tasks[i]? = some (.cleanUp n state)) :
    (f.step i).tasks[i]? = some (.cleanUp n (f.board.pollCleanUp n state).1) := by
  have htasks := congrArg Board.tasks (step_cleanUp_board ht)
  rw [Board.setTask, Board.pollCleanUp_tasks] at htasks
  rw [show (f.step i).tasks = _ from htasks]
  exact List.getElem?_set_self (List.getElem?_eq_some_iff.mp ht).1

/-- A clean-up takes its own controller out of the registry when it is over, and nothing else. -/
theorem step_cleanUp_find? (horderly : f.board.Orderly) {state : Stopping}
    (ht : f.tasks[i]? = some (.cleanUp n state)) (k : ClusterKey) : (f.step i).registry.find? k =
      if (f.board.pollCleanUp n state).1.isOver = true ∧ state.isOver = false ∧
        f.registry.find? k = some n then none else f.registry.find? k := by
  obtain ⟨c, hc, -⟩ := horderly.proper _ (List.mem_of_getElem? ht)
  have hregistry := congrArg Board.registry (step_cleanUp_board ht)
  rw [show (f.step i).registry = _ from hregistry]
  exact Board.find?_pollCleanUp horderly.linked (List.getElem?_eq_some_iff.mp hc).1 state k

theorem step_cleanUp_now {state : Stopping} (ht : f.tasks[i]? = some (.cleanUp n state)) :
    (f.step i).now = f.now := by
  have hnow := congrArg Board.now (step_cleanUp_board ht)
  exact hnow.trans (Board.pollCleanUp_moves ht).clock.1

/-- When a task goes on an entry stays, or a controller accepted since takes its place as a dispatch loop has
been told, or a clean-up takes the entry out, and ends. -/
theorem step_find? (horderly : f.board.Orderly) (i : Nat) (k : ClusterKey) :
    (f.step i).registry.find? k = f.registry.find? k ∨
      (∃ t n, f.tasks[i]? = some t ∧ t.Declares k ∧ f.controllers.length ≤ n ∧
        (f.step i).registry.find? k = some n) ∨
      ∃ n state, f.registry.find? k = some n ∧ (f.step i).registry.find? k = none ∧
        f.tasks[i]? = some (.cleanUp n state) ∧ (f.board.pollCleanUp n state).1.isOver = true := by
  cases ht : f.tasks[i]? with
  | none =>
    rw [step_none ht]
    exact .inl rfl
  | some t =>
    by_cases hcleanUp : ∃ n state, t = .cleanUp n state
    · obtain ⟨n, state, rfl⟩ := hcleanUp
      have hkept := step_cleanUp_find? horderly ht k
      split_ifs at hkept with hgone
      · exact .inr (.inr ⟨n, state, hgone.2.2, hkept, rfl, hgone.1⟩)
      · exact .inl hkept
    · have henters := enters_step horderly ht fun n state heq => hcleanUp ⟨n, state, heq⟩
      rcases henters.find? k with hsame | ⟨hdeclares, n, hn, hnew⟩
      · exact .inl hsame
      · exact .inr (.inl ⟨t, n, rfl, hdeclares, f.board_length ▸ hn, hnew⟩)

/-! ## Deleted clusters -/

theorem handleAll_phase (f : Fleet) (changes : List Watch.Change) :
    (f.handleAll changes).phase = f.phase := by
  induction changes generalizing f with
  | nil => rfl
  | cons change rest ih =>
    have hframe := (f.board.handle_frame change).phase
    rw [← handle_board] at hframe
    exact (ih (f.handle change)).trans hframe

/-- A deleted cluster stays registered until the task that its deletion has started is over. -/
theorem handle_deleted (hopen : f.phase.isClosed = false) (c : Cluster)
    (hfind : (f.handle (.deleted c)).registry.find? c.key = some n) :
    (f.handle (.deleted c)).tasks[f.tasks.length]? = some (.cleanUp n .unborn) := by
  have hopen' : f.board.phase.isClosed = false := hopen
  have hhandle : (f.handle (.deleted c)).board = f.board.delete c := by
    rw [handle_board, Board.handle, hopen', if_neg Bool.false_ne_true]
  have hregistry := congrArg Board.registry hhandle
  have htasks := congrArg Board.tasks hhandle
  rw [show (f.handle (.deleted c)).registry = _ from hregistry] at hfind
  rw [show (f.handle (.deleted c)).tasks = _ from htasks]
  unfold Board.delete at hfind ⊢
  cases hheld : f.board.registry.find? c.key with
  | none =>
    rw [hheld] at hfind
    exact absurd (hheld.symm.trans hfind) nofun
  | some m =>
    rw [hheld] at hfind
    obtain rfl : m = n := Option.some.inj (hheld.symm.trans hfind)
    exact List.getElem?_concat_length

/-- A clean-up is under way for whatever is registered under the key of a cluster that has been deleted
and not been declared since. -/
theorem handleAll_deleted (hopen : f.phase.isClosed = false) (before : List Watch.Change)
    {c : Cluster} {after : List Watch.Change} (hafter : ∀ change ∈ after, ¬ change.Declares c.key)
    (hfind : (f.handleAll (before ++ .deleted c :: after)).registry.find? c.key = some n) :
    ∃ i, f.tasks.length ≤ i ∧ (f.handleAll (before ++ .deleted c :: after)).tasks[i]? =
      some (.cleanUp n .unborn) := by
  have hsplit : f.handleAll (before ++ .deleted c :: after) =
      ((f.handleAll before).handle (.deleted c)).handleAll after := List.foldl_append
  rw [hsplit] at hfind ⊢
  have hkept := (enters_handleAll ((f.handleAll before).handle (.deleted c)) after).of_not
    (k := c.key) fun ⟨change, hchange, hdeclares⟩ => hafter change hchange hdeclares
  have hcleanUp := handle_deleted ((congrArg _ (f.handleAll_phase before)).trans hopen) c
    (hkept.symm.trans hfind)
  obtain ⟨more, htasks, -⟩ := f.handleAll_joined before
  have hlength : f.tasks.length ≤ (f.handleAll before).tasks.length := by
    rw [show (f.handleAll before).tasks = _ from htasks, List.length_append]
    exact Nat.le_add_right _ _
  exact ⟨_, hlength, (handleAll_joined _ after).getElem? hcleanUp⟩

/-- After a deletion in the mailbox, what is still registered under the key has a clean-up of its own. -/
theorem received_deleted (hopen : f.phase.isClosed = false) (hroot : f.cancelled = false)
    (hi : i < f.tasks.length) {before after : List Watch.Change} {c : Cluster}
    (hwaiting : mailbox.waiting = before ++ .deleted c :: after)
    (hafter : ∀ change ∈ after, ¬ change.Declares c.key)
    (hfind : (f.received i mailbox).registry.find? c.key = some n) :
    ∃ j, f.tasks.length ≤ j ∧ (f.received i mailbox).tasks[j]? = some (.cleanUp n .unborn) := by
  obtain ⟨b, t, hreceived, htasks, hkept⟩ := received_after f i mailbox
  rw [hroot, if_neg Bool.false_ne_true, hwaiting] at htasks hkept
  have hregistry := congrArg (·.registry.find? c.key) hreceived
  have hfind' := (hkept.of_not id).symm.trans (hregistry.symm.trans hfind)
  obtain ⟨j, hj, hcleanUp⟩ := handleAll_deleted hopen before hafter hfind'
  have hset := congrArg Board.tasks hreceived
  have hne : i ≠ j := Nat.ne_of_lt (Nat.lt_of_lt_of_le hi hj)
  refine ⟨j, hj, ?_⟩
  rw [show (f.received i mailbox).tasks = b.tasks.set i t from hset, List.getElem?_set_ne hne, htasks]
  exact hcleanUp

end Fleet
end NatsFleet
