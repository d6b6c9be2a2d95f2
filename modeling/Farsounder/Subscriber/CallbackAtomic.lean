import Farsounder.Subscriber.CallbackMutex
import Mathlib.Data.List.Count

namespace Farsounder.Subscriber

open Config
open Farsounder.Data
open Registering (Dispatch Label registeredBy)

/-! Registrations and copies as the single steps that they are taken for. -/

variable {κ : Type} {registry registry' current : Registry κ}
  {threads threads' : List (CallbackThread κ)} {index : Nat}
  {type : PubSubMessage}

/-- What a thread has of a dispatch. -/
def CallbackThread.dispatch : CallbackThread κ → Option (Dispatch κ)
  | registering _ => none
  | dispatching type code =>
      some { type, phase := code.phase, invoked := code.invoked }

def registeringOf (registry : Registry κ) (threads : List (CallbackThread κ)) :
    Registering.State κ :=
  { registry, dispatches := threads.filterMap CallbackThread.dispatch }

theorem runLabels_on (call : Matched κ) :
    runLabels Registering.next (registeringOf registry threads) [.on call.1] =
      some (registeringOf (registry.pushBack call.1.callback call.1.type)
        threads) := by
  simp [Registering.next, registeringOf, Registration.apply,
    Registration.on_eq_ok call.2]

/-- A thread that goes on in a call of `on` leaves every dispatch as it is. -/
theorem registeringOf_set {thread thread' : CallbackThread κ}
    (found : threads[index]? = some thread)
    (same : thread'.dispatch = thread.dispatch) :
    registeringOf registry (threads.set index thread') =
      registeringOf registry threads := by
  rw [registeringOf, filterMap_set found same, registeringOf]

theorem runLabels_dispatch {code code' : DispatchCode κ}
    (found : threads[index]? = some (.dispatching type code))
    (label : Nat → Label κ)
    (taken : ∀ (state : Registering.State κ) (position : Nat),
      state.registry = registry →
      state.dispatches[position]? = some
    { type, phase := code.phase, invoked := code.invoked } →
      Registering.next state (label position) = some (state.setDispatch position
        { type, phase := code'.phase, invoked := code'.invoked })) :
    ∃ labels,
      runLabels Registering.next (registeringOf registry threads) labels =
      some (registeringOf registry
        (threads.set index (.dispatching type code'))) := by
  have shows : (CallbackThread.dispatching type code).dispatch =
      some { type, phase := code.phase, invoked := code.invoked } := rfl
  obtain ⟨position, shown, replaced⟩ := exists_filterMap_set found shows
  refine ⟨[label position], ?_⟩
  rw [runLabels_cons, taken _ _ rfl shown, Option.bind_some, runLabels_nil]
  simp only [registeringOf, Registering.State.setDispatch, Option.some.injEq,
    Registering.State.mk.injEq, true_and]
  exact (replaced rfl).symm

theorem labels_of_atomic
    (moved : (callbackMonitor κ).Atomic (registry, threads) (registry',
      threads')) :
    ∃ labels,
      runLabels Registering.next (registeringOf registry threads) labels =
      some (registeringOf registry' threads') := by
  cases moved with
  | critical found worked left =>
      cases CallbackSection.of_section worked with
      | @registering call _ _ appended | @calling _ _ _ call _ _ appended =>
          cases appended with
          | stored =>
              obtain rfl := Option.some.inj left
              refine ⟨[.on call.1], (runLabels_on call).trans ?_⟩
              refine congrArg some (registeringOf_set found ?_).symm
              rfl
          | reading | storing => contradiction
      | copying => contradiction
      | @copied type =>
          obtain rfl := Option.some.inj left
          apply runLabels_dispatch found .snapshot
          rintro state position rfl shown
          simp [Registering.next, shown, DispatchCode.phase,
            DispatchPhase.snapshot, DispatchCode.invoked]
  | @outside _ _ event _ taken =>
      cases CallbackOutside.of_next taken with
      | registers =>
          exact ⟨[], by simp [registeringOf, CallbackThread.dispatch]⟩
      | throws | throwsInside => exact ⟨[], rfl⟩
      | @enters type =>
          refine ⟨[.enter type], ?_⟩
          simp [Registering.next, registeringOf, CallbackThread.dispatch,
            DispatchCode.phase, DispatchCode.invoked]
      | invokes found =>
          apply runLabels_dispatch found .invoke
          rintro state position rfl shown
          simp [Registering.next, shown, DispatchCode.phase,
            DispatchPhase.invoke, DispatchCode.invoked]
      | registersInside found =>
          refine ⟨[], congrArg some (registeringOf_set found ?_).symm⟩
          rfl
      | callbackReturns found =>
          apply runLabels_dispatch found .callbackReturns
          rintro state position rfl shown
          simp [Registering.next, shown, DispatchCode.phase,
            DispatchPhase.callbackReturns, DispatchCode.invoked]

theorem labels_of_atomics {start settled : Registry κ × List (CallbackThread κ)}
    (moved : Relation.ReflTransGen (callbackMonitor κ).Atomic start settled) :
    ∃ labels,
      runLabels Registering.next (registeringOf start.1 start.2) labels =
      some (registeringOf settled.1 settled.2) := by
  induction moved with
  | refl => exact ⟨[], rfl⟩
  | tail _ moved induction =>
      obtain ⟨labels, run⟩ := induction
      obtain ⟨label, run'⟩ := labels_of_atomic moved
      refine ⟨labels ++ label, ?_⟩
      rw [runLabels_append, run, Option.bind_some, run']

/-! No call of `on` is lost. -/

/-- The callback that a thread has yet to put on the list of a type. -/
def OnCode.pending (type : PubSubMessage) : OnCode κ → Option (Callback κ)
  | locking call | reading call | storing call _ =>
      if type = call.1.type then some call.1.callback else none
  | unlocking => none

def DispatchCode.pending (type : PubSubMessage) :
    DispatchCode κ → Option (Callback κ)
  | inCallback _ _ call => call.bind (OnCode.pending type)
  | locking | copying _ | unlocking _ | looping _ _ => none

def CallbackThread.pending (type : PubSubMessage) :
    CallbackThread κ → Option (Callback κ)
  | registering call => call.bind (OnCode.pending type)
  | dispatching _ code => code.pending type

/-- The callbacks that `on` was called with. -/
def calledWith (type : PubSubMessage)
    (labels : List (GuardedLabel Unit (CallbackEvent κ))) :
    List (Callback κ) :=
  labels.filterMap fun
    | .outside (.register registration)
    | .outside (.registerInside _ registration) =>
        if type = registration.type ∧ registration.Matching then
          some registration.callback
        else none
    | _ => none

/-- Between locking the mutex and unlocking it a thread puts on the list what it
has yet to. -/
theorem OnSection.balance {call : Matched κ} {code : OnCode κ}
    (worked : OnSection registry call current code) :
    current.callbacks type ++ (code.pending type).toList =
      registry.callbacks type ++
        ((OnCode.locking call).pending type).toList := by
  cases worked with
  | reading | storing => rfl
  | stored =>
      rw [Registry.callbacks_pushBack, OnCode.pending, OnCode.pending,
        Option.toList_none, List.append_nil]
      split <;> rfl

theorem CallbackSection.balance {start thread : CallbackThread κ}
    (worked : CallbackSection registry start current thread) :
    current.callbacks type ++ (thread.pending type).toList =
      registry.callbacks type ++ (start.pending type).toList := by
  cases worked with
  | registering worked | calling worked => exact worked.balance
  | copying | copied => rfl

theorem CallbackThread.unlock_pending {before after : CallbackThread κ}
    (unlocked : before.unlock = some after) :
    after.pending type = before.pending type := by
  unfold CallbackThread.unlock at unlocked
  split at unlocked
  · obtain rfl := Option.some.inj unlocked
    rfl
  · contradiction
  · obtain ⟨code, left, rfl⟩ := Option.map_eq_some_iff.mp unlocked
    unfold DispatchCode.unlock at left
    split at left
    · obtain rfl := Option.some.inj left
      rfl
    · obtain rfl := Option.some.inj left
      rfl
    all_goals contradiction

abbrev CallbackState (κ : Type) := Guarded (Registry κ) (CallbackThread κ)

/-- What is on a list and what is on its way there. -/
def recorded (type : PubSubMessage) (state : CallbackState κ) :
    List (Callback κ) :=
  state.data.callbacks type ++
    state.threads.filterMap (CallbackThread.pending type)

theorem recorded_set {thread thread' : CallbackThread κ} {locked locked' : Bool}
    {added : List (Callback κ)} (found : threads[index]? = some thread)
    (balance : registry'.callbacks type ++ (thread'.pending type).toList =
      registry.callbacks type ++ (added ++ (thread.pending type).toList)) :
    (recorded type ⟨registry', threads.set index thread', locked'⟩).Perm
      (recorded type ⟨registry, threads, locked⟩ ++ added) := by
  apply (List.perm_append_right_iff (thread.pending type).toList).mp
  simp only [recorded, List.append_assoc]
  have exchanged :
      ((threads.set index thread').filterMap (CallbackThread.pending type) ++
      (thread.pending type).toList).Perm
      (threads.filterMap (CallbackThread.pending type) ++
        (thread'.pending type).toList) :=
    perm_filterMap_set found
  refine (exchanged.append_left _).trans ?_
  refine (List.perm_append_comm.append_left _).trans ?_
  rw [← List.append_assoc, balance, List.append_assoc]
  exact List.perm_append_comm.append_left _

variable {labels : List (GuardedLabel Unit (CallbackEvent κ))}
  {label : GuardedLabel Unit (CallbackEvent κ)} {state after : CallbackState κ}
  {settled : Registry κ × List (CallbackThread κ)}

theorem calledWith_register {registration : Registration κ}
    (matching : registration.Matching) (type : PubSubMessage) :
    calledWith type [.outside (.register registration)] =
      [CallbackThread.registering
        (some (.locking ⟨registration, matching⟩))].filterMap
        (CallbackThread.pending type) := by
  by_cases same : type = registration.type <;>
    simp [calledWith, CallbackThread.pending, OnCode.pending, same, matching]

theorem recorded_outside {event : CallbackEvent κ} {locked : Bool}
    (step : CallbackOutside threads event threads') (type : PubSubMessage) :
    (recorded type ⟨registry, threads', locked⟩).Perm
      (recorded type ⟨registry, threads, locked⟩ ++
        calledWith type [.outside event]) := by
  cases step with
  | registers matching =>
      rw [recorded, List.filterMap_append, ← List.append_assoc,
        calledWith_register matching]
      rfl
  | throws mismatched | throwsInside _ mismatched =>
      simp [calledWith, mismatched]
  | enters =>
      rw [recorded, List.filterMap_append, ← List.append_assoc]
      rfl
  | invokes found | callbackReturns found => exact recorded_set found rfl
  | registersInside found matching =>
      apply recorded_set found
      simp only [calledWith, matching, and_true, List.filterMap_cons,
        List.filterMap_nil]
      simp only [CallbackThread.pending, DispatchCode.pending, Option.bind_some,
        OnCode.pending]
      split <;> rfl

theorem recorded_step (behind : (callbackMonitor κ).Behind state settled)
    (taken : (callbackMonitor κ).next state label = some after)
    (type : PubSubMessage) :
    (recorded type after).Perm (recorded type state ++
      calledWith type [label]) := by
  cases label with
  | lock index =>
      simp only [Steps.next] at taken
      split at taken
      · contradiction
      · obtain ⟨thread, locked, rfl⟩ := Option.map_eq_some_iff.mp taken
        obtain ⟨start, found, locked⟩ := Option.bind_eq_some_iff.mp locked
        have worked : CallbackSection state.data start state.data thread :=
          .of_lock locked
        exact recorded_set found worked.balance
  | inside index event =>
      simp only [Steps.next] at taken
      obtain ⟨⟨registry, thread'⟩, stepped, rfl⟩ :=
        Option.map_eq_some_iff.mp taken
      obtain ⟨thread, found, moved⟩ := Option.bind_eq_some_iff.mp stepped
      obtain ⟨data, start, worked⟩ :=
        behind.worked found ((callbackMonitor κ).inside_holds moved).1
      have begun := CallbackSection.of_section worked
      apply recorded_set found
      exact (begun.inside moved).balance.trans begun.balance.symm
  | unlock index =>
      simp only [Steps.next] at taken
      obtain ⟨thread', left, rfl⟩ := Option.map_eq_some_iff.mp taken
      obtain ⟨thread, found, unlocked⟩ := Option.bind_eq_some_iff.mp left
      apply recorded_set found
      rw [CallbackThread.unlock_pending unlocked]
      rfl
  | outside event =>
      obtain ⟨threads, moved, rfl⟩ := Option.map_eq_some_iff.mp taken
      exact recorded_outside (.of_next moved) type

theorem unheld_nil (index : Nat) : ¬ (callbackMonitor κ).Held [] index := by
  rintro ⟨_, found, _⟩
  contradiction

theorem recorded_run
    (run : runLabels (callbackMonitor κ).next ⟨{}, [], false⟩ labels =
      some state) (type : PubSubMessage) :
    (calledWith type labels).Perm (recorded type state) := by
  induction labels using List.reverseRecOn generalizing state with
  | nil =>
      obtain rfl := Option.some.inj run
      cases type <;> rfl
  | append_singleton earlier label induction =>
      rw [runLabels_append, Option.bind_eq_some_iff] at run
      obtain ⟨before, prefixRun, taken⟩ := run
      simp only [runLabels_cons, runLabels_nil, Option.bind_fun_some] at taken
      obtain ⟨_, _, behind⟩ := Monitor.behind_of_reach unheld_nil
          (reach_of_runLabels prefixRun)
      calc calledWith type (earlier ++ [label])
        _ = calledWith type earlier ++ calledWith type [label] :=
            List.filterMap_append
        _ |>.Perm (recorded type before ++ calledWith type [label]) :=
            (induction prefixRun).append_right _
        _ |>.Perm (recorded type state) :=
            (recorded_step behind taken type).symm

/-! No copy is torn. -/

/-- What a dispatch has copied is on the list. -/
def CallbackThread.Copied (registry : Registry κ) : CallbackThread κ → Prop
  | registering _ => True
  | dispatching type code => code.copy <+: registry.callbacks type

theorem OnSection.grows {call : Matched κ} {code : OnCode κ}
    (worked : OnSection registry call current code) (type : PubSubMessage) :
    registry.callbacks type <+: current.callbacks type := by
  cases worked with
  | reading | storing => exact List.prefix_rfl
  | stored =>
      rw [Registry.callbacks_pushBack]
      exact List.prefix_append _ _

theorem CallbackSection.grows {start thread : CallbackThread κ}
    (worked : CallbackSection registry start current thread)
    (type : PubSubMessage) :
    registry.callbacks type <+: current.callbacks type := by
  cases worked with
  | registering worked | calling worked => exact worked.grows type
  | copying | copied => exact List.prefix_rfl

theorem CallbackSection.copied_others {start thread other : CallbackThread κ}
    (worked : CallbackSection registry start current thread)
    (copied : other.Copied registry) :
    other.Copied current := by
  cases other with
  | registering => trivial
  | dispatching type code => exact copied.trans (worked.grows type)

theorem CallbackSection.copied_kept {start thread : CallbackThread κ}
    (worked : CallbackSection registry start current thread)
    (copied : start.Copied registry) :
    thread.Copied current := by
  cases worked with
  | registering => trivial
  | @calling type _ _ _ _ _ worked => exact copied.trans (worked.grows type)
  | copying begun => exact begun
  | copied => exact List.prefix_rfl

theorem copied_apart {labels : List (Label κ)}
    (run : runLabels Registering.next {} labels =
      some (registeringOf registry threads)) {thread : CallbackThread κ}
    (member : thread ∈ threads) (idle : thread.holds = false) :
    thread.Copied registry := by
  cases thread with
  | registering => trivial
  | dispatching type code =>
      have inv := Registering.inv_run run
      have shown : { type, phase := code.phase, invoked := code.invoked } ∈
          threads.filterMap CallbackThread.dispatch :=
          List.mem_filterMap.mpr ⟨_, member, rfl⟩
      obtain ⟨position, found⟩ := List.mem_iff_getElem?.mp shown
      cases code with
      | locking => exact List.nil_prefix
      | copying | unlocking => contradiction
      | looping invoked todo | inCallback invoked todo =>
          cases inv.consistent position _ found with
          | copied earlier later split _ _ _ whole =>
              have listed :
                  registry.callbacks type = registeredBy type labels :=
                inv.registered type
              have whole : invoked ++ todo = registeredBy type earlier := whole
              change invoked ++ todo <+: registry.callbacks type
              rw [listed, whole]
              exact Registering.registeredBy_prefix ⟨_, split.symm⟩

/-! Whoever holds the mutex comes to unlock it. -/

theorem OnSection.live {call : Matched κ} {code : OnCode κ}
    (worked : OnSection registry call current code) :
    code = .unlocking ∨ ∃ after, code.inside current = some after := by
  cases worked with
  | reading | storing => exact .inr ⟨_, rfl⟩
  | stored => exact .inl rfl

theorem CallbackSection.live {start thread : CallbackThread κ}
    (worked : CallbackSection registry start current thread) :
    (∃ after, thread.unlock = some after) ∨
      ∃ event after, thread.inside event current = some after := by
  cases worked with
  | registering worked =>
      rcases worked.live with rfl | ⟨after, moved⟩
      · exact .inl ⟨_, rfl⟩
      · exact .inr ⟨(), _, congrArg (Option.map _) moved⟩
  | calling worked =>
      rcases worked.live with rfl | ⟨after, moved⟩
      · exact .inl ⟨_, rfl⟩
      · exact .inr ⟨(), _, congrArg (Option.map _ ∘ Option.map _) moved⟩
  | @copying type copied =>
      refine .inr ⟨(), ?_⟩
      simp only [CallbackThread.inside, DispatchCode.inside]
      cases (registry.callbacks type)[copied.length]? with
      | none => exact ⟨_, rfl⟩
      | some callback => exact ⟨_, rfl⟩
  | copied => exact .inl ⟨_, rfl⟩

/-- The mutex does its work, down to the single accesses of the lists: no two
threads are inside at once, and every dispatch and the lists are as if each
`push_back` and each copy were a single step.  So no call of `on` is lost: what
is on a list, and what the calls that have not come to it yet are to put there,
is together what `on` was called with.  What a dispatch has copied is always the
first part of its list.  A thread that waits for the mutex, in a callback as
elsewhere, is held up by nobody but a holder that can go on. -/
theorem callback_sections_are_atomic
    (run : runLabels (callbackMonitor κ).next ⟨{}, [], false⟩ labels =
      some state) :
    (∀ first second, (callbackMonitor κ).Held state.threads first →
      (callbackMonitor κ).Held state.threads second → first = second) ∧
    (∃ steps settled, (callbackMonitor κ).Behind state settled ∧
      runLabels Registering.next {} steps =
        some (registeringOf settled.1 settled.2)) ∧
    (∀ type, (calledWith type labels).Perm (state.data.callbacks type ++
      state.threads.filterMap (CallbackThread.pending type))) ∧
    (∀ type code, .dispatching type code ∈ state.threads →
      code.copy <+: state.data.callbacks type) ∧
    ((∃ thread ∈ state.threads, (∃ after, thread.lock = some after) ∨
      thread.holds = true) →
      ∃ label after, label.AtMutex ∧ (callbackMonitor κ).next state label =
        some after) := by
  obtain ⟨settled, moved, behind⟩ :=
    Monitor.behind_of_reach unheld_nil (reach_of_runLabels run)
  obtain ⟨steps, stepped⟩ := labels_of_atomics moved
  refine ⟨fun _ _ => behind.exclusive, ⟨steps, settled, behind, stepped⟩,
    recorded_run run, fun type code member => ?_, behind.advances fun worked =>
    (CallbackSection.of_section worked).live⟩
  have copied : ∀ thread ∈ state.threads, thread.Copied state.data := by
    apply behind.all fun _ => copied_apart stepped
    · intro _ _ _ _ worked
      exact (CallbackSection.of_section worked).copied_kept
    · intro _ _ _ _ _ worked
      exact (CallbackSection.of_section worked).copied_others
  exact copied _ member

/-- A callback has been registered and is being invoked; it registers another
one, and has read the list for it, but not stored the longer one. -/
def nestedRun : List (GuardedLabel Unit (CallbackEvent Nat)) :=
  [.outside (.register ⟨.TargetData, .message (.of .TargetData), some 0⟩),
    .lock 0, .inside 0 (), .inside 0 (), .unlock 0,
    .outside (.enter .TargetData), .lock 1, .inside 1 (), .inside 1 (),
    .unlock 1, .outside (.invoke 1),
    .outside (.registerInside 1 ⟨.TargetData, .message (.of .TargetData),
      some 1⟩), .lock 1, .inside 1 ()]

theorem callback_sections_are_atomic_nestedRun : ∃ state : CallbackState Nat,
    state.data = { targetCallbacks := [some 0] } ∧
      state.threads.map (CallbackThread.pending .TargetData) =
      [none, some (some 1)] ∧
      (calledWith .TargetData nestedRun).Perm
      (state.data.callbacks .TargetData ++
        state.threads.filterMap (CallbackThread.pending .TargetData)) ∧
      (∃ steps settled, (callbackMonitor Nat).Behind state settled ∧
        runLabels Registering.next {} steps =
        some (registeringOf settled.1 settled.2)) := by
  have executed :
      (runLabels (callbackMonitor Nat).next ⟨{}, [], false⟩ nestedRun).map
      (fun state =>
        (state.data, state.threads.map (CallbackThread.pending .TargetData))) =
      some ({ targetCallbacks := [some 0] }, [none, some (some 1)]) := by
    decide
  obtain ⟨state, run, facts⟩ := Option.map_eq_some_iff.mp executed
  obtain ⟨data, threads⟩ := Prod.mk.inj facts
  obtain ⟨_, refines, recorded, _⟩ := callback_sections_are_atomic run
  exact ⟨state, data, threads, recorded .TargetData, refines⟩

end Farsounder.Subscriber
