import Farsounder.Subscriber.Ownership

namespace Farsounder.Subscriber.Ownership

open Farsounder.Data

variable {state after : State}

namespace State

theorem implOf_out {object : Nat} (out : state.objects.length ≤ object) :
    state.implOf object = none := by
  simp [implOf, live?, List.getElem?_eq_none out]

theorem live?_inside {object : Nat} {subscriber : Object}
    (live : state.live? object = some subscriber) :
    object < state.objects.length := by
  grind [live?]

theorem implOf_set {object : Nat} (inside : object < state.objects.length)
    (new : Object) (other : Nat) :
    implOf { state with objects := state.objects.set object new } other =
      if other = object then (if new.destroyed then none else new.impl)
      else state.implOf other := by
  simp only [implOf, live?, List.getElem?_set]
  grind

theorem implOf_append (state : State) (new : Object) (other : Nat) :
    implOf { state with objects := state.objects ++ [new] } other =
      if other = state.objects.length then
        (if new.destroyed then none else new.impl)
      else state.implOf other := by
  simp only [implOf, live?, List.getElem?_append]
  grind

theorem setImpl_implOf {object : Nat} {subscriber : Object}
    (live : state.live? object = some subscriber) (impl : Option Nat)
    (other : Nat) :
    (state.setImpl object impl).implOf other =
      if other = object then impl else state.implOf other := by
  rw [setImpl, implOf_set (live?_inside live)]
  rfl

theorem setImpl_live? {object other : Nat} {subscriber : Object}
    {impl : Option Nat}
    (live : (state.setImpl object impl).live? other = some subscriber)
    (distinct : other ≠ object) : state.live? other = some subscriber := by
  simp only [live?, setImpl, List.getElem?_set_ne distinct.symm] at live
  exact live

theorem impl?_set {address : Nat} {old : Impl}
    (found : state.impl? address = some old) (new : Impl) (other : Nat) :
    impl? { state with impls := state.impls.set address new } other =
      if other = address then some new else state.impl? other := by
  simp only [impl?, List.getElem?_set] at *
  grind

theorem impl?_append (state : State) (new : Impl) (other : Nat) :
    impl? { state with impls := state.impls ++ [new] } other =
      if other = state.impls.length then some new else state.impl? other := by
  simp only [impl?, List.getElem?_append]
  grind

theorem worker?_set {index : Nat} {old : Worker}
    (found : state.worker? index = some old) (new : Worker) (other : Nat) :
    worker? { state with workers := state.workers.set index new } other =
      if other = index then some new else state.worker? other := by
  simp only [worker?, List.getElem?_set] at *
  grind

theorem worker?_append (state : State) (new : Worker) (other : Nat) :
    worker? { state with workers := state.workers ++ [new] } other =
      if other = state.workers.length then some new
        else state.worker? other := by
  simp only [worker?, List.getElem?_append]
  grind

theorem deleteImpl_impl? (state : State) (impl : Option Nat) (other : Nat) :
    (state.deleteImpl impl).impl? other =
      if impl = some other then (state.impl? other).map Impl.destroy
      else state.impl? other := by
  unfold deleteImpl
  grind [impl?]

theorem deleteImpl_objects (state : State) (impl : Option Nat) :
    (state.deleteImpl impl).objects = state.objects := by
  unfold deleteImpl
  split
  · rfl
  · split <;> rfl

theorem deleteImpl_implOf (state : State) (impl : Option Nat) (other : Nat) :
    (state.deleteImpl impl).implOf other = state.implOf other := by
  simp only [implOf, live?, deleteImpl_objects]

@[simp] theorem deleteImpl_worker? (state : State) (impl : Option Nat)
    (index : Nat) :
    (state.deleteImpl impl).worker? index = state.worker? index := by
  unfold deleteImpl
  split
  · rfl
  · split <;> rfl

@[simp] theorem deleteImpl_call (state : State) (impl : Option Nat) :
    (state.deleteImpl impl).call = state.call := by
  unfold deleteImpl
  split
  · rfl
  · split <;> rfl

theorem deleteImpl_alive {pointer : Option Nat}
    (alive : state.terminated = false)
    (idle : ∀ address impl, pointer = some address →
      state.impl? address = some impl →
      impl.worker = none) : (state.deleteImpl pointer).terminated = false := by
  cases pointer with
  | none => exact alive
  | some address =>
      cases found : state.impl? address with
      | none => simpa [deleteImpl, found] using alive
      | some impl =>
          simp [deleteImpl, found, alive, idle address impl rfl found]

theorem deleteImpl_terminates {address : Nat} {impl : Impl}
    (found : state.impl? address = some impl)
    (joinable : impl.worker.isSome = true) :
    (state.deleteImpl (some address)).terminated = true := by
  simp [deleteImpl, found, joinable]

end State

@[simp] theorem Impl.lifecycle_joinable (impl : Impl) :
    impl.lifecycle.joinable = impl.worker.isSome := by
  cases worker : impl.worker
    <;> simp [Impl.lifecycle, Lifecycle.joinable, worker]

theorem Impl.lifecycle_free (impl : Impl) :
    impl.lifecycle.thread = .none ↔ impl.worker = none := by
  cases worker : impl.worker <;> simp [Impl.lifecycle, worker]

theorem Impl.lifecycle_thread (impl : Impl) :
    impl.lifecycle.thread ≠ .temporary := by
  cases worker : impl.worker <;> simp [Impl.lifecycle, worker]

structure Inv (state : State) : Prop where
  alive : state.terminated = false
  holds : ∀ object address, state.implOf object = some address →
    ∃ impl : Impl, state.impl? address = some impl ∧ impl.destroyed = false
  unique : ∀ object other address, state.implOf object = some address →
    state.implOf other = some address → object = other
  held : ∀ address (impl : Impl), state.impl? address = some impl →
    impl.destroyed = false →
    ∃ object, state.implOf object = some address
  joined : ∀ address (impl : Impl), state.impl? address = some impl →
    impl.destroyed = true →
    impl.worker = none
  rest : ∀ address (impl : Impl), state.impl? address = some impl →
    impl.destroyed = false →
    (∀ call, state.call = some call → state.implOf call.object = some address →
      call.phase.acts = false) → impl.running = impl.worker.isSome
  calls : ∀ call, state.call = some call →
    (call.destructs = true → call.phase.ofStop = true) ∧
    ∃ address, ∃ impl : Impl, state.implOf call.object = some address ∧
      state.impl? address = some impl ∧ call.phase.Fits impl.lifecycle false
  working : ∀ index (worker : Worker), state.worker? index = some worker →
    worker.finished = false →
    ∃ impl : Impl, state.impl? worker.startedFor = some impl ∧
    impl.destroyed = false ∧
      impl.worker = some index
  pending : ∀ index (worker : Worker), state.worker? index = some worker →
    worker.read = none →
    worker.finished = false ∧
    state.implOf worker.captured = some worker.startedFor
  reads : ∀ index (worker : Worker) read, state.worker? index = some worker →
    worker.read = some read → read = .impl worker.startedFor

theorem Inv.construct (inv : Inv state) (free : state.call = none) :
    Inv state.construct := by
  have objects : ∀ other, state.construct.implOf other =
      if other = state.objects.length then some state.impls.length
      else state.implOf other := fun other => State.implOf_append _ _ other
  have impls : ∀ other, state.construct.impl? other =
      if other = state.impls.length then some {} else state.impl? other :=
    fun other => State.impl?_append _ _ other
  have fresh : state.implOf state.objects.length = none :=
    State.implOf_out (Nat.le_refl _)
  have unused : state.impl? state.impls.length = none :=
    List.getElem?_eq_none (Nat.le_refl _)
  have call : state.construct.call = none := free
  have workers : ∀ index, state.construct.worker? index = state.worker? index :=
    fun _ => rfl
  constructor
  case alive => exact inv.alive
  case holds => grind [inv.holds]
  case unique => grind [inv.unique, inv.holds]
  case held => grind [inv.held]
  case joined => grind [inv.joined]
  case rest => grind [inv.rest]
  case calls => grind
  case working => grind [inv.working]
  case pending => grind [inv.pending]
  case reads => grind [inv.reads]

theorem Inv.transfers {source target : Nat} (inv : Inv state)
    (free : state.call = none) (empty : state.implOf target = none)
    (objects : ∀ other, after.implOf other =
      if other = target then state.implOf source
      else if other = source then none else state.implOf other)
    (impls : ∀ address, after.impl? address = state.impl? address)
    (workers : ∀ index, after.worker? index = state.worker? index)
    (call : after.call = none) (alive : after.terminated = false)
    (entered : ∀ index worker, state.worker? index = some worker →
      worker.read = none →
      worker.captured ≠ source) : Inv after := by
  constructor
  case alive => exact alive
  case holds => grind [inv.holds]
  case unique => grind [inv.unique]
  case held =>
      intro address impl found kept
      obtain ⟨object, owned⟩ := inv.held address impl
          ((impls address).symm.trans found) kept
      by_cases moved : object = source
      · exact ⟨target, by grind⟩
      · exact ⟨object, by grind⟩
  case joined => grind [inv.joined]
  case rest => grind [inv.rest]
  case calls => grind
  case working => grind [inv.working]
  case pending => grind [inv.pending]
  case reads => grind [inv.reads]

theorem Inv.drops {object : Nat} (inv : Inv state) (free : state.call = none)
    (objects : ∀ other, after.implOf other = if other = object then none
      else state.implOf other) (impls : ∀ address, after.impl? address =
      if state.implOf object = some address then
        (state.impl? address).map Impl.destroy
      else state.impl? address)
    (workers : ∀ index, after.worker? index = state.worker? index)
    (call : after.call = none) (alive : after.terminated = false)
    (idle : ∀ address impl, state.implOf object = some address →
      state.impl? address = some impl → impl.worker = none) : Inv after := by
  constructor
  case alive => exact alive
  case holds => grind [inv.holds, inv.unique]
  case unique => grind [inv.unique]
  case held => grind [inv.held, Option.map_eq_some_iff, Impl.destroy]
  case joined => grind [inv.joined, Option.map_eq_some_iff, Impl.destroy]
  case rest => grind [inv.rest, Option.map_eq_some_iff, Impl.destroy]
  case calls => grind
  case working => grind [inv.working]
  case pending => grind [inv.pending, inv.working]
  case reads => grind [inv.reads]

theorem Inv.moveConstruct {source : Nat} (inv : Inv state)
    (free : state.call = none)
    (entered : ∀ index worker, state.worker? index = some worker →
      worker.read = none →
      worker.captured ≠ source)
    (taken : state.moveConstruct source = some after) : Inv after := by
  simp only [State.moveConstruct, Option.bind_eq_bind, Option.bind_eq_some_iff,
    Option.some.injEq] at taken
  obtain ⟨moved, live, rfl⟩ := taken
  have owned : state.implOf source = moved.impl := by simp [State.implOf, live]
  have length :
      (state.setImpl source none).objects.length = state.objects.length :=
    List.length_set
  refine inv.transfers free (State.implOf_out (Nat.le_refl _)) ?_ (fun _ => rfl)
    (fun _ => rfl) free inv.alive entered
  intro other
  rw [State.implOf_append, length, State.setImpl_implOf live, owned]
  rfl

theorem setImpl_self {object : Nat} {subscriber : Object} {impl : Option Nat}
    (live : state.live? object = some subscriber) :
    (state.setImpl object impl).setImpl object subscriber.impl = state := by
  obtain ⟨found, kept⟩ := Option.filter_eq_some_iff.mp live
  have same : ({ impl := subscriber.impl } : Object) = subscriber := by
    cases subscriber
    simp_all
  simp only [State.setImpl, List.set_set, same]
  rw [List.getElem?_eq_some_iff] at found
  obtain ⟨inside, rfl⟩ := found
  rw [List.set_getElem_self]

theorem Inv.moveAssign {target source : Nat} (inv : Inv state)
    (free : state.call = none)
    (entered : ∀ index worker, state.worker? index = some worker →
      worker.read = none →
      worker.captured ≠ source)
    (stopped : target ≠ source → ∀ address impl,
      state.implOf target = some address →
      state.impl? address = some impl → impl.worker = none)
    (taken : state.moveAssign target source = some after) : Inv after := by
  simp only [State.moveAssign, Option.bind_eq_bind, Option.bind_eq_some_iff,
    Option.some.injEq] at taken
  obtain ⟨moved, live, assigned, assignedLive, rfl⟩ := taken
  by_cases self : target = source
  · subst self
    have empty : assigned.impl = none := by
      have released := State.setImpl_implOf live none target
      simpa [State.implOf, assignedLive] using released
    rw [empty, State.deleteImpl, setImpl_self live]
    exact inv
  · have targetLive := State.setImpl_live? assignedLive self
    have old : state.implOf target = assigned.impl := by
      simp [State.implOf, targetLive]
    have owned : state.implOf source = moved.impl := by
      simp [State.implOf, live]
    let dropped := (state.setImpl target none).deleteImpl assigned.impl
    have emptied : ∀ other, dropped.implOf other =
        if other = target then none else state.implOf other := by
      intro other
      rw [State.deleteImpl_implOf, State.setImpl_implOf targetLive]
    have middle : Inv dropped := by
      refine inv.drops free emptied ?_ (fun _ => State.deleteImpl_worker? _ _ _)
        ((State.deleteImpl_call _ _).trans free) ?_ (stopped self)
      · intro address
        rw [old]
        exact State.deleteImpl_impl? _ _ _
      · exact State.deleteImpl_alive inv.alive (old ▸ stopped self)
    have objects : ∀ other,
        (((state.setImpl source none).setImpl target moved.impl).deleteImpl
          assigned.impl).implOf other =
          if other = target then dropped.implOf source
          else if other = source then none else dropped.implOf other := by
      intro other
      rw [State.deleteImpl_implOf, State.setImpl_implOf assignedLive,
        State.setImpl_implOf live, emptied, emptied]
      grind
    refine middle.transfers ((State.deleteImpl_call _ _).trans free)
      ((emptied target).trans (if_pos rfl)) objects ?_ ?_
      ((State.deleteImpl_call _ _).trans free)
      (State.deleteImpl_alive inv.alive (old ▸ stopped self)) ?_
    · intro address
      simp only [dropped, State.deleteImpl_impl?]
      rfl
    · intro index
      simp only [dropped, State.deleteImpl_worker?]
      rfl
    · intro index worker found
      exact entered index worker
        ((State.deleteImpl_worker? (state.setImpl target none) _ _).symm.trans
          found)

theorem Inv.destroyObject {object : Nat} (inv : Inv state)
    (free : state.call = none) (inside : object < state.objects.length)
    (idle : ∀ address impl, state.implOf object = some address →
      state.impl? address = some impl → impl.worker = none) :
    Inv (state.destroyObject object) := by
  refine inv.drops free ?_ (fun _ => State.deleteImpl_impl? _ _ _)
    (fun _ => State.deleteImpl_worker? _ _ _)
      ((State.deleteImpl_call _ _).trans free)
    (State.deleteImpl_alive inv.alive idle) idle
  intro other
  rw [State.destroyObject, State.deleteImpl_implOf, State.implOf_set inside]
  rfl

theorem Inv.leave {call : OwnerCall} (inv : Inv { state with call := none })
    (inside : call.object < state.objects.length)
    (idle : call.destructs = true → ∀ address impl,
      state.implOf call.object = some address →
      state.impl? address = some impl → impl.worker = none) :
      Inv (state.leave call) := by
  unfold State.leave
  split
  · rename_i destructs
    exact inv.destroyObject rfl inside (idle destructs)
  · exact inv

/-- A statement of a call on an `Impl`. -/
structure Updates (state after : State) (object address : Nat) (new : Impl) :
    Prop where
  objects : ∀ other, after.implOf other = state.implOf other
  impls : ∀ other, after.impl? other = if other = address then some new
    else state.impl? other
  kept : new.destroyed = false
  calls : ∀ call, after.call = some call → call.object = object ∧
    call.phase.acts = true ∧
    (call.destructs = true → call.phase.ofStop = true) ∧
    call.phase.Fits new.lifecycle false
  rests : after.call = none → new.running = new.worker.isSome
  workers : ∀ index worker, after.worker? index = some worker →
    state.worker? index = some worker ∧
        (worker.finished = false → worker.startedFor = address →
          new.worker = some index) ∨
      worker = { captured := object, startedFor := address } ∧
      new.worker = some index
  alive : after.terminated = state.terminated

theorem Inv.updates {call : OwnerCall} {address : Nat} {new : Impl}
    (inv : Inv state) (calling : state.call = some call)
    (owned : state.implOf call.object = some address)
    (updates : Updates state after call.object address new) : Inv after := by
  obtain ⟨objects, impls, kept, calls, rests, workers, alive⟩ := updates
  constructor
  case alive => exact alive.trans inv.alive
  case holds => grind [inv.holds]
  case unique => grind [inv.unique]
  case held => grind [inv.held]
  case joined => grind [inv.joined]
  case rest =>
      intro other impl found live quiet
      rw [impls] at found
      split at found
      · rename_i same
        subst same
        obtain rfl := Option.some.inj found
        apply rests
        cases continued : after.call with
        | none => rfl
        | some next =>
            obtain ⟨same, acts, _⟩ := calls next continued
            have idle := quiet next continued (by rw [objects, same, owned])
            simp [acts] at idle
      · rename_i distinct
        apply inv.rest other impl found live
        intro current called currentOwned
        obtain rfl := Option.some.inj (calling.symm.trans called)
        exact absurd (Option.some.inj (currentOwned.symm.trans owned)) distinct
  case calls =>
      intro next continued
      obtain ⟨same, _, ofStop, fits⟩ := calls next continued
      exact ⟨ofStop, address, new, by rw [objects, same, owned], by
        rw [impls, if_pos rfl], fits⟩
  case working => grind [inv.working]
  case pending => grind [inv.pending]
  case reads => grind [inv.reads]

theorem Inv.handle {index address : Nat} {worker : Worker} {impl : Impl}
    (inv : Inv state) (working : state.worker? index = some worker)
    (live : worker.finished = false) (startedFor : worker.startedFor = address)
    (found : state.impl? address = some impl) :
    impl.worker = some index := by
  obtain ⟨current, same, _, handle⟩ := inv.working index worker working live
  rw [startedFor, found] at same
  exact Option.some.inj same ▸ handle

theorem Inv.returned {call : OwnerCall} {address : Nat} {impl : Impl}
    (inv : Inv state) (calling : state.call = some call)
    (owned : state.implOf call.object = some address)
    (found : state.impl? address = some impl) (kept : impl.destroyed = false)
    (rests : impl.running = impl.worker.isSome) :
    Inv { state with call := none } := by
  refine inv.updates calling owned
    ⟨fun _ => rfl, ?_, kept, by simp, fun _ => rests, ?_, rfl⟩
  · intro other
    split
    · rename_i same
      exact same ▸ found
    · rfl
  · intro index worker working
    exact .inl ⟨working, fun live startedFor =>
      inv.handle working live startedFor found⟩

theorem State.implOf_inside {object address : Nat}
    (owned : state.implOf object = some address) :
    object < state.objects.length := by
  obtain ⟨subscriber, live, _⟩ := Option.bind_eq_some_iff.mp owned
  exact State.live?_inside live

theorem Inv.owned_kept {object address : Nat} {impl : Impl} (inv : Inv state)
    (owned : state.implOf object = some address)
    (found : state.impl? address = some impl) :
    impl.destroyed = false := by
  obtain ⟨_, same, kept⟩ := inv.holds _ _ owned
  exact Option.some.inj (found.symm.trans same) ▸ kept

/-! The statement that a call is at, one lemma for each outcome. -/

section Settles

variable {call : OwnerCall} {address : Nat} {impl : Impl} (inv : Inv state)
  (calling : state.call = some call)
  (owned : state.implOf call.object = some address)
  (found : state.impl? address = some impl)

include inv calling owned found

theorem Inv.called : (call.destructs = true → call.phase.ofStop = true) ∧
    call.phase.Fits impl.lifecycle false := by
  obtain ⟨destructs, _, _, owned', found', fits⟩ := inv.calls call calling
  obtain rfl := Option.some.inj (owned.symm.trans owned')
  obtain rfl := Option.some.inj (found.symm.trans found')
  exact ⟨destructs, fits⟩

theorem Inv.entered_rests (entered : call.phase.acts = false) :
    impl.running = impl.worker.isSome := by
  refine inv.rest _ _ found (inv.owned_kept owned found) ?_
  intro current called _
  exact Option.some.inj (calling.symm.trans called) ▸ entered

theorem Inv.continues {lifecycle : Lifecycle} {phase : CallPhase}
    (advances : Advances false (state.workerFinished impl) impl.lifecycle
      call.phase
      .completes (.continues lifecycle phase)) :
    Inv (state.settle call address impl (.continues lifecycle phase)) := by
  obtain ⟨destructs, fits⟩ := inv.called calling owned found
  have kept : impl.destroyed = false := inv.owned_kept owned found
  have same : ({ impl with running := lifecycle.running } : Impl).lifecycle =
      lifecycle := by
    have thread := advances.continues
    cases lifecycle
    simpa [Impl.lifecycle] using thread.symm
  refine inv.updates calling owned ⟨fun _ => rfl, State.impl?_set found _, kept,
    ?_, by simp [State.settle], ?_, rfl⟩
  · intro next continued
    obtain rfl := Option.some.inj continued
    refine ⟨rfl, advances.acts rfl, ?_, ?_⟩
    · intro ofStop
      exact (advances.ofStop rfl).trans (destructs ofStop)
    · rw [same]
      refine advances.fits fits ?_ (by simp) rfl
      intro entered stopped
      have rests := inv.entered_rests calling owned found (by rw [entered]; rfl)
      exact impl.lifecycle_free.mpr
        (Option.isSome_eq_false_iff.mp (rests.symm.trans stopped) |>
          Option.isNone_iff_eq_none.mp)
  · intro index worker working
    exact .inl ⟨working, fun live startedFor =>
      show impl.worker = some index from
      inv.handle working live startedFor found⟩

theorem Inv.spawns
    (advances : Advances false (state.workerFinished impl) impl.lifecycle
      call.phase
      .completes .spawned) : Inv (state.settle call address impl .spawned) := by
  obtain ⟨_, fits⟩ := inv.called calling owned found
  have kept : impl.destroyed = false := inv.owned_kept owned found
  obtain ⟨stored, free⟩ := advances.spawned
  rw [stored] at fits
  refine inv.updates calling owned ⟨fun _ => rfl, State.impl?_set found _, kept,
    by simp [State.settle], fun _ => fits.1, ?_, rfl⟩
  intro index worker working
  have placed := (State.worker?_append state _ index).symm.trans working
  split at placed
  · rename_i last
    exact .inr ⟨(Option.some.inj placed).symm, by rw [last]⟩
  · refine .inl ⟨placed, ?_⟩
    intro live startedFor
    have handle := inv.handle placed live startedFor found
    rw [impl.lifecycle_free.mp free] at handle
    contradiction

theorem Inv.joins
    (advances : Advances false (state.workerFinished impl) impl.lifecycle
      call.phase
      .completes .joined) : Inv (state.settle call address impl .joined) := by
  obtain ⟨_, fits⟩ := inv.called calling owned found
  have kept : impl.destroyed = false := inv.owned_kept owned found
  obtain ⟨joining, _, _, finished⟩ := advances.joined
  rw [joining] at fits
  have ended : Inv { state with
      impls := state.impls.set address { impl with worker := none }, call :=
        none } := by
    refine inv.updates calling owned ⟨fun _ => rfl,
      State.impl?_set found _, kept, by simp, fun _ => fits.2, ?_, rfl⟩
    intro index worker working
    refine .inl ⟨working, ?_⟩
    intro live startedFor
    have handle := inv.handle working live startedFor found
    have joined : worker.finished = true := by
      simpa [State.workerFinished, handle,
        show state.worker? index = some worker from working]
        using finished
    simp [live] at joined
  refine ended.leave (State.implOf_inside owned) ?_
  intro _ other joined owned' found'
  obtain rfl := Option.some.inj (owned.symm.trans owned')
  rw [State.impl?_set found, if_pos rfl] at found'
  exact (Option.some.inj found') ▸ rfl

theorem Inv.callReturns
    (advances : Advances false (state.workerFinished impl) impl.lifecycle
      call.phase
      .completes .returns) : Inv (state.settle call address impl .returns) := by
  obtain ⟨destructs, fits⟩ := inv.called calling owned found
  have rests : impl.running = impl.worker.isSome := by
    cases acts : call.phase.acts with
    | true =>
        exact (advances.agrees fits acts (fun _ => rfl) rfl).trans
          impl.lifecycle_joinable
    | false => exact inv.entered_rests calling owned found acts
  have kept := inv.owned_kept owned found
  refine (inv.returned calling owned found kept rests).leave
    (State.implOf_inside owned) ?_
  intro ofStop other current owned' found'
  obtain rfl := Option.some.inj (owned.symm.trans owned')
  obtain rfl := Option.some.inj (found.symm.trans found')
  have stored : call.phase = .stopStored ∨ call.phase = .stopJoining →
      impl.running = false := by
    rintro (stored | joining)
    · rw [stored] at fits
      exact fits.2
    · rw [joining] at fits
      exact fits.2
  have stopped : impl.running = false :=
    advances.running_of_stop (destructs ofStop) stored rfl
  rw [rests] at stopped
  exact Option.isSome_eq_false_iff.mp stopped |> Option.isNone_iff_eq_none.mp

/-- No thread is assigned over a worker, and none is left to be assigned. -/
theorem Inv.not_over {outcome : CallOutcome}
    (advances : Advances false (state.workerFinished impl) impl.lifecycle
      call.phase
      .completes outcome) : outcome ≠ .terminates ∧ outcome ≠ .assigned := by
  obtain ⟨_, fits⟩ := inv.called calling owned found
  constructor
  · rintro rfl
    obtain ⟨stored | constructed, worker⟩ := advances.terminates
    · rw [stored] at fits
      exact absurd (fits.2.symm.trans worker) (by simp)
    · rw [constructed] at fits
      exact absurd (fits.2.symm.trans worker) (by simp)
  · rintro rfl
    exact impl.lifecycle_thread advances.assigned.2

end Settles

theorem Inv.proceed (inv : Inv state) (taken : state.proceed = some after) :
    Inv after := by
  simp only [State.proceed, Option.bind_eq_bind, Option.bind_eq_some_iff,
    Option.some.injEq] at taken
  obtain ⟨call, calling, address, owned, impl, found, outcome, advanced, rfl⟩ :=
    taken
  have advances := CallPhase.advances advanced
  have notOver := inv.not_over calling owned found advances
  cases outcome with
  | continues lifecycle phase =>
      exact inv.continues calling owned found advances
  | spawned => exact inv.spawns calling owned found advances
  | joined => exact inv.joins calling owned found advances
  | returns => exact inv.callReturns calling owned found advances
  | throws => exact absurd advances.throws (by simp)
  | assigned => exact absurd rfl notOver.2
  | terminates => exact absurd rfl notOver.1

theorem Inv.begins {call : OwnerCall} {address : Nat} (inv : Inv state)
    (free : state.call = none) (owned : state.implOf call.object = some address)
    (entered : call.phase = .startEntered ∧ call.destructs = false ∨
      call.phase = .stopEntered) : Inv { state with call := some call } := by
  have idle : call.phase.acts = false := by
    rcases entered with ⟨start, _⟩ | stop
    · rw [start]
      rfl
    · rw [stop]
      rfl
  refine ⟨inv.alive, inv.holds, inv.unique, inv.held, inv.joined, ?_, ?_,
    inv.working, inv.pending, inv.reads⟩
  · intro other impl found kept _
    exact inv.rest other impl found kept (by simp [free])
  · intro current called
    obtain rfl := Option.some.inj called
    obtain ⟨impl, found, _⟩ := inv.holds _ _ owned
    refine ⟨?_, address, impl, owned, found, ?_⟩
    · rcases entered with ⟨_, stays⟩ | stop
      · simp [stays]
      · simp [stop, CallPhase.ofStop]
    · rcases entered with ⟨start, _⟩ | stop
      · rw [start]
        trivial
      · rw [stop]
        trivial

theorem Inv.callStart {object : Nat} (inv : Inv state)
    (free : state.call = none) (taken : state.callStart object = some after) :
    Inv after := by
  simp only [State.callStart, Option.bind_eq_bind, Option.bind_eq_some_iff,
    Option.some.injEq] at taken
  obtain ⟨subscriber, live, address, holds, rfl⟩ := taken
  have owned : state.implOf object = some address := by
    simp [State.implOf, live, holds]
  exact inv.begins free owned (.inl ⟨rfl, rfl⟩)

theorem Inv.callStop {object : Nat} {destructs : Bool} (inv : Inv state)
    (free : state.call = none)
    (taken : state.callStop object destructs = some after) :
    Inv after := by
  simp only [State.callStop, Option.bind_eq_bind, Option.bind_eq_some_iff]
    at taken
  obtain ⟨subscriber, live, taken⟩ := taken
  have owned : state.implOf object = subscriber.impl := by
    simp [State.implOf, live]
  split at taken
  · rename_i empty
    obtain rfl := Option.some.inj taken
    have same : { state with call := none } = state := by rw [← free]
    refine Inv.leave (same.symm ▸ inv) (State.live?_inside live) ?_
    intro _ address impl holds
    simp [owned, empty] at holds
  · rename_i address holds
    obtain rfl := Option.some.inj taken
    exact inv.begins free (owned.trans holds) (.inr rfl)

theorem Inv.works {index : Nat} {old new : Worker} (inv : Inv state)
    (found : state.worker? index = some old)
    (startedFor : new.startedFor = old.startedFor)
    (live : new.finished = false → old.finished = false)
    (reads : new.read = some (.impl old.startedFor)) :
    Inv { state with workers := state.workers.set index new } := by
  have workers := State.worker?_set found new
  refine ⟨inv.alive, inv.holds, inv.unique, inv.held, inv.joined, inv.rest,
    inv.calls, ?_, ?_, ?_⟩
  · intro other worker working unfinished
    rw [workers] at working
    split at working
    · rename_i same
      obtain rfl := Option.some.inj working
      obtain ⟨impl, held, kept, handle⟩ := inv.working index old found
          (live unfinished)
      exact ⟨impl, startedFor ▸ held, kept, same ▸ handle⟩
    · exact inv.working other worker working unfinished
  · intro other worker working waits
    rw [workers] at working
    split at working
    · obtain rfl := Option.some.inj working
      simp [waits] at reads
    · exact inv.pending other worker working waits
  · intro other worker read working current
    rw [workers] at working
    split at working
    · obtain rfl := Option.some.inj working
      rw [startedFor]
      exact Option.some.inj (current.symm.trans reads)
    · exact inv.reads other worker read working current

theorem Inv.firstRead {index : Nat} {worker : Worker} (inv : Inv state)
    (found : state.worker? index = some worker) (waits : worker.read = none) :
    state.firstRead worker.captured = .impl worker.startedFor := by
  obtain ⟨_, owned⟩ := inv.pending index worker found waits
  obtain ⟨subscriber, live, holds⟩ := Option.bind_eq_some_iff.mp owned
  simp [State.firstRead, live, holds]

theorem Inv.enter {index : Nat} (inv : Inv state)
    (taken : state.enter index = some after) :
    Inv after := by
  simp only [State.enter, Option.bind_eq_bind, Option.bind_eq_some_iff] at taken
  obtain ⟨worker, found, taken⟩ := taken
  split at taken
  · contradiction
  · rename_i waits
    obtain rfl := Option.some.inj taken
    refine inv.works found rfl id ?_
    rw [inv.firstRead found (by simpa using waits)]

theorem Inv.finish {index : Nat} (inv : Inv state)
    (taken : state.finish index = some after) :
    Inv after := by
  simp only [State.finish, Option.bind_eq_bind, Option.bind_eq_some_iff]
    at taken
  obtain ⟨worker, found, taken⟩ := taken
  split at taken
  · rename_i address read
    obtain ⟨impl, _, taken⟩ := Option.bind_eq_some_iff.mp taken
    split at taken
    · contradiction
    · obtain rfl := Option.some.inj taken
      exact inv.works found rfl (by simp)
        (read.trans (congrArg _ (inv.reads _ _ _ found read)))
  · contradiction

/-! The conditions on the steps. -/

/-- A worker that the Subscriber started has not yet made its first step. -/
def State.Awaits (state : State) (object : Nat) : Prop :=
  ∃ worker ∈ state.workers, worker.captured = object ∧ worker.read = none

def State.running (state : State) (object : Nat) : Bool :=
  ((state.implOf object).bind state.impl?).any (·.running)

/-- No Subscriber is moved from before its worker has made its first step. -/
def SourceEntered (state : State) : Label → Prop
  | .operation (.moveConstruct source) => ¬ state.Awaits source
  | .operation (.moveAssign _ source) => ¬ state.Awaits source
  | _ => True

/-- No other Subscriber is moved into one that runs. -/
def TargetStopped (state : State) : Label → Prop
  | .operation (.moveAssign target source) =>
      target = source ∨ state.running target = false
  | _ => True

/-- Every worker has entered `run_loop` before the next operation. -/
def WorkersEntered (state : State) : Label → Prop
  | .operation _ => ∀ worker ∈ state.workers, worker.read ≠ none
  | _ => True

instance (state : State) (object : Nat) : Decidable (state.Awaits object) :=
  inferInstanceAs (Decidable (∃ worker ∈ state.workers, _))

instance (state : State) (label : Label) :
    Decidable (SourceEntered state label) :=
  match label with
  | .operation (.moveConstruct _) | .operation (.moveAssign _ _) =>
      inferInstanceAs (Decidable (¬ _))
  | .operation .construct | .operation (.start _) | .operation (.stop _)
  | .operation (.destroy _) | .proceed | .enter _ | .finish _ => .isTrue trivial

instance (state : State) (label : Label) :
    Decidable (TargetStopped state label) :=
  match label with
  | .operation (.moveAssign _ _) => inferInstanceAs (Decidable (_ ∨ _))
  | .operation (.moveConstruct _) | .operation .construct
  | .operation (.start _)
  | .operation (.stop _) | .operation (.destroy _) | .proceed | .enter _
  | .finish _ =>
      .isTrue trivial

instance (state : State) (label : Label) :
    Decidable (WorkersEntered state label) :=
  match label with
  | .operation _ => inferInstanceAs (Decidable (∀ worker ∈ state.workers, _))
  | .proceed | .enter _ | .finish _ => .isTrue trivial

theorem WorkersEntered.sourceEntered {label : Label}
    (entered : WorkersEntered state label) :
    SourceEntered state label := by
  cases label with
  | operation operation =>
      cases operation with
      | moveConstruct source | moveAssign target source =>
          rintro ⟨worker, member, _, waits⟩
          exact entered worker member waits
      | construct | start | stop | destroy => trivial
  | proceed | enter | finish => trivial

theorem entered_of {object : Nat} (settled : ¬ state.Awaits object)
    (index : Nat) (worker : Worker) (found : state.worker? index = some worker)
    (waits : worker.read = none) :
    worker.captured ≠ object :=
  fun captured => settled ⟨worker, List.mem_of_getElem? found, captured, waits⟩

theorem Inv.unjoinable {object address : Nat} {impl : Impl} (inv : Inv state)
    (free : state.call = none) (owned : state.implOf object = some address)
    (found : state.impl? address = some impl) (stopped : impl.running = false) :
    impl.worker = none := by
  obtain ⟨_, same, kept⟩ := inv.holds object address owned
  obtain rfl := Option.some.inj (found.symm.trans same)
  have rests := inv.rest address impl found kept (by simp [free])
  rw [stopped] at rests
  exact Option.isNone_iff_eq_none.mp (Option.isSome_eq_false_iff.mp rests.symm)

theorem Inv.step {label : Label} (inv : Inv state)
    (entered : SourceEntered state label) (stopped : TargetStopped state label)
    (taken : next state label = some after) : Inv after := by
  cases label with
  | proceed => exact inv.proceed (by simpa [next, inv.alive] using taken)
  | enter worker => exact inv.enter (by simpa [next, inv.alive] using taken)
  | finish worker => exact inv.finish (by simpa [next, inv.alive] using taken)
  | operation operation =>
      simp only [next, inv.alive, Bool.false_eq_true, if_false] at taken
      split at taken
      · contradiction
      · rename_i idle
        have free : state.call = none := by simpa using idle
        cases operation with
        | construct =>
            obtain rfl := Option.some.inj taken
            exact inv.construct free
        | moveConstruct source =>
            exact inv.moveConstruct free (entered_of entered) taken
        | moveAssign target source =>
            refine inv.moveAssign free (entered_of entered) ?_ taken
            intro distinct address impl owned found
            refine inv.unjoinable free owned found ?_
            simpa [State.running, owned, found]
              using stopped.resolve_left distinct
        | start object => exact inv.callStart free taken
        | stop object | destroy object => exact inv.callStop free taken

theorem inv_initial : Inv {} := by
  refine ⟨rfl, ?_, ?_, ?_, ?_, ?_, ?_, ?_, ?_, ?_⟩ <;>
    simp [State.implOf, State.live?, State.impl?, State.worker?]

theorem inv_of_reach
    (reach : Reach next (fun state label => SourceEntered state label ∧
      TargetStopped state label) {} state) : Inv state :=
  reach.invariant inv_initial fun inv permitted taken =>
    inv.step permitted.1 permitted.2 taken

/-- The `Impl` that the target of a move held is destroyed with its worker. -/
theorem Inv.running_target_terminates {target source : Nat} (inv : Inv state)
    (free : state.call = none) (distinct : target ≠ source)
    (running : state.running target = true)
    (taken : state.moveAssign target source = some after) :
    after.terminated = true := by
  simp only [State.moveAssign, Option.bind_eq_bind, Option.bind_eq_some_iff,
    Option.some.injEq] at taken
  obtain ⟨moved, live, assigned, assignedLive, rfl⟩ := taken
  have owned : state.implOf target = assigned.impl := by
    simp [State.implOf, State.setImpl_live? assignedLive distinct]
  obtain ⟨impl, held, flag⟩ := (Option.any_eq_true _ _).mp running
  obtain ⟨address, holds, found⟩ := Option.bind_eq_some_iff.mp held
  obtain ⟨_, same, kept⟩ := inv.holds target address holds
  obtain rfl := Option.some.inj (found.symm.trans same)
  have joinable := inv.rest address impl found kept (by simp [free])
  rw [← owned, holds]
  exact State.deleteImpl_terminates found (joinable.symm.trans flag)

/-- Every `Impl` that is destroyed has no worker, and one that a worker uses is
owned; to move into a Subscriber that runs ends the process. -/
theorem impl_destroyed_without_worker
    (reach : Reach next (fun state label => WorkersEntered state label ∧
      TargetStopped state label) {} state) :
    state.terminated = false ∧
    (∀ address impl, state.impl? address = some impl → impl.destroyed = true →
      impl.worker = none) ∧
    (∀ index worker, state.worker? index = some worker →
      worker.finished = false →
      ∃ object impl, state.implOf object = some worker.startedFor ∧
        state.impl? worker.startedFor = some impl ∧ impl.destroyed = false) ∧
    (∀ target source after,
      ¬ TargetStopped state (.operation (.moveAssign target source)) →
      next state (.operation (.moveAssign target source)) = some after →
        after.terminated = true) := by
  have inv : Inv state := inv_of_reach <| reach.mono fun _ _ permitted =>
    ⟨permitted.1.sourceEntered, permitted.2⟩
  refine ⟨inv.alive, inv.joined, ?_, ?_⟩
  · intro index worker found live
    obtain ⟨impl, held, kept, _⟩ := inv.working index worker found live
    obtain ⟨object, owned⟩ := inv.held _ impl held kept
    exact ⟨object, impl, owned, held, kept⟩
  · intro target source after breaks taken
    obtain ⟨distinct, runs⟩ := not_or.mp breaks
    simp only [next, inv.alive, Bool.false_eq_true, if_false] at taken
    split at taken
    · contradiction
    · rename_i idle
      exact inv.running_target_terminates (by simpa using idle) distinct
        (by simpa using runs) taken

/-! Runs of two Subscribers. -/

def startRun (object : Nat) : List Label :=
  .operation (.start object) :: List.replicate 3 .proceed

/-- A `stop` or a destructor, which waits for the worker to finish. -/
def stopRun (operation : Operation) (worker : Nat) : List Label :=
  .operation operation :: List.replicate 3 .proceed ++
    [.finish worker, .proceed]

/-- A running `Impl` is handed over, stopped by its new owner, and replaced. -/
def handedOver : List Label :=
  [.operation .construct, .operation .construct] ++ startRun 0 ++
    [.enter 0, .operation (.moveConstruct 0), .operation (.destroy 0)] ++
    stopRun (.stop 2) 0 ++ [.operation (.moveAssign 2 1)]

theorem impl_destroyed_without_worker_handedOver : ∃ state : State,
    state.impl? 0 =
      some { running := false, worker := none, destroyed := true } ∧
      state.terminated = false := by
  have executed : (runChecked next
      (fun state label =>
        decide (WorkersEntered state label ∧ TargetStopped state label))
      {} handedOver).map (·.impl? 0) =
      some (some { running := false, worker := none, destroyed := true }) := by
    decide +kernel
  obtain ⟨state, reach, destroyed⟩ := reach_of_observed executed
  obtain ⟨alive, _⟩ := impl_destroyed_without_worker reach
  exact ⟨state, destroyed, alive⟩

/-- A Subscriber that runs is assigned another one. -/
def replacedWhileRunning : List Label :=
  [.operation .construct, .operation .construct] ++ startRun 0 ++
    [.enter 0, .operation (.moveAssign 0 1)]

theorem assignment_destroys_running_impl : ∃ state : State, ∃ impl : Impl,
      ∃ worker : Worker,
    Reach next WorkersEntered {} state ∧ state.impl? 0 = some impl ∧
      impl.destroyed = true ∧ impl.worker = some 0 ∧
        state.worker? 0 = some worker ∧
      worker.read = some (.impl 0) ∧ worker.finished = false ∧
        state.terminated = true := by
  have executed :
      (runChecked next (fun state label =>
        decide (WorkersEntered state label)) {}
      replacedWhileRunning).map
        (fun state => (state.impl? 0, state.worker? 0, state.terminated)) =
      some (some { running := true, worker := some 0, destroyed := true },
        some { captured := 0, startedFor := 0, read := some (.impl 0) },
        true) := by
    decide +kernel
  obtain ⟨state, reach, facts⟩ := reach_of_observed executed
  simp only [Prod.mk.injEq] at facts
  obtain ⟨held, working, terminated⟩ := facts
  exact ⟨state, _, _, reach, held, rfl, rfl, working, rfl, rfl, terminated⟩

/-- The first step of a worker finds the `Impl` that `start` was called on,
however long it waits, and that `Impl` exists until the worker has finished. -/
theorem first_step_finds_started_impl
    (reach : Reach next (fun state label => SourceEntered state label ∧
      TargetStopped state label) {} state) :
    ∀ index worker, state.worker? index = some worker →
      (∀ read, worker.read = some read → read = .impl worker.startedFor) ∧
      (worker.read = none →
        state.firstRead worker.captured = .impl worker.startedFor) ∧
      (worker.finished = false → ∃ impl,
        state.impl? worker.startedFor = some impl ∧
        impl.destroyed = false) := by
  have inv := inv_of_reach reach
  intro index worker found
  refine ⟨fun read => inv.reads index worker read found,
    inv.firstRead found, ?_⟩
  intro live
  obtain ⟨impl, held, kept, _⟩ := inv.working index worker found live
  exact ⟨impl, held, kept⟩

theorem first_step_finds_started_impl_handedOver :
    ∃ state : State, ∃ worker : Worker,
    state.worker? 0 = some worker ∧
      worker.read = some (.impl worker.startedFor) := by
  have executed : (runChecked next
      (fun state label =>
        decide (SourceEntered state label ∧ TargetStopped state label))
      {} handedOver).map (·.worker? 0) =
      some (some
        { captured := 0, startedFor := 0, read := some (.impl 0)
          finished := true }) := by
    decide +kernel
  obtain ⟨state, reach, working⟩ := reach_of_observed executed
  obtain ⟨reads, _, _⟩ := first_step_finds_started_impl reach 0 _ working
  exact ⟨state, _, working, congrArg some (reads _ rfl)⟩

/-- A Subscriber is moved from while its worker has yet to make its first
step. -/
def movedTooSoon (between : List Label) : List Label :=
  [.operation .construct, .operation .construct] ++ startRun 0 ++
    .operation (.moveConstruct 0) :: between ++ [.enter 0]

/-- The worker started for the `Impl` at 0 can find this instead. -/
def Finds (read : FirstRead) : Prop :=
  ∃ state : State, Reach next TargetStopped {} state ∧
    state.worker? 0 = some { captured := 0, startedFor := 0, read := some read }

theorem finds_of_run {between : List Label} {read : FirstRead}
    (executed : (runChecked next (fun state label =>
      decide (TargetStopped state label)) {} (movedTooSoon between)).map
        (·.worker? 0) =
      some (some { captured := 0, startedFor := 0, read := some read })) :
      Finds read :=
  reach_of_observed executed

theorem first_step_misses_started_impl :
    Finds .null ∧ Finds .destroyedSubscriber ∧ Finds (.impl 1) := by
  refine ⟨?_, ?_, ?_⟩
  · exact @finds_of_run [] _ (by decide +kernel)
  · exact @finds_of_run [.operation (.destroy 0)] _ (by decide +kernel)
  · exact @finds_of_run [.operation (.moveAssign 0 1)] _ (by decide +kernel)

end Farsounder.Subscriber.Ownership
