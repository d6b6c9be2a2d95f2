import Farsounder.Data.Transition
import Farsounder.Subscriber.Dispatch
import Mathlib.Data.List.Induction

namespace Farsounder.Subscriber.Registering

open Config
open Farsounder.Data

/-! Registrations interleaved with dispatches.  Which thread takes a step does
not matter: `on` and the copy of a list are single steps under
`callback_mutex`, and the rest of a dispatch is local to it. -/

structure Dispatch (κ : Type) where
  type : PubSubMessage
  phase : DispatchPhase κ := .snapshotting
  invoked : List (Callback κ) := []
  deriving DecidableEq, Repr

/-- The copy of the list, as far as it is known: what the dispatch invoked and
what it has still to invoke. -/
def Dispatch.copy {κ : Type} (dispatch : Dispatch κ) : List (Callback κ) :=
  dispatch.invoked ++ dispatch.phase.todo

structure State (κ : Type) where
  registry : Registry κ := {}
  dispatches : List (Dispatch κ) := []
  deriving DecidableEq, Repr

inductive Label (κ : Type) where
  | on (registration : Registration κ)
  | enter (type : PubSubMessage)
  | snapshot (index : Nat)
  | invoke (index : Nat)
  | callbackReturns (index : Nat)
  deriving DecidableEq, Repr

variable {κ : Type}

namespace State

def setDispatch (state : State κ) (index : Nat) (dispatch : Dispatch κ) :
    State κ :=
  { state with dispatches := state.dispatches.set index dispatch }

end State

def next : StepFn (State κ) (Label κ)
  | state, .on registration =>
      some { state with registry := registration.apply state.registry }
  | state, .enter type =>
      some { state with dispatches := state.dispatches ++ [{ type }] }
  | state, .snapshot index => do
      let dispatch ← state.dispatches[index]?
      let phase ← dispatch.phase.snapshot state.registry dispatch.type
      some (state.setDispatch index { dispatch with phase })
  | state, .invoke index => do
      let dispatch ← state.dispatches[index]?
      let (callback, phase) ← dispatch.phase.invoke
      some (state.setDispatch index
        { dispatch with phase, invoked := dispatch.invoked ++ [callback] })
  | state, .callbackReturns index => do
      let dispatch ← state.dispatches[index]?
      let phase ← dispatch.phase.callbackReturns
      some (state.setDispatch index { dispatch with phase })

/-- The callbacks that the successful registrations of a run put on the list
of a type, in their order. -/
def registeredBy (type : PubSubMessage) (labels : List (Label κ)) :
    List (Callback κ) :=
  labels.filterMap fun
    | .on registration =>
        if type = registration.type ∧ registration.Matching then
          some registration.callback
        else none
    | _ => none

theorem registeredBy_append (type : PubSubMessage)
    (first second : List (Label κ)) :
    registeredBy type (first ++ second) =
      registeredBy type first ++ registeredBy type second :=
  List.filterMap_append

theorem registeredBy_prefix {type : PubSubMessage}
    {first second : List (Label κ)} (isPrefix : first <+: second) :
    registeredBy type first <+: registeredBy type second := by
  obtain ⟨rest, rfl⟩ := isPrefix
  exact ⟨registeredBy type rest, (registeredBy_append type first rest).symm⟩

/-- What a run says about one dispatch: it has not copied its list yet, or it
copied it once, and what it invoked and has still to invoke is what had been
registered by then. -/
inductive Consistent (labels : List (Label κ)) (index : Nat) :
    Dispatch κ → Prop
  | entered {type} (absent : .snapshot index ∉ labels) :
      Consistent labels index { type, phase := .snapshotting, invoked := [] }
  | copied {dispatch : Dispatch κ} (earlier later : List (Label κ))
      (split : labels = earlier ++ .snapshot index :: later)
      (notEarlier : .snapshot index ∉ earlier)
      (notLater : .snapshot index ∉ later)
      (past : dispatch.phase ≠ .snapshotting)
      (exact : dispatch.copy = registeredBy dispatch.type earlier) :
      Consistent labels index dispatch

structure Inv (labels : List (Label κ)) (state : State κ) : Prop where
  registered : ∀ type,
    state.registry.callbacks type = registeredBy type labels
  bounded : ∀ index, .snapshot index ∈ labels → index < state.dispatches.length
  consistent : ∀ index dispatch, state.dispatches[index]? = some dispatch →
    Consistent labels index dispatch

theorem inv_initial : Inv [] ({} : State κ) := by
  constructor
  · intro type
    cases type <;> rfl
  · simp
  · simp

theorem Consistent.append {labels : List (Label κ)} {index : Nat}
    {dispatch : Dispatch κ} (consistent : Consistent labels index dispatch)
    {label : Label κ} (other : label ≠ .snapshot index) :
    Consistent (labels ++ [label]) index dispatch := by
  cases consistent with
  | entered absent => exact .entered (by simp [absent, Ne.symm other])
  | copied earlier later split notEarlier notLater past exact =>
      exact .copied earlier (later ++ [label]) (by simp [split]) notEarlier
        (by simp [notLater, Ne.symm other]) past exact

theorem Inv.unchanged {labels : List (Label κ)} {state : State κ}
    (inv : Inv labels state) {label : Label κ}
    (silent : ∀ type, registeredBy type [label] = []) (type : PubSubMessage) :
    state.registry.callbacks type = registeredBy type (labels ++ [label]) := by
  rw [registeredBy_append, silent, List.append_nil, inv.registered]

theorem Inv.setDispatch {labels : List (Label κ)} {state : State κ}
    (inv : Inv labels state) {index : Nat} {dispatch dispatch' : Dispatch κ}
    (found : state.dispatches[index]? = some dispatch) {label : Label κ}
    (silent : ∀ type, registeredBy type [label] = [])
    (notSnapshot : ∀ index, label ≠ .snapshot index)
    (started : dispatch.phase ≠ .snapshotting)
    (past : dispatch'.phase ≠ .snapshotting)
    (sameType : dispatch'.type = dispatch.type)
    (same : dispatch'.copy = dispatch.copy) :
    Inv (labels ++ [label]) (state.setDispatch index dispatch') where
  registered := inv.unchanged silent
  bounded other member := by
    have earlier : .snapshot other ∈ labels := by
      simpa [Ne.symm (notSnapshot other)] using member
    simpa [State.setDispatch] using inv.bounded other earlier
  consistent other current currentFound := by
    simp only [State.setDispatch, List.getElem?_set] at currentFound
    split at currentFound
    · subst other
      split at currentFound
      · obtain rfl := Option.some.inj currentFound
        cases inv.consistent index dispatch found with
        | entered _ => exact absurd rfl started
        | copied earlier later split notEarlier notLater _ exact =>
            refine .copied earlier (later ++ [label]) (by simp [split])
              notEarlier
              (by simp [notLater, Ne.symm (notSnapshot index)]) past ?_
            rw [same, sameType, exact]
      · contradiction
    · exact (inv.consistent other current currentFound).append
        (notSnapshot other)

theorem Inv.registers {labels : List (Label κ)} {state : State κ}
    (inv : Inv labels state) (registration : Registration κ) :
    Inv (labels ++ [.on registration])
      { state with registry := registration.apply state.registry } where
  registered type := by
    rw [Registration.callbacks_apply, registeredBy_append, inv.registered]
    congr 1
    simp only [registeredBy, List.filterMap_cons, List.filterMap_nil]
    split <;> rfl
  bounded index member := inv.bounded index (by simpa using member)
  consistent index dispatch found :=
    (inv.consistent index dispatch found).append (by simp)

theorem Inv.enters {labels : List (Label κ)} {state : State κ}
    (inv : Inv labels state) (type : PubSubMessage) :
    Inv (labels ++ [.enter type])
      { state with dispatches := state.dispatches ++ [{ type }] } where
  registered := inv.unchanged fun _ => rfl
  bounded index member := by
    have := inv.bounded index (by simpa using member)
    simp only [List.length_append, List.length_singleton]
    omega
  consistent index dispatch found := by
    rcases Nat.lt_or_ge index state.dispatches.length with old | new
    · rw [List.getElem?_append_left old] at found
      exact (inv.consistent index dispatch found).append (by simp)
    · rw [List.getElem?_append_right new] at found
      obtain rfl := List.mem_singleton.mp (List.mem_of_getElem? found)
      refine .entered ?_
      intro member
      have := inv.bounded index (by simpa using member)
      omega

theorem Inv.snapshots {labels : List (Label κ)} {state : State κ}
    (inv : Inv labels state) {index : Nat} {dispatch : Dispatch κ}
    {phase : DispatchPhase κ} (found : state.dispatches[index]? = some dispatch)
    (copied : dispatch.phase.snapshot state.registry dispatch.type =
      some phase) :
    Inv (labels ++ [.snapshot index])
      (state.setDispatch index { dispatch with phase }) where
  registered := inv.unchanged fun _ => rfl
  bounded other member := by
    simp only [State.setDispatch, List.length_set]
    rcases List.mem_append.mp member with earlier | now
    · exact inv.bounded other earlier
    · obtain rfl : other = index := by simpa using now
      exact (List.getElem?_eq_some_iff.mp found).1
  consistent other current currentFound := by
    simp only [State.setDispatch, List.getElem?_set] at currentFound
    split at currentFound
    · subst other
      rw [if_pos (List.getElem?_eq_some_iff.mp found).1] at currentFound
      obtain rfl := Option.some.inj currentFound
      cases inv.consistent index dispatch found with
      | entered absent =>
          obtain rfl := Option.some.inj copied
          exact .copied labels [] rfl absent (by simp) (by simp)
            (inv.registered _)
      | copied _ _ _ _ _ past _ =>
          cases phaseEq : dispatch.phase with
          | snapshotting => exact absurd phaseEq past
          | looping todo => simp [phaseEq, DispatchPhase.snapshot] at copied
          | inCallback todo => simp [phaseEq, DispatchPhase.snapshot] at copied
    · rename_i distinct
      exact (inv.consistent other current currentFound).append
        (by simpa using distinct)

theorem Inv.step {labels : List (Label κ)} {state after : State κ}
    (inv : Inv labels state) {label : Label κ}
    (taken : next state label = some after) :
    Inv (labels ++ [label]) after := by
  cases label with
  | on registration =>
      obtain rfl := Option.some.inj taken
      exact inv.registers registration
  | enter type =>
      obtain rfl := Option.some.inj taken
      exact inv.enters type
  | snapshot index =>
      simp only [next, Option.bind_eq_bind, Option.bind_eq_some_iff,
        Option.some.injEq] at taken
      obtain ⟨dispatch, found, phase, copied, rfl⟩ := taken
      exact inv.snapshots found copied
  | invoke index =>
      simp only [next, Option.bind_eq_bind, Option.bind_eq_some_iff,
        Option.some.injEq] at taken
      obtain ⟨dispatch, found, ⟨callback, phase⟩, invoked, rfl⟩ := taken
      obtain ⟨type, current, done⟩ := dispatch
      cases current with
      | looping todo =>
          cases todo with
          | nil => simp [DispatchPhase.invoke] at invoked
          | cons head rest =>
              obtain ⟨rfl, rfl⟩ := Prod.mk.inj (Option.some.inj invoked)
              exact inv.setDispatch found (fun _ => rfl) (by simp) (by simp)
                (by simp) rfl (by simp [Dispatch.copy, DispatchPhase.todo])
      | snapshotting => simp [DispatchPhase.invoke] at invoked
      | inCallback todo => simp [DispatchPhase.invoke] at invoked
  | callbackReturns index =>
      simp only [next, Option.bind_eq_bind, Option.bind_eq_some_iff,
        Option.some.injEq] at taken
      obtain ⟨dispatch, found, phase, returned, rfl⟩ := taken
      obtain ⟨type, current, done⟩ := dispatch
      cases current with
      | inCallback todo =>
          obtain rfl := Option.some.inj returned
          exact inv.setDispatch found (fun _ => rfl) (by simp) (by simp)
            (by simp) rfl rfl
      | snapshotting => simp [DispatchPhase.callbackReturns] at returned
      | looping todo => simp [DispatchPhase.callbackReturns] at returned

theorem inv_run {labels : List (Label κ)} {state : State κ}
    (run : runLabels next {} labels = some state) : Inv labels state := by
  induction labels using List.reverseRecOn generalizing state with
  | nil =>
      obtain rfl := Option.some.inj run
      exact inv_initial
  | append_singleton earlier label induction =>
      rw [runLabels_append, Option.bind_eq_some_iff] at run
      obtain ⟨before, prefixRun, taken⟩ := run
      simp only [runLabels_cons, runLabels_nil, Option.bind_fun_some] at taken
      exact (induction prefixRun).step taken

private theorem split_unique {α : Type} {mark : α}
    {first first' second second' : List α}
    (same : first ++ mark :: second = first' ++ mark :: second')
    (notFirst : mark ∉ first) (notSecond : mark ∉ second) : first' = first := by
  induction first generalizing first' with
  | nil =>
      cases first' with
      | nil => rfl
      | cons head tail =>
          obtain ⟨_, rest⟩ := List.cons.inj same
          exact absurd (by simp [rest]) notSecond
  | cons head tail induction =>
      cases first' with
      | nil => exact absurd (List.cons.inj same).1 (by simp_all)
      | cons head' tail' =>
          obtain ⟨rfl, rest⟩ := List.cons.inj same
          rw [induction rest (fun member => notFirst (by simp [member]))]

theorem Inv.copied_at {labels earlier later : List (Label κ)} {state : State κ}
    (inv : Inv labels state) {index : Nat}
    (split : labels = earlier ++ .snapshot index :: later) :
    ∃ dispatch, state.dispatches[index]? = some dispatch ∧
      dispatch.copy = registeredBy dispatch.type earlier := by
  have member : Label.snapshot index ∈ labels := by simp [split]
  have inBounds := inv.bounded index member
  obtain ⟨dispatch, found⟩ :
      ∃ dispatch, state.dispatches[index]? = some dispatch :=
    ⟨_, List.getElem?_eq_getElem inBounds⟩
  refine ⟨dispatch, found, ?_⟩
  cases inv.consistent index dispatch found with
  | entered absent => exact absurd member absent
  | copied earlier' later' split' notEarlier notLater _ exact =>
      rw [split_unique (split'.symm.trans split) notEarlier notLater]
      exact exact

theorem Inv.nothing_invoked {labels : List (Label κ)} {state : State κ}
    (inv : Inv labels state) {index : Nat} {dispatch : Dispatch κ}
    (found : state.dispatches[index]? = some dispatch)
    (absent : .snapshot index ∉ labels) : dispatch.invoked = [] := by
  cases inv.consistent index dispatch found with
  | entered _ => rfl
  | copied earlier later split _ _ _ _ => exact absurd (by simp [split]) absent

/-- A call of `on` throws exactly for a mismatched selector and then changes
nothing; otherwise it appends its callback to the list of its own type. -/
theorem next_on (registration : Registration κ) (before : State κ) :
    ∃ after, next before (.on registration) = some after ∧
      ((∃ failure, registration.on before.registry = .error failure) ↔
        ¬ registration.Matching) ∧
      (¬ registration.Matching → after = before) ∧
      (registration.Matching → ∀ type,
        after.registry.callbacks type = before.registry.callbacks type ++
          if type = registration.type then [registration.callback]
            else []) := by
  refine ⟨_, rfl, ⟨?_, fun mismatched => Registration.on_throws mismatched _⟩,
    ?_, ?_⟩
  · rintro ⟨failure, thrown⟩ matching
    rw [Registration.on_eq_ok matching] at thrown
    contradiction
  · intro mismatched
    obtain ⟨failure, thrown⟩ :=
      Registration.on_throws mismatched before.registry
    simp [Registration.apply, thrown]
  · intro matching type
    simp [Registration.callbacks_apply, matching]

theorem registrations_and_snapshots_consistent (labels : List (Label κ))
    (state : State κ) (run : runLabels next {} labels = some state) :
    (∀ (registration : Registration κ) (before : State κ),
      ∃ after, next before (.on registration) = some after ∧
        ((∃ failure, registration.on before.registry = .error failure) ↔
          ¬ registration.Matching) ∧
        (¬ registration.Matching → after = before) ∧
        (registration.Matching → ∀ type,
          after.registry.callbacks type = before.registry.callbacks type ++
            if type = registration.type then [registration.callback] else [])) ∧
    (∀ type, state.registry.callbacks type = registeredBy type labels) ∧
    (∀ index dispatch, state.dispatches[index]? = some dispatch →
      .snapshot index ∉ labels → dispatch.invoked = []) ∧
    (∀ index earlier later, labels = earlier ++ .snapshot index :: later →
      ∃ dispatch, state.dispatches[index]? = some dispatch ∧
        dispatch.copy = registeredBy dispatch.type earlier ∧
        dispatch.invoked <+: registeredBy dispatch.type earlier ∧
        (dispatch.phase = .looping [] →
          dispatch.invoked = registeredBy dispatch.type earlier) ∧
        dispatch.copy <+: state.registry.callbacks dispatch.type) ∧
    (∀ first second earlier between later dispatch dispatch',
      labels = earlier ++ .snapshot first :: between ++
        .snapshot second :: later →
      state.dispatches[first]? = some dispatch →
      state.dispatches[second]? = some dispatch' →
      dispatch.type = dispatch'.type → dispatch.copy <+: dispatch'.copy) := by
  have inv := inv_run run
  refine ⟨next_on, inv.registered, fun _ _ => inv.nothing_invoked, ?_, ?_⟩
  · intro index earlier later split
    obtain ⟨dispatch, found, exact⟩ := inv.copied_at split
    refine ⟨dispatch, found, exact, ?_, ?_, ?_⟩
    · rw [← exact]
      exact List.prefix_append _ _
    · intro finished
      rw [← exact, Dispatch.copy, finished, DispatchPhase.todo, List.append_nil]
    · rw [exact, inv.registered]
      exact registeredBy_prefix ⟨_, split.symm⟩
  · intro first second earlier between later dispatch dispatch' split found
      found' same
    have splitFirst : labels = earlier ++ .snapshot first ::
        (between ++ .snapshot second :: later) := by
      rw [split, List.append_assoc, List.cons_append]
    obtain ⟨_, foundFirst, exactFirst⟩ := inv.copied_at splitFirst
    obtain ⟨_, foundSecond, exactSecond⟩ := inv.copied_at split
    obtain rfl := Option.some.inj (found.symm.trans foundFirst)
    obtain rfl := Option.some.inj (found'.symm.trans foundSecond)
    rw [exactFirst, exactSecond, same]
    exact registeredBy_prefix (List.prefix_append _ _)

/-- A callback registers another one while the first dispatch is in it. -/
def registeringRun : List (Label Nat) :=
  [.on ⟨.TargetData, .name "TargetData", some 0⟩, .enter .TargetData,
    .snapshot 0, .invoke 0,
    .on ⟨.TargetData, .message (.of .TargetData), some 1⟩, .callbackReturns 0,
    .on ⟨.TargetData, .name "targetdata", some 2⟩, .enter .TargetData,
    .snapshot 1]

theorem registrations_and_snapshots_consistent_registeringRun :
    ∃ state, runLabels next {} registeringRun = some state ∧
      (∀ type, state.registry.callbacks type =
        registeredBy type registeringRun) ∧
      ∃ dispatch, state.dispatches[0]? = some dispatch ∧
        dispatch.copy <+: state.registry.callbacks dispatch.type := by
  have run : runLabels next {} registeringRun = some {
      registry := { targetCallbacks := [some 0, some 1] }
      dispatches := [⟨.TargetData, .looping [], [some 0]⟩,
        ⟨.TargetData, .looping [some 0, some 1], []⟩] } := by decide
  obtain ⟨_, registered, _, copied, _⟩ :=
    registrations_and_snapshots_consistent registeringRun _ run
  obtain ⟨dispatch, found, _, _, _, isPrefix⟩ :=
    copied 0 (registeringRun.take 2) (registeringRun.drop 3) rfl
  exact ⟨_, run, registered, dispatch, found, isPrefix⟩

end Farsounder.Subscriber.Registering
