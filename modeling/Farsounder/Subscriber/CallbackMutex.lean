import Farsounder.Data.Monitor
import Farsounder.Subscriber.Registration

namespace Farsounder.Subscriber

open Config
open Farsounder.Data

/-! `on` and `dispatch_message` down to the single accesses of the callback
lists, with `callback_mutex` as it is locked and unlocked. -/

variable {κ : Type}

/-- A call of `on` that does not throw. -/
abbrev Matched
    (κ : Type) := { registration : Registration κ // registration.Matching }

def Registry.setCallbacks (registry : Registry κ)
    (callbacks : List (Callback κ)) :
    PubSubMessage → Registry κ
  | .HydrophoneData => { registry with hydrophoneCallbacks := callbacks }
  | .TargetData => { registry with targetCallbacks := callbacks }
  | .ProcessorSettings =>
      { registry with processorSettingsCallbacks := callbacks }
  | .VesselInfo => { registry with vesselInfoCallbacks := callbacks }

/-- Where a thread is in `on`, once the message has been found to match.
`push_back` reads the list and stores the longer one. -/
inductive OnCode (κ : Type) where
  | locking (call : Matched κ)
  | reading (call : Matched κ)
  | storing (call : Matched κ) (read : List (Callback κ))
  | unlocking
  deriving DecidableEq

/-- Where a thread is in `dispatch_message`.  A callback may call `on`. -/
inductive DispatchCode (κ : Type) where
  | locking
  | copying (copied : List (Callback κ))
  | unlocking (copied : List (Callback κ))
  | looping (invoked todo : List (Callback κ))
  | inCallback (invoked todo : List (Callback κ)) (call : Option (OnCode κ))
  deriving DecidableEq

inductive CallbackThread (κ : Type) where
  | registering (call : Option (OnCode κ))
  | dispatching (type : PubSubMessage) (code : DispatchCode κ)
  deriving DecidableEq

namespace OnCode

def holds : OnCode κ → Bool
  | locking _ => false
  | reading _ | storing _ _ | unlocking => true

def lock : OnCode κ → Option (OnCode κ)
  | locking call => some (reading call)
  | reading _ | storing _ _ | unlocking => none

def inside (registry : Registry κ) : OnCode κ → Option (Registry κ × OnCode κ)
  | reading call =>
  some (registry, storing call (registry.callbacks call.1.type))
  | storing call read =>
      some (registry.setCallbacks (read ++ [call.1.callback]) call.1.type,
        unlocking)
  | locking _ | unlocking => none

end OnCode

namespace DispatchCode

def holds : DispatchCode κ → Bool
  | copying _ | unlocking _ => true
  | inCallback _ _ call => call.any OnCode.holds
  | locking | looping _ _ => false

def lock : DispatchCode κ → Option (DispatchCode κ)
  | locking => some (copying [])
  | inCallback invoked todo call =>
      (call.bind OnCode.lock).map fun call =>
        inCallback invoked todo (some call)
  | copying _ | unlocking _ | looping _ _ => none

/-- The copy is made one callback after the other. -/
def inside (registry : Registry κ) (type : PubSubMessage) :
    DispatchCode κ → Option (Registry κ × DispatchCode κ)
  | copying copied =>
      match (registry.callbacks type)[copied.length]? with
      | some callback => some (registry, copying (copied ++ [callback]))
      | none => some (registry, unlocking copied)
  | inCallback invoked todo call =>
      (call.bind (OnCode.inside registry)).map fun (registry, call) =>
        (registry, inCallback invoked todo (some call))
  | locking | unlocking _ | looping _ _ => none

def unlock : DispatchCode κ → Option (DispatchCode κ)
  | unlocking copied => some (looping [] copied)
  | inCallback invoked todo (some .unlocking) =>
      some (inCallback invoked todo none)
  | locking | copying _ | looping _ _ | inCallback _ _ _ => none

def phase : DispatchCode κ → DispatchPhase κ
  | locking | copying _ | unlocking _ => .snapshotting
  | looping _ todo => .looping todo
  | inCallback _ todo _ => .inCallback todo

def invoked : DispatchCode κ → List (Callback κ)
  | locking | copying _ | unlocking _ => []
  | looping invoked _ | inCallback invoked _ _ => invoked

/-- The copy, as far as it has been made. -/
def copy : DispatchCode κ → List (Callback κ)
  | locking => []
  | copying copied | unlocking copied => copied
  | looping invoked todo | inCallback invoked todo _ => invoked ++ todo

end DispatchCode

namespace CallbackThread

def holds : CallbackThread κ → Bool
  | registering call => call.any OnCode.holds
  | dispatching _ code => code.holds

def lock : CallbackThread κ → Option (CallbackThread κ)
  | registering call =>
  (call.bind OnCode.lock).map fun call => registering (some call)
  | dispatching type code => code.lock.map (dispatching type)

def inside (_ : Unit) (registry : Registry κ) :
    CallbackThread κ → Option (Registry κ × CallbackThread κ)
  | registering call =>
      (call.bind (OnCode.inside registry)).map fun (registry, call) =>
        (registry, registering (some call))
  | dispatching type code =>
      (code.inside registry type).map fun (registry, code) =>
        (registry, dispatching type code)

def unlock : CallbackThread κ → Option (CallbackThread κ)
  | registering (some .unlocking) => some (registering none)
  | registering _ => none
  | dispatching type code => code.unlock.map (dispatching type)

end CallbackThread

/-- What the threads do without the mutex. -/
inductive CallbackEvent (κ : Type) where
  | register (registration : Registration κ)
  | enter (type : PubSubMessage)
  | invoke (index : Nat)
  /-- The callback calls `on`. -/
  | registerInside (index : Nat) (registration : Registration κ)
  | callbackReturns (index : Nat)
  deriving DecidableEq, Repr

def CallbackEvent.next :
    CallbackEvent κ → List (CallbackThread κ) → Option (List (CallbackThread κ))
  | register registration, threads =>
      -- A call that throws does so before it locks the mutex.
      if matching : registration.Matching then
        some (threads ++
          [.registering (some (.locking ⟨registration, matching⟩))])
      else some threads
  | enter type, threads => some (threads ++ [.dispatching type .locking])
  | invoke index, threads =>
      match threads[index]? with
      | some (.dispatching type (.looping invoked (callback :: todo))) =>
          some (threads.set index
            (.dispatching type (.inCallback (invoked ++ [callback]) todo none)))
      | _ => none
  | registerInside index registration, threads =>
      match threads[index]? with
      | some (.dispatching type (.inCallback invoked todo none)) =>
          if matching : registration.Matching then
            some (threads.set index (.dispatching type
              (.inCallback invoked todo
                (some (.locking ⟨registration, matching⟩)))))
          else some threads
      | _ => none
  | callbackReturns index, threads =>
      match threads[index]? with
      | some (.dispatching type (.inCallback invoked todo none)) =>
          some (threads.set index (.dispatching type (.looping invoked todo)))
      | _ => none

def callbackSteps (κ : Type) :
    Steps (Registry κ) (CallbackThread κ) Unit (CallbackEvent κ) where
  holds := CallbackThread.holds
  lock := CallbackThread.lock
  inside := CallbackThread.inside
  unlock := CallbackThread.unlock
  outside := CallbackEvent.next

/-! What a thread has done since it locked the mutex. -/

theorem Registry.setCallbacks_append (registry : Registry κ)
    (callback : Callback κ) (type : PubSubMessage) :
    registry.setCallbacks (registry.callbacks type ++ [callback]) type =
      registry.pushBack callback type := by
  cases type <;> rfl

inductive OnSection (registry : Registry κ) (call : Matched κ) :
    Registry κ → OnCode κ → Prop
  | reading : OnSection registry call registry (.reading call)
  | storing :
  OnSection registry call registry
    (.storing call (registry.callbacks call.1.type))
  | stored :
  OnSection registry call (registry.pushBack call.1.callback call.1.type)
    .unlocking

inductive CallbackSection (registry : Registry κ) :
    CallbackThread κ → Registry κ → CallbackThread κ → Prop
  | registering {call registry' code}
    (worked : OnSection registry call registry' code) :
      CallbackSection registry (.registering (some (.locking call))) registry'
        (.registering (some code))
  | calling {type invoked todo call registry' code}
      (worked : OnSection registry call registry' code) :
      CallbackSection registry
        (.dispatching type (.inCallback invoked todo (some (.locking call))))
          registry'
        (.dispatching type (.inCallback invoked todo (some code)))
  | copying {type copied} (begun : copied <+: registry.callbacks type) :
      CallbackSection registry (.dispatching type .locking) registry
        (.dispatching type (.copying copied))
  | copied {type} :
      CallbackSection registry (.dispatching type .locking) registry
        (.dispatching type (.unlocking (registry.callbacks type)))

variable {registry registry' current : Registry κ}

theorem OnSection.inside {call : Matched κ} {code code' : OnCode κ}
    (worked : OnSection registry call current code)
    (moved : code.inside current = some (registry', code')) :
    OnSection registry call registry' code' := by
  cases worked with
  | reading =>
      obtain ⟨rfl, rfl⟩ := Prod.mk.inj (Option.some.inj moved)
      exact .storing
  | storing =>
      obtain ⟨rfl, rfl⟩ := Prod.mk.inj (Option.some.inj moved)
      rw [Registry.setCallbacks_append]
      exact .stored
  | stored => contradiction

theorem prefix_snoc {α : Type} {copied list : List α} {next : α}
    (begun : copied <+: list) (found : list[copied.length]? = some next) :
    copied ++ [next] <+: list := by
  obtain ⟨rest, rfl⟩ := begun
  rw [List.getElem?_append_right (Nat.le_refl _), Nat.sub_self] at found
  cases rest with
  | nil => contradiction
  | cons head rest =>
      obtain rfl := Option.some.inj found
      exact ⟨rest, List.append_assoc _ _ _⟩

theorem prefix_all {α : Type} {copied list : List α} (begun : copied <+: list)
    (past : list[copied.length]? = none) : copied = list :=
  begun.eq_of_length_le (List.getElem?_eq_none_iff.mp past)

theorem CallbackSection.inside {start thread thread' : CallbackThread κ}
    (worked : CallbackSection registry start current thread)
    (moved : thread.inside () current = some (registry', thread')) :
    CallbackSection registry start registry' thread' := by
  cases worked with
  | registering worked =>
      obtain ⟨⟨_, code⟩, stepped, same⟩ := Option.map_eq_some_iff.mp moved
      obtain ⟨rfl, rfl⟩ := Prod.mk.inj same
      exact .registering (worked.inside stepped)
  | calling worked =>
      simp only [CallbackThread.inside, DispatchCode.inside, Option.bind_some,
        Option.map_map, Option.map_eq_some_iff] at moved
      obtain ⟨⟨_, code⟩, stepped, same⟩ := moved
      obtain ⟨rfl, rfl⟩ := Prod.mk.inj same
      exact .calling (worked.inside stepped)
  | @copying type copied begun =>
      simp only [CallbackThread.inside, DispatchCode.inside] at moved
      split at moved
      · rename_i callback found
        obtain ⟨rfl, rfl⟩ := Prod.mk.inj (Option.some.inj moved)
        exact .copying (prefix_snoc begun found)
      · rename_i past
        obtain ⟨rfl, rfl⟩ := Prod.mk.inj (Option.some.inj moved)
        rw [prefix_all begun past]
        exact .copied
  | copied => contradiction

theorem OnCode.lock_cases {before after : OnCode κ}
    (locked : before.lock = some after) :
    ∃ call, before = .locking call ∧ after = .reading call := by
  cases before with
  | locking call => exact ⟨call, rfl, (Option.some.inj locked).symm⟩
  | reading | storing | unlocking => contradiction

theorem CallbackSection.of_lock {start thread : CallbackThread κ}
    (locked : start.lock = some thread) :
    CallbackSection registry start registry thread := by
  cases start with
  | registering call =>
      obtain ⟨code, called, rfl⟩ := Option.map_eq_some_iff.mp locked
      obtain ⟨code', rfl, moved⟩ := Option.bind_eq_some_iff.mp called
      obtain ⟨call, rfl, rfl⟩ := OnCode.lock_cases moved
      exact .registering .reading
  | dispatching type code =>
      obtain ⟨code', dispatched, rfl⟩ := Option.map_eq_some_iff.mp locked
      cases code with
      | locking =>
          obtain rfl := Option.some.inj dispatched
          exact .copying List.nil_prefix
      | inCallback invoked todo call =>
          obtain ⟨code, called, rfl⟩ := Option.map_eq_some_iff.mp dispatched
          obtain ⟨code', rfl, moved⟩ := Option.bind_eq_some_iff.mp called
          obtain ⟨call, rfl, rfl⟩ := OnCode.lock_cases moved
          exact .calling .reading
      | copying | unlocking | looping => contradiction

theorem CallbackSection.of_section {start thread : CallbackThread κ}
    (worked : (callbackSteps κ).Section registry start registry' thread) :
    CallbackSection registry start registry' thread := by
  induction worked with
  | locked locked => exact .of_lock locked
  | inside _ moved induction => exact induction.inside moved

theorem OnSection.holds {call : Matched κ} {code : OnCode κ}
    (worked : OnSection registry call registry' code) : code.holds = true := by
  cases worked <;> rfl

theorem CallbackSection.holds {start thread : CallbackThread κ}
    (worked : CallbackSection registry start registry' thread) :
    start.holds = false ∧ thread.holds = true := by
  cases worked with
  | registering worked | calling worked =>
      exact ⟨rfl, worked.holds⟩
  | copying | copied => exact ⟨rfl, rfl⟩

theorem OnCode.inside_holds {before after : OnCode κ}
    (moved : before.inside registry = some (registry', after)) :
    before.holds = true ∧ after.holds = true := by
  cases before with
  | reading | storing =>
      obtain ⟨_, rfl⟩ := Prod.mk.inj (Option.some.inj moved)
      exact ⟨rfl, rfl⟩
  | locking | unlocking => contradiction

theorem CallbackThread.inside_holds {before after : CallbackThread κ}
    (moved : before.inside () registry = some (registry', after)) :
    before.holds = true ∧ after.holds = true := by
  cases before with
  | registering call =>
      obtain ⟨⟨_, code⟩, called, same⟩ := Option.map_eq_some_iff.mp moved
      obtain ⟨rfl, rfl⟩ := Prod.mk.inj same
      obtain ⟨code', rfl, stepped⟩ := Option.bind_eq_some_iff.mp called
      exact OnCode.inside_holds stepped
  | dispatching type code =>
      obtain ⟨⟨_, code'⟩, dispatched, same⟩ := Option.map_eq_some_iff.mp moved
      obtain ⟨rfl, rfl⟩ := Prod.mk.inj same
      cases code with
      | copying copied =>
          simp only [DispatchCode.inside] at dispatched
          split at dispatched
          all_goals
            obtain ⟨_, rfl⟩ := Prod.mk.inj (Option.some.inj dispatched)
            exact ⟨rfl, rfl⟩
      | inCallback invoked todo call =>
          obtain ⟨⟨_, code⟩, called, same⟩ :=
            Option.map_eq_some_iff.mp dispatched
          obtain ⟨rfl, rfl⟩ := Prod.mk.inj same
          obtain ⟨code', rfl, stepped⟩ := Option.bind_eq_some_iff.mp called
          exact OnCode.inside_holds stepped
      | locking | unlocking | looping => contradiction

theorem CallbackThread.unlock_holds {before after : CallbackThread κ}
    (unlocked : before.unlock = some after) :
    before.holds = true ∧ after.holds = false := by
  unfold CallbackThread.unlock at unlocked
  split at unlocked
  · obtain rfl := Option.some.inj unlocked
    exact ⟨rfl, rfl⟩
  · contradiction
  · obtain ⟨code, left, rfl⟩ := Option.map_eq_some_iff.mp unlocked
    unfold DispatchCode.unlock at left
    split at left
    · obtain rfl := Option.some.inj left
      exact ⟨rfl, rfl⟩
    · obtain rfl := Option.some.inj left
      exact ⟨rfl, rfl⟩
    all_goals contradiction

/-! What the threads do without the mutex. -/

inductive CallbackOutside (threads : List (CallbackThread κ)) :
    CallbackEvent κ → List (CallbackThread κ) → Prop
  | registers {registration} (matching : registration.Matching) :
      CallbackOutside threads (.register registration)
        (threads ++ [.registering (some (.locking ⟨registration, matching⟩))])
  | throws {registration} (mismatched : ¬ registration.Matching) :
      CallbackOutside threads (.register registration) threads
  | enters {type} :
      CallbackOutside threads (.enter type) (threads ++
        [.dispatching type .locking])
  | invokes {index type invoked callback todo}
      (found : threads[index]? =
        some (.dispatching type (.looping invoked (callback :: todo)))) :
      CallbackOutside threads (.invoke index)
        (threads.set index
          (.dispatching type (.inCallback (invoked ++ [callback]) todo none)))
  | registersInside {index type invoked todo registration}
      (found : threads[index]? =
        some (.dispatching type (.inCallback invoked todo none)))
          (matching : registration.Matching) :
      CallbackOutside threads (.registerInside index registration)
        (threads.set index (.dispatching type
          (.inCallback invoked todo
            (some (.locking ⟨registration, matching⟩)))))
  | throwsInside {index type invoked todo registration}
      (found : threads[index]? =
        some (.dispatching type (.inCallback invoked todo none)))
          (mismatched : ¬ registration.Matching) :
      CallbackOutside threads (.registerInside index registration) threads
  | callbackReturns {index type invoked todo}
      (found : threads[index]? =
        some (.dispatching type (.inCallback invoked todo none))) :
      CallbackOutside threads (.callbackReturns index)
        (threads.set index (.dispatching type (.looping invoked todo)))

variable {threads threads' : List (CallbackThread κ)} {event : CallbackEvent κ}

theorem CallbackOutside.of_next (taken : event.next threads = some threads') :
    CallbackOutside threads event threads' := by
  cases event with
  | register registration =>
      simp only [CallbackEvent.next] at taken
      split at taken
      · rename_i matching
        obtain rfl := Option.some.inj taken
        exact .registers matching
      · rename_i mismatched
        obtain rfl := Option.some.inj taken
        exact .throws mismatched
  | enter type =>
      obtain rfl := Option.some.inj taken
      exact .enters
  | invoke index =>
      simp only [CallbackEvent.next] at taken
      split at taken
      · rename_i found
        obtain rfl := Option.some.inj taken
        exact .invokes found
      · contradiction
  | registerInside index registration =>
      simp only [CallbackEvent.next] at taken
      split at taken
      · rename_i found
        split at taken
        · rename_i matching
          obtain rfl := Option.some.inj taken
          exact .registersInside found matching
        · rename_i mismatched
          obtain rfl := Option.some.inj taken
          exact .throwsInside found mismatched
      · contradiction
  | callbackReturns index =>
      simp only [CallbackEvent.next] at taken
      split at taken
      · rename_i found
        obtain rfl := Option.some.inj taken
        exact .callbackReturns found
      · contradiction

theorem CallbackOutside.next_eq
    (step : CallbackOutside threads event threads') :
    event.next threads = some threads' := by
  cases step with
  | registers matching => simp [CallbackEvent.next, matching]
  | throws mismatched => simp [CallbackEvent.next, mismatched]
  | enters => rfl
  | invokes found | callbackReturns found => simp [CallbackEvent.next, found]
  | registersInside found matching => simp [CallbackEvent.next, found, matching]
  | throwsInside found mismatched =>
      simp [CallbackEvent.next, found, mismatched]

theorem CallbackOutside.holds (step : CallbackOutside threads event threads')
    {index : Nat} {thread : CallbackThread κ} (held : thread.holds = true) :
    threads[index]? = some thread ↔ threads'[index]? = some thread := by
  cases step with
  | registers | enters => exact holder_append rfl held
  | throws | throwsInside => rfl
  | invokes found | registersInside found | callbackReturns found =>
      exact holder_set found rfl rfl held

/-- The threads outside take no notice of who holds the mutex. -/
theorem CallbackOutside.undone (step : CallbackOutside threads event threads')
    {index : Nat} {start thread : CallbackThread κ}
    (found : threads[index]? = some thread)
    (worked : CallbackSection registry start registry' thread) :
    CallbackOutside (threads.set index start) event
      (threads'.set index start) := by
  have held := worked.holds.2
  have inBounds := (List.getElem?_eq_some_iff.mp found).1
  have apart {other : Nat} {current : CallbackThread κ}
      (found' : threads[other]? = some current) (idle : current.holds = false) :
      index ≠ other := by
    apply found_elsewhere found found'
    rintro rfl
    simp [idle] at held
  have kept {other : Nat} {current : CallbackThread κ}
      (found' : threads[other]? = some current)
      (idle : current.holds = false) :
      (threads.set index start)[other]? = some current :=
    (List.getElem?_set_ne (apart found' idle)).trans found'
  cases step with
  | registers matching =>
      rw [List.set_append_left _ _ inBounds]
      exact .registers matching
  | throws mismatched => exact .throws mismatched
  | enters =>
      rw [List.set_append_left _ _ inBounds]
      exact .enters
  | invokes found' =>
      rw [List.set_comm _ _ (apart found' rfl).symm]
      exact .invokes (kept found' rfl)
  | registersInside found' matching =>
      rw [List.set_comm _ _ (apart found' rfl).symm]
      exact .registersInside (kept found' rfl) matching
  | throwsInside found' mismatched =>
      exact .throwsInside (kept found' rfl) mismatched
  | callbackReturns found' =>
      rw [List.set_comm _ _ (apart found' rfl).symm]
      exact .callbackReturns (kept found' rfl)

def callbackMonitor (κ : Type) :
    Monitor (Registry κ) (CallbackThread κ) Unit (CallbackEvent κ) where
  toSteps := callbackSteps κ
  lock_holds locked := by
    have worked : CallbackSection {} _ {} _ := .of_lock locked
    exact worked.holds
  inside_holds := CallbackThread.inside_holds
  unlock_holds := CallbackThread.unlock_holds
  outside_holds taken := (CallbackOutside.of_next taken).holds
  outside_undone taken := fun found worked =>
    ((CallbackOutside.of_next taken).undone found (.of_section worked)).next_eq

end Farsounder.Subscriber
