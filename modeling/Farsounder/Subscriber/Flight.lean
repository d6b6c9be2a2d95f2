import Farsounder.Data.Ledger
import Farsounder.Subscriber.System

namespace Farsounder.Subscriber

open Farsounder.Data

variable {κ : Type}

/-! What a frame has to cause and what is left of it to do. -/

/-- The invocations that a received frame has to cause. -/
def ReceivedFrame.plan (parsers : Parsers) (received : ReceivedFrame κ) :
    List (Invocation κ) :=
  match decodeFrame parsers received.type received.bytes with
  | none => []
  | some message =>
      (received.registry.callbacks message.type).map (⟨·, message⟩)

/-- The callbacks that a task has still to invoke. -/
def Task.remaining (registry : Registry κ) (task : Task κ) :
    List (Callback κ) :=
  match task.phase with
  | .snapshotting => registry.callbacks task.message.type
  | phase => phase.todo

def Task.owed (registry : Registry κ) (task : Task κ) : List (Invocation κ) :=
  (task.remaining registry).map (⟨·, task.message⟩)

/-- A Subscriber's deliveries, without the threads that make them: the tasks
being run, in no order, and the tasks waiting, oldest first. -/
structure Flight (κ : Type) where
  registry : Registry κ
  running : List (Task κ)
  waiting : List (Task κ)
  received : List (ReceivedFrame κ)
  invocations : List (Nat × Invocation κ)

/-- No callback has left its list. -/
def Registry.Grows (before after : Registry κ) : Prop :=
  ∀ type, before.callbacks type <+: after.callbacks type

namespace Flight

/-- One step.  A running task invokes a callback only among at most `bound`
other running ones. -/
inductive Step (parsers : Parsers) (bound : Nat) : Flight κ → Flight κ → Prop
  | quiet {registry running running' waiting received invocations}
      (same : running'.Perm running) :
      Step parsers bound ⟨registry, running, waiting, received, invocations⟩
        ⟨registry, running', waiting, received, invocations⟩
  | register {registry registry' received invocations}
      (grows : registry.Grows registry') :
      Step parsers bound ⟨registry, [], [], received, invocations⟩
        ⟨registry', [], [], received, invocations⟩
  | discard {registry running waiting received invocations type bytes}
      (malformed : decodeFrame parsers type bytes = none) :
      Step parsers bound ⟨registry, running, waiting, received, invocations⟩
        ⟨registry, running, waiting, received ++ [⟨type, bytes, registry⟩],
          invocations⟩
  | queue {registry running waiting received invocations type bytes message}
      (decoded : decodeFrame parsers type bytes = some message) :
      Step parsers bound ⟨registry, running, waiting, received, invocations⟩
        ⟨registry, running,
          waiting ++ [{ frame := received.length, message }],
          received ++ [⟨type, bytes, registry⟩], invocations⟩
  | dispatch {registry received invocations type bytes message}
      (decoded : decodeFrame parsers type bytes = some message) :
      Step parsers bound ⟨registry, [], [], received, invocations⟩
        ⟨registry, [{ frame := received.length, message }], [],
          received ++ [⟨type, bytes, registry⟩], invocations⟩
  | dequeue {registry running running' task waiting received invocations}
      (same : running'.Perm (task :: running)) :
      Step parsers bound
        ⟨registry, running, task :: waiting, received, invocations⟩
        ⟨registry, running', waiting, received, invocations⟩
  | advance {registry running running' task task' others waiting received
        invocations}
      (before : running.Perm (task :: others))
      (after : running'.Perm (task' :: others))
      (frame : task'.frame = task.frame)
      (message : task'.message = task.message)
      (owed : task'.owed registry = task.owed registry) :
      Step parsers bound ⟨registry, running, waiting, received, invocations⟩
        ⟨registry, running', waiting, received, invocations⟩
  | deliver {registry running running' task others waiting received
        invocations callback todo}
      (before : running.Perm (task :: others))
      (looping : task.phase = .looping (callback :: todo))
      (after :
        running'.Perm ({ task with phase := .inCallback todo } :: others))
      (few : others.length ≤ bound) :
      Step parsers bound ⟨registry, running, waiting, received, invocations⟩
        ⟨registry, running', waiting, received,
          invocations ++ [(task.frame, ⟨callback, task.message⟩)]⟩
  | settle {registry running running' task waiting received invocations}
      (before : running.Perm (task :: running'))
      (done : task.phase = .looping []) :
      Step parsers bound ⟨registry, running, waiting, received, invocations⟩
        ⟨registry, running', waiting, received, invocations⟩

theorem Step.stay {parsers : Parsers} {bound : Nat} {before after : Flight κ}
    (same : after = before) : Step parsers bound before after :=
  same ▸ .quiet (.refl _)

/-- Tasks wait in the order of their frames, behind those that run. -/
structure Ordered (flight : Flight κ) : Prop where
  ascending :
    flight.waiting.Pairwise fun first second => first.frame < second.frame
  ahead : ∀ task ∈ flight.running, ∀ other ∈ flight.waiting,
    task.frame < other.frame
  known : ∀ task ∈ flight.running ++ flight.waiting,
    task.frame < flight.received.length

variable {parsers : Parsers} {bound : Nat} {before after : Flight κ}

theorem Ordered.perm {registry : Registry κ}
    {running running' waiting : List (Task κ)}
    {received : List (ReceivedFrame κ)}
    {invocations invocations' : List (Nat × Invocation κ)}
    (ordered : Ordered ⟨registry, running, waiting, received, invocations⟩)
    (same : ∀ task' ∈ running', ∃ task ∈ running, task'.frame = task.frame) :
    Ordered ⟨registry, running', waiting, received, invocations'⟩ where
  ascending := ordered.ascending
  ahead task' member' other otherMember := by
    obtain ⟨task, member, equal⟩ := same task' member'
    rw [equal]
    exact ordered.ahead task member other otherMember
  known task' member' := by
    rcases List.mem_append.mp member' with inRunning | inWaiting
    · obtain ⟨task, member, equal⟩ := same task' inRunning
      rw [equal]
      exact ordered.known task (List.mem_append_left _ member)
    · exact ordered.known task' (List.mem_append_right _ inWaiting)

theorem Step.ordered (step : Step parsers bound before after)
    (ordered : Ordered before) : Ordered after := by
  cases step with
  | quiet same =>
      exact ordered.perm fun task member => ⟨task, same.mem_iff.mp member, rfl⟩
  | register grows => exact ⟨.nil, by simp, by simp⟩
  | discard malformed =>
      refine ⟨ordered.ascending, ordered.ahead, ?_⟩
      intro task member
      have := ordered.known task member
      simp only [List.length_append, List.length_singleton] at this ⊢
      omega
  | queue decoded =>
      refine ⟨?_, ?_, ?_⟩
      · refine List.pairwise_append.mpr ⟨ordered.ascending, by simp, ?_⟩
        intro task member fresh freshMember
        rw [List.mem_singleton.mp freshMember]
        exact ordered.known task (List.mem_append_right _ member)
      · intro task member other otherMember
        rcases List.mem_append.mp otherMember with old | fresh
        · exact ordered.ahead task member other old
        · rw [List.mem_singleton.mp fresh]
          exact ordered.known task (List.mem_append_left _ member)
      · intro task member
        simp only [List.length_append, List.length_singleton]
        rw [← List.append_assoc] at member
        rcases List.mem_append.mp member with old | fresh
        · have := ordered.known task old
          simp only at this
          omega
        · rw [List.mem_singleton.mp fresh]
          simp
  | dispatch decoded => exact ⟨.nil, by simp, by simp⟩
  | @dequeue registry running running' task waiting received invocations same =>
      have ascending := List.pairwise_cons.mp ordered.ascending
      refine ⟨ascending.2, ?_, ?_⟩
      · intro other member later laterMember
        rcases List.mem_cons.mp (same.mem_iff.mp member) with rfl | old
        · exact ascending.1 later laterMember
        · exact ordered.ahead other old later
            (List.mem_cons_of_mem _ laterMember)
      · intro other member
        apply ordered.known other
        rcases List.mem_append.mp member with inRunning | inWaiting
        · rcases List.mem_cons.mp (same.mem_iff.mp inRunning) with rfl | old
          · exact List.mem_append_right _ List.mem_cons_self
          · exact List.mem_append_left _ old
        · exact List.mem_append_right _ (List.mem_cons_of_mem _ inWaiting)
  | @advance _ _ _ task task' others _ _ _ before after frame message owed =>
      refine ordered.perm fun current member => ?_
      rcases List.mem_cons.mp (after.mem_iff.mp member) with rfl | old
      · exact ⟨task, before.mem_iff.mpr List.mem_cons_self, frame⟩
      · exact ⟨current, before.mem_iff.mpr (List.mem_cons_of_mem _ old), rfl⟩
  | @deliver _ _ _ task others _ _ _ _ todo before looping after few =>
      refine ordered.perm fun current member => ?_
      rcases List.mem_cons.mp (after.mem_iff.mp member) with rfl | old
      · exact ⟨task, before.mem_iff.mpr List.mem_cons_self, rfl⟩
      · exact ⟨current, before.mem_iff.mpr (List.mem_cons_of_mem _ old), rfl⟩
  | settle before done =>
      exact ordered.perm fun current member =>
        ⟨current, before.mem_iff.mpr (List.mem_cons_of_mem _ member), rfl⟩

/-! The ledger of a flight. -/

def pending (flight : Flight κ) : List (Nat × List (Invocation κ)) :=
  (flight.running ++ flight.waiting).map fun task =>
    (task.frame, task.owed flight.registry)

def ledger (parsers : Parsers) (flight : Flight κ) : Ledger (Invocation κ) where
  plans := flight.received.map (·.plan parsers)
  pending := flight.pending
  log := flight.invocations

theorem plan_of_malformed {type : EnumValue Config.PubSubMessage}
    {bytes : Wire.Bytes} {registry : Registry κ}
    (malformed : decodeFrame parsers type bytes = none) :
    (⟨type, bytes, registry⟩ : ReceivedFrame κ).plan parsers = [] := by
  simp [ReceivedFrame.plan, malformed]

theorem plan_of_decoded {type : EnumValue Config.PubSubMessage}
    {bytes : Wire.Bytes} {registry : Registry κ} {message : Message}
    (frame : Nat) (decoded : decodeFrame parsers type bytes = some message) :
    (⟨type, bytes, registry⟩ : ReceivedFrame κ).plan parsers =
      ({ frame, message } : Task κ).owed registry := by
  simp [ReceivedFrame.plan, decoded, Task.owed, Task.remaining]

theorem owed_looping {registry : Registry κ} {task : Task κ}
    {todo : List (Callback κ)} (looping : task.phase = .looping todo) :
    task.owed registry = todo.map (⟨·, task.message⟩) := by
  simp [Task.owed, Task.remaining, looping, DispatchPhase.todo]

private theorem pending_perm (registry : Registry κ) (waiting : List (Task κ))
    {running running' : List (Task κ)} (same : running'.Perm running) :
    ((running' ++ waiting).map fun task =>
      (task.frame, task.owed registry)).Perm
      ((running ++ waiting).map fun task => (task.frame, task.owed registry)) :=
  (same.append_right waiting).map _

theorem overtaken_le {registry : Registry κ}
    {running others waiting : List (Task κ)} {received : List (ReceivedFrame κ)}
    {invocations : List (Nat × Invocation κ)} {task : Task κ}
    (ordered : Ordered ⟨registry, running, waiting, received, invocations⟩)
    (split : running.Perm (task :: others)) :
    (((others ++ waiting).map fun other =>
      (other.frame, other.owed registry)).filter
      fun entry => entry.1 < task.frame).length ≤ others.length := by
  rw [List.map_append, List.filter_append, List.length_append]
  have none :
      (waiting.map fun other => (other.frame, other.owed registry)).filter
      (fun entry => entry.1 < task.frame) = [] := by
    rw [List.filter_eq_nil_iff]
    intro entry member
    obtain ⟨other, otherMember, rfl⟩ := List.mem_map.mp member
    have := ordered.ahead task
        (split.mem_iff.mpr List.mem_cons_self) other otherMember
    simpa using this.le
  rw [none, List.length_nil, Nat.add_zero]
  exact (List.length_filter_le _ _).trans_eq (List.length_map _)

/-- What a step that receives `fresh` does to a ledger of the flight, whatever
it plans for the frames received before. -/
structure Accounts (parsers : Parsers) (bound : Nat) (before after : Flight κ)
    (fresh : List (ReceivedFrame κ)) : Prop where
  received : after.received = before.received ++ fresh
  current : ∀ received ∈ fresh, received.registry = before.registry
  step : ∀ plans : List (List (Invocation κ)),
    plans.length = before.received.length →
    Ledger.Step bound ⟨plans, before.pending, before.invocations⟩
      ⟨plans ++ fresh.map (·.plan parsers), after.pending, after.invocations⟩

theorem Accounts.silent (received : after.received = before.received)
    (step : ∀ plans : List (List (Invocation κ)),
      Ledger.Step bound ⟨plans, before.pending, before.invocations⟩
        ⟨plans, after.pending, after.invocations⟩) :
    Accounts parsers bound before after [] where
  received := by simp [received]
  current := by simp
  step plans _ := by simpa using step plans

theorem Accounts.accepts {frame : ReceivedFrame κ} {task : Task κ}
    (received : after.received = before.received ++ [frame])
    (current : frame.registry = before.registry)
    (number : task.frame = before.received.length)
    (plan : frame.plan parsers = task.owed before.registry)
    (pending : after.pending.Perm
      ((task.frame, task.owed before.registry) :: before.pending))
    (invocations : after.invocations = before.invocations) :
    Accounts parsers bound before after [frame] where
  received := received
  current := by simp [current]
  step plans length := by
    rw [List.map_singleton, plan, invocations]
    exact .accept _ (by simpa [length, number] using pending)

theorem Step.accounts (step : Step parsers bound before after)
    (ordered : Ordered before) :
    ∃ fresh, Accounts parsers bound before after fresh := by
  cases step with
  | quiet same =>
      exact ⟨[], .silent rfl fun plans => .rearrange (pending_perm _ _ same)⟩
  | register grows => exact ⟨[], .silent rfl fun plans => .rearrange (.refl _)⟩
  | @discard registry _ _ _ _ type bytes malformed =>
      refine ⟨[⟨type, bytes, registry⟩], rfl, by simp, fun plans _ => ?_⟩
      rw [List.map_singleton, plan_of_malformed malformed]
      exact .discard (.refl _)
  | @queue registry running waiting received invocations type bytes message
      decoded =>
      refine ⟨[⟨type, bytes, registry⟩],
        .accepts rfl rfl rfl (plan_of_decoded received.length decoded) ?_ rfl⟩
      simp only [Flight.pending, ← List.append_assoc, List.map_append,
        List.map_cons, List.map_nil]
      exact List.perm_append_singleton _ _
  | @dispatch registry received invocations type bytes message decoded =>
      exact ⟨[⟨type, bytes, registry⟩],
        .accepts rfl rfl rfl (plan_of_decoded received.length decoded)
        (.refl _) rfl⟩
  | @dequeue registry running running' task waiting received invocations same =>
      refine ⟨[], .silent rfl fun plans => .rearrange ?_⟩
      exact (pending_perm _ _ same).trans (List.perm_middle.symm.map _)
  | @advance registry _ _ task task' others waiting _ _ before after frame
      message owed =>
      refine ⟨[], .silent rfl fun plans =>
        .rearrange ((pending_perm _ _ after).trans ?_)⟩
      refine .trans ?_ (pending_perm _ _ before).symm
      simp [frame, owed]
  | @deliver registry _ _ task others waiting _ _ callback todo split looping
      after few =>
      have owes := pending_perm registry waiting split
      have leaves := pending_perm registry waiting after
      simp only [List.cons_append, List.map_cons, owed_looping looping] at owes
      have rest :
          ({ task with phase := .inCallback todo } : Task κ).owed registry =
          todo.map (⟨·, task.message⟩) := rfl
      simp only [List.cons_append, List.map_cons, rest] at leaves
      refine ⟨[], .silent rfl fun plans => ?_⟩
      exact .deliver owes leaves ((overtaken_le ordered split).trans few)
  | @settle registry _ _ task waiting _ _ split done =>
      have owes := pending_perm registry waiting split
      simp only [List.cons_append, List.map_cons, owed_looping done,
        List.map_nil] at owes
      exact ⟨[], .silent rfl fun plans => .settle owes⟩

theorem Step.ledger (step : Step parsers bound before after)
    (ordered : Ordered before) :
    Ledger.Step bound (before.ledger parsers) (after.ledger parsers) := by
  obtain ⟨fresh, accounts⟩ := step.accounts ordered
  have step := accounts.step (before.received.map (·.plan parsers))
      (List.length_map _)
  rwa [← List.map_append, ← accounts.received] at step

end Flight

end Farsounder.Subscriber
