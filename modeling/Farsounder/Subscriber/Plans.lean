import Farsounder.Subscriber.Delivery

namespace Farsounder.Subscriber

open Farsounder.Data

variable {κ : Type}

namespace Flight

variable {parsers : Parsers} {bound : Nat} {before after : Flight κ}

/-! What the frames have to cause when callbacks may be registered at any time,
also while frames are being dispatched.  A dispatch invokes the callbacks of the
copy that it made of its list. -/

/-- What a frame would cause if it were dispatched with the callbacks that are
registered now. -/
def planNow (parsers : Parsers) (registry : Registry κ)
    (received : ReceivedFrame κ) :
    List (Invocation κ) :=
  ({ received with registry } : ReceivedFrame κ).plan parsers

theorem planNow_grows {registry registry' : Registry κ}
    (grows : registry.Grows registry') (received : ReceivedFrame κ) :
    planNow parsers registry received <+: planNow parsers registry'
      received := by
  simp only [planNow, ReceivedFrame.plan]
  split
  · exact List.prefix_rfl
  · exact (grows _).map _

/-- The invocations of a copy of the list that was made between the receipt of
the frame and now. -/
structure Planned (parsers : Parsers) (registry : Registry κ)
    (received : ReceivedFrame κ) (plan : List (Invocation κ)) : Prop where
  atReceipt : received.plan parsers <+: plan
  byNow : plan <+: planNow parsers registry received

theorem Planned.grows {registry registry' : Registry κ}
    {received : ReceivedFrame κ} {plan : List (Invocation κ)}
    (planned : Planned parsers registry received plan)
    (grows : registry.Grows registry') :
    Planned parsers registry' received plan :=
  ⟨planned.atReceipt, planned.byNow.trans (planNow_grows grows received)⟩

theorem Registry.Grows.refl (registry : Registry κ) : registry.Grows registry :=
  fun _ => List.prefix_rfl

theorem Step.grows (step : Step parsers bound before after) :
    before.registry.Grows after.registry := by
  cases step with
  | register grows => exact grows
  | _ => exact Registry.Grows.refl _

/-- Each task in flight dispatches the message of a received frame. -/
def Decoded (parsers : Parsers) (flight : Flight κ) : Prop :=
  ∀ task ∈ flight.running ++ flight.waiting, ∃ received,
    flight.received[task.frame]? = some received ∧
      decodeFrame parsers received.type received.bytes = some task.message

theorem Decoded.kept {fresh : List (ReceivedFrame κ)}
    (decoded : Decoded parsers before)
    (received : after.received = before.received ++ fresh) {task' : Task κ}
    (old : ∃ task ∈ before.running ++ before.waiting,
      task'.frame = task.frame ∧ task'.message = task.message) :
    ∃ received, after.received[task'.frame]? = some received ∧
      decodeFrame parsers received.type received.bytes =
        some task'.message := by
  obtain ⟨task, member, frame, message⟩ := old
  obtain ⟨source, found, decodes⟩ := decoded task member
  rw [frame, message, received]
  have below := (List.getElem?_eq_some_iff.mp found).1
  exact ⟨source, (List.getElem?_append_left below).trans found, decodes⟩

theorem mem_exchanged {running running' others waiting : List (Task κ)}
    {task task' current : Task κ} (before : running.Perm (task :: others))
    (after : running'.Perm (task' :: others))
    (member : current ∈ running' ++ waiting) :
    current = task' ∨ current ∈ running ++ waiting := by
  rcases List.mem_append.mp member with inRunning | inWaiting
  · rcases List.mem_cons.mp (after.mem_iff.mp inRunning) with rfl | old
    · exact .inl rfl
    · exact .inr (List.mem_append_left _
        (before.mem_iff.mpr (List.mem_cons_of_mem _ old)))
  · exact .inr (List.mem_append_right _ inWaiting)

theorem Step.decoded (step : Step parsers bound before after)
    (decoded : Decoded parsers before) : Decoded parsers after := by
  cases step with
  | quiet same =>
      intro task member
      exact decoded task (((same.append_right _).mem_iff).mp member)
  | register grows => exact fun _ member => decoded _ member
  | discard malformed =>
      exact fun task member => decoded.kept rfl ⟨task, member, rfl, rfl⟩
  | queue decodes =>
      intro task member
      rw [← List.append_assoc] at member
      rcases List.mem_append.mp member with old | new
      · exact decoded.kept rfl ⟨task, old, rfl, rfl⟩
      · obtain rfl := List.mem_singleton.mp new
        exact ⟨_, List.getElem?_concat_length, decodes⟩
  | dispatch decodes =>
      intro task member
      obtain rfl := List.mem_singleton.mp member
      exact ⟨_, List.getElem?_concat_length, decodes⟩
  | dequeue same =>
      intro task member
      exact decoded task
        (((same.append_right _).trans List.perm_middle.symm).mem_iff.mp member)
  | advance split after frame message owed =>
      intro current member
      rcases mem_exchanged split after member with rfl | old
      · rw [frame, message]
        exact decoded _
          (List.mem_append_left _ (split.mem_iff.mpr List.mem_cons_self))
      · exact decoded current old
  | @deliver _ _ _ task _ _ _ _ _ _ split looping after few =>
      intro current member
      rcases mem_exchanged split after member with rfl | old
      · exact decoded task
          (List.mem_append_left _ (split.mem_iff.mpr List.mem_cons_self))
      · exact decoded current old
  | settle split done =>
      intro task member
      refine decoded task ?_
      exact ((split.append_right _).mem_iff).mpr (List.mem_cons_of_mem _ member)

/-- A ledger that accounts for a flight: it plans a copy of its list for each
frame. -/
structure Mirrors (parsers : Parsers) (flight : Flight κ)
    (ledger : Ledger (Invocation κ)) : Prop where
  plans : List.Forall₂ (Planned parsers flight.registry) flight.received
    ledger.plans
  pending : ledger.pending = flight.pending
  log : ledger.log = flight.invocations

theorem Mirrors.plan {flight : Flight κ} {ledger : Ledger (Invocation κ)}
    (mirrors : Mirrors parsers flight ledger) {index : Nat}
    {received : ReceivedFrame κ}
    (found : flight.received[index]? = some received) :
    ∃ plan, ledger.plans[index]? = some plan ∧
      Planned parsers flight.registry received plan := by
  obtain ⟨length, planned⟩ := List.forall₂_iff_get.mp mirrors.plans
  obtain ⟨below, rfl⟩ := List.getElem?_eq_some_iff.mp found
  have known : index < ledger.plans.length := length ▸ below
  exact ⟨_, List.getElem?_eq_getElem known, planned index below known⟩

theorem Step.mirrors (step : Step parsers bound before after)
    (ordered : Ordered before) {ledger : Ledger (Invocation κ)}
    (mirrors : Mirrors parsers before ledger) :
    ∃ ledger', Ledger.Step bound ledger ledger' ∧
      Mirrors parsers after ledger' := by
  obtain ⟨plans, pending, log⟩ := ledger
  obtain ⟨planned, rfl, rfl⟩ := mirrors
  obtain ⟨fresh, accounts⟩ := step.accounts ordered
  refine ⟨_, accounts.step plans planned.length_eq.symm, ?_, rfl, rfl⟩
  rw [accounts.received]
  refine List.rel_append (planned.imp fun _ _ old => old.grows step.grows) ?_
  rw [List.forall₂_map_right_iff, List.forall₂_same]
  intro received member
  refine ⟨List.prefix_rfl, ?_⟩
  have current :
      planNow parsers before.registry received = received.plan parsers := by
    rw [planNow, ← accounts.current received member]
  exact current ▸ planNow_grows step.grows received

/-- What a task owes grows with the list until it has made its copy. -/
theorem Planned.owed {registry registry' : Registry κ}
    {received : ReceivedFrame κ} {task : Task κ}
    {delivered : List (Invocation κ)}
    (decodes : decodeFrame parsers received.type received.bytes =
      some task.message)
    (planned : Planned parsers registry received (delivered ++
      task.owed registry)) (grows : registry.Grows registry') :
    Planned parsers registry' received (delivered ++ task.owed registry') := by
  cases phase : task.phase with
  | snapshotting =>
      -- It owes the whole list, so nothing has been delivered for its frame.
      have whole : ∀ current : Registry κ,
          task.owed current = planNow parsers current received := by
        intro current
        simp [Task.owed, Task.remaining, phase, planNow,
          ReceivedFrame.plan, decodes]
      rw [whole] at planned ⊢
      obtain rfl : delivered = [] := by
        have shorter := planned.byNow.length_le
        simp only [List.length_append] at shorter
        exact List.length_eq_zero_iff.mp (by omega)
      exact ⟨(planned.atReceipt.trans planned.byNow).trans
        (planNow_grows grows received), List.prefix_rfl⟩
  | looping todo | inCallback todo =>
      have copied : task.owed registry' = task.owed registry := by
        simp [Task.owed, Task.remaining, phase]
      rw [copied]
      exact planned.grows grows

theorem Mirrors.registers {flight : Flight κ} {ledger : Ledger (Invocation κ)}
    (mirrors : Mirrors parsers flight ledger) (balanced : ledger.Balanced)
    (decoded : Decoded parsers flight) {registry : Registry κ}
    (grows : flight.registry.Grows registry) :
    ∃ ledger', Ledger.Step bound ledger ledger' ∧
      Flight.Mirrors parsers { flight with registry } ledger' := by
  obtain ⟨plans, _, _⟩ := ledger
  obtain ⟨planned, rfl, rfl⟩ := mirrors
  have items : (Flight.pending { flight with registry }).map Prod.fst =
      flight.pending.map Prod.fst := by
    simp only [Flight.pending, List.map_map, Function.comp_def]
  refine ⟨_, balanced.step_replanned items, ?_, rfl, rfl⟩
  obtain ⟨length, planned⟩ := List.forall₂_iff_get.mp planned
  refine List.forall₂_iff_get.mpr ⟨length.trans List.length_mapIdx.symm, ?_⟩
  intro index below inPlans
  have known : index < plans.length := length ▸ below
  have old := planned index below known
  simp only [Ledger.replanned, List.get_eq_getElem, List.getElem_mapIdx]
    at old ⊢
  cases pending : (Flight.pending { flight with registry }).lookup index with
  | none => exact old.grows grows
  | some owed =>
      obtain ⟨earlier, later, split, _⟩ := List.lookup_eq_some_iff.mp pending
      have member :
          (index, owed) ∈ Flight.pending { flight with registry } := by
        rw [split]
        simp
      obtain ⟨task, inFlight, equal⟩ := List.mem_map.mp member
      obtain ⟨rfl, rfl⟩ := Prod.mk.inj equal
      obtain ⟨source, found, decodes⟩ := decoded task inFlight
      obtain ⟨_, rfl⟩ := List.getElem?_eq_some_iff.mp found
      have owes := balanced.owed task.frame (task.owed flight.registry)
        (List.mem_map_of_mem inFlight)
      obtain ⟨_, whole⟩ := List.getElem?_eq_some_iff.mp owes
      rw [whole] at old
      exact old.owed decodes grows

end Flight

namespace System

open Config

variable {environment : Environment} {system : System κ}

/-- What a run has brought about, as a ledger. -/
structure Mirrored (environment : Environment) (system : System κ) : Prop where
  ordered : system.flight.Ordered
  decoded : system.flight.Decoded environment.parsers
  ledger : ∃ ledger, Relation.ReflTransGen (Ledger.Step environment.overtaking)
      Ledger.empty ledger ∧
    system.flight.Mirrors environment.parsers ledger

theorem mirrored_initial : Mirrored environment ({} : System κ) := by
  have empty : ({} : System κ).flight = ⟨{}, [], [], [], []⟩ := rfl
  refine ⟨ordered_initial, ?_, Ledger.empty, .refl, ?_⟩
  · simp [empty, Flight.Decoded]
  · rw [empty]
    exact ⟨.nil, rfl, rfl⟩

theorem mirrored_of_reach {allowed : System κ → Label κ → Prop}
    (reach : Reach (System.next environment) allowed {} system) :
    Mirrored environment system := by
  refine Reach.invariant_of mirrored_initial control_of_reach ?_ reach
  intro before after label control ⟨ordered, decoded, ledger, run,
    mirrors⟩ permitted taken
  rcases control.flies_or_registers (next_step taken) with flies |
    ⟨registration, rfl, rfl⟩
  · obtain ⟨ledger', step, mirrors'⟩ := flies.mirrors ordered mirrors
    exact ⟨flies.ordered ordered, flies.decoded decoded, ledger',
      run.tail step, mirrors'⟩
  · obtain ⟨ledger', step, mirrors'⟩ := mirrors.registers
        (Ledger.reach_balanced run)
      decoded (registry_grows registration _)
    exact ⟨⟨ordered.ascending, ordered.ahead, ordered.known⟩, decoded, ledger',
      run.tail step, mirrors'⟩

/-- In every run the invocations made for a frame are the first ones of those
that the callbacks registered by now, each taken once, would make. -/
theorem deliveries_of_reach {allowed : System κ → Label κ → Prop}
    (reach : Reach (System.next environment) allowed {} system) {index : Nat}
    {received : ReceivedFrame κ}
    (found : system.received[index]? = some received) :
    Ledger.deliveriesOf system.invocations index <+:
      Flight.planNow environment.parsers system.registry received := by
  obtain ⟨ledger, run, mirrors⟩ := (mirrored_of_reach reach).ledger
  obtain ⟨plan, planned, copied⟩ := mirrors.plan found
  have delivered := Ledger.Balanced.deliveries_prefix
      (Ledger.reach_balanced run) planned
  rw [mirrors.log] at delivered
  exact delivered.trans copied.byNow

end System

end Farsounder.Subscriber
