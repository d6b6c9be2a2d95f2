import Farsounder.Subscriber.Calls

namespace Farsounder.Subscriber

open Config
open Farsounder.Data

variable {κ : Type}

namespace System

variable {environment : Environment} {system after : System κ}

/-! `running` and `worker.joinable()`, whoever calls `start` and `stop`. -/

/-- Some thread is in a phase of a call that passes a test. -/
def InCall (system : System κ) (test : CallPhase → Bool) : Prop :=
  ∃ thread phase, system.call? thread = some phase ∧ test phase = true

/-- Some thread is past the test of `running`. -/
abbrev Acting (system : System κ) : Prop :=
  system.InCall CallPhase.acts

/-- Some thread is past it in a `start`. -/
abbrev Starting (system : System κ) : Prop :=
  system.InCall CallPhase.starts

/-- The condition on a step: no `std::thread` constructor throws, no `start`
acts while another call does, and no `stop` acts on the worker itself or while a
`start` does. -/
def CallsApart (system : System κ) : Label κ → Prop
  | .callStep thread .throws => system.call? thread ≠ some .startStored
  | .callStep thread .completes =>
      (system.call? thread = some .startEntered →
        system.lifecycle.running = false →
        ¬ system.Acting) ∧
      (system.call? thread = some .stopEntered →
        system.lifecycle.running = true →
        thread ≠ .runLoop ∧ ¬ system.Starting)
  | _ => True

/-! The condition can be evaluated: the callers are among the running tasks. -/

theorem mem_running {task : Task κ} :
    task ∈ system.running ↔ ∃ thread, system.task? thread = some task := by
  simp only [running, List.mem_append, Option.mem_toList]
  constructor
  · rintro (pooled | dispatched)
    · cases poolEq : system.pool with
      | none => simp [poolEq] at pooled
      | some pool =>
          rw [poolEq, Option.elim_some, ThreadPool.running, List.mem_filterMap]
            at pooled
          obtain ⟨worker, member, running⟩ := pooled
          obtain ⟨index, found⟩ := List.getElem?_of_mem member
          exact ⟨.poolWorker index, by
            simp [task?, poolEq, ThreadPool.task?, found, running]⟩
    · exact ⟨.runLoop, dispatched⟩
  · rintro ⟨thread, found⟩
    cases thread with
    | controller => contradiction
    | runLoop => exact .inr found
    | poolWorker index =>
        obtain ⟨pool, poolEq, workerEq⟩ := task?_poolWorker found
        refine .inl ?_
        rw [poolEq, Option.elim_some, ThreadPool.running, List.mem_filterMap]
        exact ⟨_, List.mem_of_getElem? workerEq, rfl⟩

theorem inCall_iff {test : CallPhase → Bool} : system.InCall test ↔
    (∃ phase ∈ system.controller, test phase = true) ∨
      ∃ task ∈ system.running, ∃ phase ∈ task.call, test phase = true := by
  constructor
  · rintro ⟨thread, phase, found, passes⟩
    by_cases owner : thread = .controller
    · subst owner
      exact .inl ⟨phase, found, passes⟩
    · rw [call?_eq owner, Option.bind_eq_some_iff] at found
      obtain ⟨task, running, calling⟩ := found
      exact .inr ⟨task, mem_running.mpr ⟨thread, running⟩, phase,
        calling, passes⟩
  · rintro (⟨phase, found, passes⟩ | ⟨task, member, phase, calling, passes⟩)
    · exact ⟨.controller, phase, found, passes⟩
    · obtain ⟨thread, running⟩ := mem_running.mp member
      refine ⟨thread, phase, ?_, passes⟩
      have callback : thread ≠ .controller := by
        rintro rfl
        contradiction
      rw [call?_eq callback, running]
      exact calling

instance (system : System κ) (test : CallPhase → Bool) :
    Decidable (system.InCall test) :=
  decidable_of_iff _ inCall_iff.symm

instance (system : System κ) (label : Label κ) :
    Decidable (system.CallsApart label) :=
  match label with
  | .callStep _ .throws => inferInstanceAs (Decidable (_ ≠ _))
  | .callStep _ .completes => inferInstanceAs (Decidable (_ ∧ _))
  | .call _ _ | .on _ | .loop _ | .worker _ _ | .dispatch _ _ => .isTrue trivial

structure FlagFits (system : System κ) : Prop where
  rest : ¬ system.Acting → system.lifecycle.running = system.lifecycle.joinable
  calls : ∀ thread phase, system.call? thread = some phase →
    phase.Fits system.lifecycle (thread = .runLoop)
  alone : ∀ thread phase other current, system.call? thread = some phase →
    phase.starts = true → system.call? other = some current →
    current.acts = true →
      other = thread
  temporary : system.lifecycle.thread = .temporary →
    ∃ thread, system.call? thread = some .startConstructed

theorem FlagFits.free (fits : FlagFits system) (quiet : ¬ system.Acting)
    (stopped : system.lifecycle.running = false) :
    system.lifecycle.thread = .none := by
  refine Lifecycle.thread_eq_none ((fits.rest quiet).symm.trans stopped) ?_
  intro constructed
  obtain ⟨thread, found⟩ := fits.temporary constructed
  exact quiet ⟨thread, _, found, rfl⟩

theorem FlagFits.keeps (fits : FlagFits system)
    (lifecycle : after.lifecycle = system.lifecycle)
    (calls : ∀ thread, after.call? thread = system.call? thread) :
    FlagFits after := by
  have acting : after.Acting ↔ system.Acting := by simp [InCall, calls]
  constructor
  case rest =>
      rw [acting, lifecycle]
      exact fits.rest
  case calls =>
      intro thread phase found
      rw [lifecycle]
      exact fits.calls thread phase (calls thread ▸ found)
  case alone =>
      intro thread phase other current found starts otherFound acts
      rw [calls] at found otherFound
      exact fits.alone thread phase other current found starts otherFound acts
  case temporary =>
      intro constructed
      obtain ⟨thread, found⟩ := fits.temporary (lifecycle ▸ constructed)
      exact ⟨thread, (calls thread).trans found⟩

theorem FlagFits.enters {thread : Thread} {operation : Operation}
    (fits : FlagFits system) (idle : system.call? thread = none)
    (lifecycle : after.lifecycle = system.lifecycle)
    (calls : ∀ other, after.call? other =
      if other = thread then some operation.entry else system.call? other) :
    FlagFits after := by
  have entered : operation.entry.acts = false := by cases operation <;> rfl
  have old : ∀ other phase, after.call? other = some phase → phase.acts = true →
      system.call? other = some phase := by
    intro other phase found acts
    rw [calls] at found
    split at found
    · rw [← Option.some.inj found, entered] at acts
      contradiction
    · exact found
  have kept : ∀ other phase, system.call? other = some phase →
      after.call? other = some phase := by
    intro other phase found
    have distinct : other ≠ thread := by
      rintro rfl
      simp [idle] at found
    rw [calls, if_neg distinct, found]
  constructor
  case rest =>
      intro quiet
      rw [lifecycle]
      apply fits.rest
      rintro ⟨other, phase, found, acts⟩
      exact quiet ⟨other, phase, kept other phase found, acts⟩
  case calls =>
      intro other phase found
      cases acts : phase.acts with
      | false => exact .entered acts
      | true =>
          rw [lifecycle]
          exact fits.calls other phase (old other phase found acts)
  case alone =>
      intro first phase other current found starts otherFound acts
      exact fits.alone first phase other current
        (old first phase found (CallPhase.starts_iff.mp starts).1) starts
        (old other current otherFound acts) acts
  case temporary =>
      intro constructed
      obtain ⟨other, found⟩ := fits.temporary (lifecycle ▸ constructed)
      exact ⟨other, kept other _ found⟩

section Advances

variable {thread : Thread} {event : CallEvent} {phase : CallPhase}
  {outcome : CallOutcome} {workerFinished : Bool} (fits : FlagFits system)
  (permitted : system.CallsApart (.callStep thread event))
  (found : system.call? thread = some phase)
  (advances : Advances (thread = .runLoop) workerFinished system.lifecycle
    phase event outcome)

include fits permitted found advances

omit fits in
/-- A call begins to act apart from the others. -/
theorem begins_apart {next : CallPhase} (continues : outcome.phase? = some next)
    (entered : phase.acts = false) {other : Thread} {current : CallPhase}
    (otherFound : system.call? other = some current)
    (acting : current.acts = true) :
    next.starts = false ∧ current.starts = false := by
  have stops := advances.ofStop continues
  obtain ⟨rfl, rfl, stopped⟩ | ⟨rfl, rfl, running⟩ :=
    advances.begins continues entered
  · exact absurd ⟨other, current, otherFound,
      acting⟩ (permitted.1 found stopped)
  · have stop : next.ofStop = true := stops
    refine ⟨by simp [CallPhase.starts, stop], ?_⟩
    cases starts : current.starts with
    | false => rfl
    | true =>
        exact absurd ⟨other, current, otherFound,
          starts⟩ (permitted.2 found running).2

theorem FlagFits.own_call {next : CallPhase}
    (continues : outcome.phase? = some next) :
    next.Fits (outcome.lifecycle system.lifecycle) (thread = .runLoop) := by
  cases acts : phase.acts with
  | true =>
      refine advances.fits (fits.calls thread phase found) ?_ ?_ continues
      · rintro rfl
        contradiction
      · rintro rfl
        contradiction
  | false =>
      obtain ⟨rfl, rfl, stopped⟩ | ⟨rfl, rfl, running⟩ :=
        advances.begins continues acts
      · exact advances.fits trivial
          (fun _ _ => fits.free (permitted.1 found stopped) stopped)
            (by simp) continues
      · exact advances.fits trivial (by simp)
          (fun _ _ => decide_eq_false (permitted.2 found running).1) continues

omit permitted in
theorem FlagFits.other_call {other : Thread} {current : CallPhase}
    (distinct : other ≠ thread)
    (otherFound : system.call? other = some current) :
    current.Fits (outcome.lifecycle system.lifecycle) (other = .runLoop) := by
  have otherFits := fits.calls other current otherFound
  cases acts : phase.acts with
  | false =>
      rw [advances.entered acts]
      exact otherFits
  | true =>
      cases stops : phase.ofStop with
      | true =>
          refine advances.undisturbed stops otherFits fun otherActs => ?_
          by_contra starts
          have starts :=
            CallPhase.starts_iff.mpr ⟨otherActs, Bool.eq_false_iff.mpr starts⟩
          exact distinct
            (fits.alone other current thread phase otherFound starts found
              acts).symm
      | false =>
          have starts := CallPhase.starts_iff.mpr ⟨acts, stops⟩
          refine .entered (Bool.eq_false_iff.mpr fun otherActs => distinct ?_)
          exact fits.alone thread phase other current found starts
            otherFound otherActs

variable (lifecycle : after.lifecycle = outcome.lifecycle system.lifecycle)
  (calls : ∀ other, after.call? other =
    if other = thread then outcome.phase? else system.call? other)

include calls

theorem FlagFits.alone_advances {first other : Thread}
    {next current : CallPhase} (firstFound : after.call? first = some next)
    (starts : next.starts = true)
    (otherFound : after.call? other = some current)
    (acting : current.acts = true) :
    other = first := by
  rw [calls] at firstFound otherFound
  split at firstFound <;> split at otherFound
  · rename_i here there
    exact there.trans here.symm
  · rename_i here there
    subst here
    cases acts : phase.acts with
    | true =>
        have begun := advances.ofStop firstFound
        have starts := CallPhase.starts_iff.mpr
          ⟨acts, begun.symm.trans (CallPhase.starts_iff.mp starts).2⟩
        exact fits.alone first phase other current found starts
          otherFound acting
    | false =>
        have apart :=
          begins_apart permitted found advances firstFound acts
            otherFound acting
        exact absurd (apart.1.symm.trans starts) (by simp)
  · rename_i here there
    subst there
    cases acts : phase.acts with
    | true =>
        exact fits.alone first next other phase firstFound starts found acts
    | false =>
        have apart :=
          begins_apart permitted found advances otherFound acts firstFound
          (CallPhase.starts_iff.mp starts).1
        exact absurd (apart.2.symm.trans starts) (by simp)
  · exact fits.alone first next other current firstFound starts
      otherFound acting

include lifecycle

theorem FlagFits.temporary_advances
    (constructed : after.lifecycle.thread = .temporary) :
    ∃ thread, after.call? thread = some .startConstructed := by
  rw [lifecycle] at constructed
  rcases advances.temporary constructed with own | ⟨old, elsewhere⟩
  · exact ⟨thread, by rw [calls, if_pos rfl, own]⟩
  · obtain ⟨other, otherFound⟩ := fits.temporary old
    have distinct : other ≠ thread := by
      rintro rfl
      exact elsewhere (Option.some.inj (found.symm.trans otherFound))
    exact ⟨other, by rw [calls, if_neg distinct, otherFound]⟩

theorem FlagFits.rest_advances (quiet : ¬ after.Acting) :
    after.lifecycle.running = after.lifecycle.joinable := by
  have constructed : phase = .startStored → event = .completes := by
    rintro rfl
    cases event with
    | throws => exact absurd found permitted
    | completes => rfl
  have returned : outcome.phase? = none := by
    cases continues : outcome.phase? with
    | none => rfl
    | some next =>
        refine absurd ⟨thread, next, ?_, advances.acts continues⟩ quiet
        rw [calls, if_pos rfl, continues]
  rw [lifecycle]
  cases acts : phase.acts with
  | true =>
      exact advances.agrees (fits.calls thread phase found) acts
        constructed returned
  | false =>
      rw [advances.entered acts]
      apply fits.rest
      rintro ⟨other, current, otherFound, otherActs⟩
      have distinct : other ≠ thread := by
        rintro rfl
        obtain rfl := Option.some.inj (found.symm.trans otherFound)
        simp [acts] at otherActs
      exact quiet ⟨other, current, by rw [calls, if_neg distinct, otherFound],
        otherActs⟩

end Advances

theorem FlagFits.step (fits : FlagFits system) {label : Label κ}
    (permitted : system.CallsApart label)
    (change : CallsChange system after label) :
    FlagFits after := by
  cases change with
  | keeps lifecycle calls => exact fits.keeps lifecycle calls
  | enters idle lifecycle calls => exact fits.enters idle lifecycle calls
  | @advances thread event phase outcome found advanced lifecycle calls =>
      have advances := CallPhase.advances advanced
      constructor
      case rest =>
        exact fits.rest_advances permitted found advances lifecycle calls
      case calls =>
          intro other current otherFound
          rw [calls] at otherFound
          rw [lifecycle]
          split at otherFound
          · rename_i same
            subst same
            exact fits.own_call permitted found advances otherFound
          · rename_i distinct
            exact fits.other_call found advances distinct otherFound
      case alone =>
          intro first next other current firstFound starts otherFound acting
          exact fits.alone_advances permitted found advances calls
            firstFound starts
            otherFound acting
      case temporary =>
        exact fits.temporary_advances permitted found advances lifecycle calls
  | terminates found advanced ends =>
      rw [ends]
      exact ⟨fits.rest, fits.calls, fits.alone, fits.temporary⟩

/-- A worker of the pool is in a callback while the owner's `stop` waits. -/
def stoppingRun : List (Label Nat) :=
  .on ⟨.VesselInfo, .name "VesselInfo", some 7⟩ :: startRun ++
    receiveRun draftFrame ++ [.loop .proceed, .loop (.notify none),
      .worker 0 .acquire, .dispatch (.poolWorker 0) .snapshot,
      .dispatch (.poolWorker 0) .invoke] ++
    callRun .controller .stop

end System

end Farsounder.Subscriber
