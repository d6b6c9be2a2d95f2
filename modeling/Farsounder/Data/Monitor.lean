import Farsounder.Data.Transition
import Mathlib.Data.List.Basic

namespace Farsounder.Data

universe u v w x

/-! One thread among others. -/

section Threads

variable {θ : Type u} {β : Type v} {threads : List θ} {index : Nat}
  {thread thread' : θ}

theorem set_found (found : threads[index]? = some thread) :
    threads.set index thread = threads := by
  obtain ⟨inBounds, rfl⟩ := List.getElem?_eq_some_iff.mp found
  exact List.set_getElem_self inBounds

theorem exists_split (found : threads[index]? = some thread) : ∃ earlier later,
    threads = earlier ++ thread :: later ∧
      ∀ other, threads.set index other = earlier ++ other :: later := by
  obtain ⟨inBounds, rfl⟩ := List.getElem?_eq_some_iff.mp found
  refine ⟨threads.take index, threads.drop (index + 1), ?_, fun other => ?_⟩
  · rw [List.getElem_cons_drop, List.take_append_drop]
  · exact List.set_eq_take_append_cons_drop.trans (if_pos inBounds)

theorem any_set {check : θ → Bool} (found : threads[index]? = some thread)
    (same : check thread' = check thread) :
    (threads.set index thread').any check = threads.any check := by
  obtain ⟨earlier, later, rfl, replaced⟩ := exists_split found
  simp [replaced, same]

theorem any_of_found {check : θ → Bool} (found : threads[index]? = some thread)
    (checked : check thread = true) : threads.any check = true :=
  List.any_eq_true.mpr ⟨thread, List.mem_of_getElem? found, checked⟩

/-- Of a check that a thread fails after a change, less is left. -/
theorem any_set_le {check : θ → Bool} (found : threads[index]? = some thread)
    (less : check thread' = true → check thread = true)
    (none : threads.any check = false) :
    (threads.set index thread').any check = false := by
  obtain ⟨earlier, later, rfl, replaced⟩ := exists_split found
  simp only [replaced, List.any_append, List.any_cons, Bool.or_eq_false_iff]
    at none ⊢
  refine ⟨none.1, ?_, none.2.2⟩
  cases checked : check thread' with
  | false => rfl
  | true => exact absurd (less checked) (by simp [none.2.1])

theorem countP_set {check : θ → Bool} (found : threads[index]? = some thread) :
    (threads.set index thread').countP check + (check thread).toNat =
      threads.countP check + (check thread').toNat := by
  obtain ⟨earlier, later, rfl, replaced⟩ := exists_split found
  rw [replaced, List.countP_append, List.countP_append, List.countP_cons,
    List.countP_cons]
  cases check thread <;> cases check thread' <;> simp <;> omega

theorem countP_same {check : θ → Bool} (found : threads[index]? = some thread)
    (same : check thread' = check thread) :
    (threads.set index thread').countP check = threads.countP check := by
  have counted :
      (threads.set index thread').countP check + (check thread).toNat =
      threads.countP check + (check thread').toNat := countP_set found
  rw [same] at counted
  exact Nat.add_right_cancel counted

theorem countP_more {check : θ → Bool} (found : threads[index]? = some thread)
    (before : check thread = false) (after : check thread' = true) :
    (threads.set index thread').countP check = threads.countP check + 1 := by
  have counted :
      (threads.set index thread').countP check + (check thread).toNat =
      threads.countP check + (check thread').toNat := countP_set found
  rwa [before, after] at counted

theorem countP_less {check : θ → Bool} (found : threads[index]? = some thread)
    (before : check thread = true) (after : check thread' = false) :
    threads.countP check = (threads.set index thread').countP check + 1 := by
  have counted :
      (threads.set index thread').countP check + (check thread).toNat =
      threads.countP check + (check thread').toNat := countP_set found
  rw [before, after] at counted
  exact counted.symm

theorem filterMap_split {shown : θ → Option β} (earlier later : List θ) :
    (earlier ++ thread :: later).filterMap shown =
      earlier.filterMap shown ++
        ((shown thread).toList ++ later.filterMap shown) := by
  rw [List.filterMap_append, List.filterMap_cons]
  cases shown thread <;> rfl

theorem filterMap_set {shown : θ → Option β}
    (found : threads[index]? = some thread)
    (same : shown thread' = shown thread) :
    (threads.set index thread').filterMap shown = threads.filterMap shown := by
  obtain ⟨earlier, later, rfl, replaced⟩ := exists_split found
  rw [replaced, filterMap_split, filterMap_split, same]

/-- A thread keeps its place among those that show something. -/
theorem exists_filterMap_set {shown : θ → Option β} {before : β}
    (found : threads[index]? = some thread)
    (shows : shown thread = some before) :
    ∃ position, (threads.filterMap shown)[position]? = some before ∧
      ∀ {thread' after}, shown thread' = some after →
        (threads.set index thread').filterMap shown =
          (threads.filterMap shown).set position after := by
  obtain ⟨earlier, later, rfl, replaced⟩ := exists_split found
  refine ⟨(earlier.filterMap shown).length, ?_, fun shows' => ?_⟩
  · rw [filterMap_split, shows, List.getElem?_append_right (Nat.le_refl _),
      Nat.sub_self]
    rfl
  · rw [replaced, filterMap_split, filterMap_split, shows, shows',
      List.set_append_right _ _ (Nat.le_refl _), Nat.sub_self]
    rfl

theorem perm_exchange (first second third last : List β) :
    (first ++ (second ++ third) ++ last).Perm (first ++ (last ++ third) ++
      second) := by
  rw [List.append_assoc, List.append_assoc first, List.append_assoc,
    List.append_assoc]
  apply List.Perm.append_left
  calc (second ++ (third ++ last)).Perm ((third ++ last) ++ second) :=
        List.perm_append_comm
    _ |>.Perm (last ++ third ++ second) :=
        List.perm_append_comm.append_right second
    _ = last ++ (third ++ second) := List.append_assoc _ _ _

/-- What the others show stays. -/
theorem perm_filterMap_set {shown : θ → Option β}
    (found : threads[index]? = some thread) :
    ((threads.set index thread').filterMap shown ++ (shown thread).toList).Perm
      (threads.filterMap shown ++ (shown thread').toList) := by
  obtain ⟨earlier, later, rfl, replaced⟩ := exists_split found
  rw [replaced, filterMap_split, filterMap_split]
  exact perm_exchange _ _ _ _

theorem found_elsewhere {other : Nat} {current : θ}
    (found : threads[index]? = some thread)
    (found' : threads[other]? = some current) (distinct : current ≠ thread) :
    index ≠ other := by
  rintro rfl
  exact distinct (Option.some.inj (found'.symm.trans found))

variable {holds : θ → Bool}

theorem holder_set {other : Nat} {old new : θ}
    (found : threads[other]? = some old) (idle : holds old = false)
    (idle' : holds new = false) (held : holds thread = true) :
    threads[index]? = some thread ↔
    (threads.set other new)[index]? = some thread := by
  by_cases same : other = index
  · subst same
    rw [found, List.getElem?_set_self (List.getElem?_eq_some_iff.mp found).1,
      Option.some.injEq, Option.some.injEq]
    refine iff_of_false ?_ ?_
    · rintro rfl
      simp [idle] at held
    · rintro rfl
      simp [idle'] at held
  · rw [List.getElem?_set_ne same]

theorem holder_append {new : θ} (idle : holds new = false)
    (held : holds thread = true) :
    threads[index]? = some thread ↔
    (threads ++ [new])[index]? = some thread := by
  by_cases inBounds : index < threads.length
  · rw [List.getElem?_append_left inBounds]
  · have beyond := Nat.le_of_not_lt inBounds
    rw [List.getElem?_eq_none beyond, List.getElem?_append_right beyond]
    refine iff_of_false (by simp) fun found => ?_
    obtain rfl := List.mem_singleton.mp (List.mem_of_getElem? found)
    simp [idle] at held

theorem holder_map {change : θ → θ}
    (kept : ∀ other, holds other = true → change other = other)
    (idle : ∀ other, holds (change other) = holds other)
    (held : holds thread = true) :
    threads[index]? = some thread ↔
    (threads.map change)[index]? = some thread := by
  rw [List.getElem?_map, Option.map_eq_some_iff]
  constructor
  · intro found
    exact ⟨thread, found, kept thread held⟩
  · rintro ⟨other, found, rfl⟩
    rwa [kept other ((idle other).symm.trans held)]

end Threads

/-! Threads that share data under one mutex. -/

/-- What threads do, in steps of single reads and writes.  A step inside is made
with the mutex and is the only kind that sees the data; `ε` is what the
environment decides in it, and `ω` the steps outside, which may concern several
threads. -/
structure Steps (γ : Type u) (θ : Type v) (ε : Type w) (ω : Type x) where
  holds : θ → Bool
  lock : θ → Option θ
  inside : ε → γ → θ → Option (γ × θ)
  unlock : θ → Option θ
  outside : ω → List θ → Option (List θ)

/-- The data, the threads, and whether the mutex is locked. -/
structure Guarded (γ : Type u) (θ : Type v) where
  data : γ
  threads : List θ
  locked : Bool := false

inductive GuardedLabel (ε : Type w) (ω : Type x) where
  | lock (index : Nat)
  | inside (index : Nat) (event : ε)
  | unlock (index : Nat)
  | outside (event : ω)

def GuardedLabel.AtMutex {ε : Type w} {ω : Type x} : GuardedLabel ε ω → Prop
  | lock _ | inside _ _ | unlock _ => True
  | outside _ => False

namespace Steps

variable {γ : Type u} {θ : Type v} {ε : Type w} {ω : Type x}
  (steps : Steps γ θ ε ω)

def next : StepFn (Guarded γ θ) (GuardedLabel ε ω)
  | state, .lock index =>
      -- The mutex is all that keeps a thread from locking it.
      if state.locked then none
      else (state.threads[index]?.bind steps.lock).map fun thread =>
        { state with threads := state.threads.set index thread, locked := true }
  | state, .inside index event =>
      (state.threads[index]?.bind (steps.inside event state.data)).map
        fun (data, thread) =>
        { state with data, threads := state.threads.set index thread }
  | state, .unlock index =>
      (state.threads[index]?.bind steps.unlock).map fun thread =>
        { state with
          threads := state.threads.set index thread, locked := false }
  | state, .outside event =>
      (steps.outside event state.threads).map fun threads =>
        { state with threads }

/-- What a thread makes of the data and comes to between locking the mutex and
unlocking it, if nobody else interferes. -/
inductive Section (data : γ) (start : θ) : γ → θ → Prop
  | locked {thread} : steps.lock start = some thread →
    Section data start data thread
  | inside {event current thread data' thread'} :
  Section data start current thread →
      steps.inside event current thread = some (data', thread') →
      Section data start data' thread'

/-- Critical sections are single steps. -/
inductive Atomic : γ × List θ → γ × List θ → Prop
  | critical {data data' threads index start thread after}
      (found : threads[index]? = some start)
        (worked : steps.Section data start data' thread)
          (left : steps.unlock thread = some after) :
      Atomic (data, threads) (data', threads.set index after)
  | outside {data threads event threads'} (taken : steps.outside event threads =
    some threads') :
      Atomic (data, threads) (data, threads')

/-- Somebody holds the mutex. -/
def Held (threads : List θ) (index : Nat) : Prop :=
  ∃ thread, threads[index]? = some thread ∧ steps.holds thread = true

end Steps

/-- The mutex is locked and unlocked in turn, and who is outside leaves those
alone who hold it and would do the same if they did not hold it yet. -/
structure Monitor (γ : Type u) (θ : Type v) (ε : Type w) (ω : Type x) extends
    Steps γ θ ε ω where
  lock_holds {before after : θ} (locked : lock before = some after) :
    holds before = false ∧ holds after = true
  inside_holds {event : ε} {data data' : γ} {before after : θ}
    (moved : inside event data before = some (data', after)) :
    holds before = true ∧ holds after = true
  unlock_holds {before after : θ} (unlocked : unlock before = some after) :
    holds before = true ∧ holds after = false
  outside_holds {event : ω} {before after : List θ}
    (taken : outside event before = some after)
    {index : Nat} {thread : θ} (held : holds thread = true) :
    before[index]? = some thread ↔ after[index]? = some thread
  outside_undone {event : ω} {before after : List θ}
    (taken : outside event before = some after)
    {index : Nat} {start thread : θ} {data data' : γ}
    (found : before[index]? = some thread)
    (worked : toSteps.Section data start data' thread) :
    outside event (before.set index start) = some (after.set index start)

namespace Monitor

variable {γ : Type u} {θ : Type v} {ε : Type w} {ω : Type x}
  (monitor : Monitor γ θ ε ω)

/-- The state differs from one in which nobody holds the mutex by what the
holder has done, if there is one. -/
inductive Behind : Guarded γ θ → γ × List θ → Prop
  | free {data threads} (none : ∀ index, ¬ monitor.Held threads index) :
      Behind ⟨data, threads, false⟩ (data, threads)
  | held {data data' threads index start thread}
      (none : ∀ index, ¬ monitor.Held threads index)
      (found : threads[index]? = some start)
      (worked : monitor.Section data start data' thread) :
      Behind ⟨data', threads.set index thread, true⟩ (data, threads)

variable {monitor} {data data' : γ} {threads threads' : List θ} {index : Nat}
  {start thread : θ}

theorem Section.holds (worked : monitor.Section data start data' thread) :
    monitor.holds start = false ∧ monitor.holds thread = true := by
  induction worked with
  | locked locked => exact monitor.lock_holds locked
  | inside _ moved induction =>
      exact ⟨induction.1, (monitor.inside_holds moved).2⟩

/-- The only thread that holds the mutex is the one that locked it. -/
theorem holder_unique (none : ∀ index, ¬ monitor.Held threads index)
    {other : Nat} (holder : monitor.Held (threads.set index thread) other) :
    other = index := by
  obtain ⟨holding, found, holds⟩ := holder
  by_contra distinct
  rw [List.getElem?_set_ne (Ne.symm distinct)] at found
  exact none other ⟨holding, found, holds⟩

theorem idle_of_none (none : ∀ index, ¬ monitor.Held threads index)
    (member : thread ∈ threads) :
    monitor.holds thread = false := by
  obtain ⟨index, found⟩ := List.mem_iff_getElem?.mp member
  cases holds : monitor.holds thread with
  | false => rfl
  | true => exact absurd ⟨thread, found, holds⟩ (none index)

theorem none_held_set
    (others : ∀ other, other ≠ index → ¬ monitor.Held threads other)
    (idle : monitor.holds thread = false) (other : Nat) :
    ¬ monitor.Held (threads.set index thread) other := by
  rintro ⟨holding, found, holds⟩
  by_cases same : other = index
  · subst same
    have inBounds := (List.getElem?_eq_some_iff.mp found).1
    rw [List.getElem?_set_self (by simpa using inBounds)] at found
    obtain rfl := Option.some.inj found
    simp [idle] at holds
  · rw [List.getElem?_set_ne (Ne.symm same)] at found
    exact others other same ⟨holding, found, holds⟩

/-- Mutual exclusion. -/
theorem Behind.exclusive {state : Guarded γ θ} {settled : γ × List θ}
    (behind : monitor.Behind state settled) {first second : Nat}
    (holds : monitor.Held state.threads first)
    (holds' : monitor.Held state.threads second) :
    first = second := by
  cases behind with
  | free none => exact absurd holds (none first)
  | held none =>
      exact (holder_unique none holds).trans (holder_unique none holds').symm

/-- The holder is the only one that can go on inside or unlock the mutex. -/
theorem holder_eq (none : ∀ index, ¬ monitor.Held threads index)
    (inBounds : index < threads.length) {other : Nat} {current : θ}
    (found : (threads.set index thread)[other]? = some current)
    (holds : monitor.holds current = true) :
    other = index ∧ current = thread := by
  obtain rfl := holder_unique none ⟨current, found, holds⟩
  rw [List.getElem?_set_self inBounds] at found
  exact ⟨rfl, (Option.some.inj found).symm⟩

/-- What whoever holds the mutex has come to. -/
theorem Behind.worked {state : Guarded γ θ} {settled : γ × List θ}
    (behind : monitor.Behind state settled)
    (found : state.threads[index]? = some thread)
    (holds : monitor.holds thread = true) :
    ∃ data start, monitor.Section data start state.data thread := by
  cases behind with
  | free none => exact absurd ⟨thread, found, holds⟩ (none index)
  | @held data data' threads _ start _ none found' worked =>
      have inBounds := (List.getElem?_eq_some_iff.mp found').1
      obtain ⟨rfl, rfl⟩ := holder_eq none inBounds found holds
      exact ⟨data, start, worked⟩

/-- What holds of every thread when nobody holds the mutex, and is kept by the
holder for itself and for the others, holds of every thread at any time. -/
theorem Behind.all {state : Guarded γ θ} {settled : γ × List θ}
    (behind : monitor.Behind state settled) {property : γ → θ → Prop}
    (apart : ∀ thread ∈ settled.2, monitor.holds thread = false →
      property settled.1 thread)
    (kept : ∀ {data start data' thread},
      monitor.Section data start data' thread →
      property data start → property data' thread)
    (others : ∀ {data start data' thread other},
      monitor.Section data start data' thread →
      property data other → property data' other) :
    ∀ thread ∈ state.threads, property state.data thread := by
  intro thread member
  cases behind with
  | free none => exact apart thread member (idle_of_none none member)
  | @held _ _ threads index start _ none found worked =>
      obtain ⟨other, found'⟩ := List.mem_iff_getElem?.mp member
      by_cases same : index = other
      · subst same
        rw [List.getElem?_set_self (List.getElem?_eq_some_iff.mp found).1]
          at found'
        obtain rfl := Option.some.inj found'
        have listed := List.mem_of_getElem? found
        exact kept worked (apart start listed (idle_of_none none listed))
      · rw [List.getElem?_set_ne same] at found'
        have listed := List.mem_of_getElem? found'
        exact others worked (apart thread listed (idle_of_none none listed))

/-- If the holder can always go on, then somebody can as long as the mutex is
wanted. -/
theorem Behind.advances {state : Guarded γ θ} {settled : γ × List θ}
    (behind : monitor.Behind state settled)
    (live : ∀ {data start data' thread},
      monitor.Section data start data' thread →
      (∃ after, monitor.unlock thread = some after) ∨
        ∃ event after, monitor.inside event data' thread = some after)
    (wanted : ∃ thread ∈ state.threads,
      (∃ after, monitor.lock thread = some after) ∨
      monitor.holds thread = true) :
    ∃ label after, label.AtMutex ∧ monitor.next state label = some after := by
  cases behind with
  | free none =>
      obtain ⟨thread, member, ⟨after, locked⟩ | holds⟩ := wanted
      · obtain ⟨index, found⟩ := List.mem_iff_getElem?.mp member
        exact ⟨.lock index, _, trivial, by
          simp [Steps.next, found, locked]; rfl⟩
      · simp [idle_of_none none member] at holds
  | @held _ _ _ index _ _ none found worked =>
      have inBounds := (List.getElem?_eq_some_iff.mp found).1
      rcases live worked with ⟨after, left⟩ | ⟨event, after, moved⟩
      · exact ⟨.unlock index, _, trivial, by
          simp [Steps.next, inBounds, left]; rfl⟩
      · exact ⟨.inside index event, _, trivial, by
          simp [Steps.next, inBounds, moved]; rfl⟩

theorem Behind.step {state after : Guarded γ θ} {settled : γ × List θ}
    (behind : monitor.Behind state settled) {label : GuardedLabel ε ω}
    (taken : monitor.next state label = some after) :
    ∃ settled', Relation.ReflTransGen monitor.Atomic settled settled' ∧
      monitor.Behind after settled' := by
  cases behind with
  | @free data threads none =>
      cases label with
      | lock index =>
          simp only [Steps.next, Bool.false_eq_true, if_false,
            Option.map_eq_some_iff, Option.bind_eq_some_iff] at taken
          obtain ⟨thread, ⟨start, found, locked⟩, rfl⟩ := taken
          exact ⟨_, .refl, .held none found (.locked locked)⟩
      | inside index event =>
          simp only [Steps.next, Option.map_eq_some_iff,
            Option.bind_eq_some_iff] at taken
          obtain ⟨_, ⟨thread, found, moved⟩, _⟩ := taken
          exact absurd ⟨thread, found, (monitor.inside_holds moved).1⟩
            (none index)
      | unlock index =>
          simp only [Steps.next, Option.map_eq_some_iff,
            Option.bind_eq_some_iff] at taken
          obtain ⟨_, ⟨thread, found, unlocked⟩, _⟩ := taken
          exact absurd ⟨thread, found, (monitor.unlock_holds unlocked).1⟩
            (none index)
      | outside event =>
          obtain ⟨threads', moved, rfl⟩ := Option.map_eq_some_iff.mp taken
          refine ⟨_, .single (.outside moved), .free fun index => ?_⟩
          rintro ⟨thread, found, holds⟩
          exact none index ⟨thread,
            (monitor.outside_holds moved holds).mpr found, holds⟩
  | @held data data' threads index start thread none found worked =>
      have inBounds := (List.getElem?_eq_some_iff.mp found).1
      cases label with
      | lock other => contradiction
      | inside other event =>
          simp only [Steps.next, Option.map_eq_some_iff,
            Option.bind_eq_some_iff] at taken
          obtain ⟨⟨data'', next⟩, ⟨current, member, moved⟩, rfl⟩ := taken
          obtain ⟨rfl, rfl⟩ := holder_eq none inBounds member
              (monitor.inside_holds moved).1
          simp only [List.set_set]
          exact ⟨_, .refl, .held none found (.inside worked moved)⟩
      | unlock other =>
          simp only [Steps.next, Option.map_eq_some_iff,
            Option.bind_eq_some_iff] at taken
          obtain ⟨next, ⟨current, member, unlocked⟩, rfl⟩ := taken
          obtain ⟨holds, idle⟩ := monitor.unlock_holds unlocked
          obtain ⟨rfl, rfl⟩ := holder_eq none inBounds member holds
          simp only [List.set_set]
          refine ⟨_, .single (.critical found worked unlocked), .free ?_⟩
          exact none_held_set (fun other _ => none other) idle
      | outside event =>
          obtain ⟨threads', moved, rfl⟩ := Option.map_eq_some_iff.mp taken
          obtain ⟨idle, holds⟩ := Section.holds worked
          have held : (threads.set index thread)[index]? = some thread :=
            List.getElem?_set_self inBounds
          have held' := (monitor.outside_holds moved holds).mp held
          have undone := monitor.outside_undone moved held worked
          rw [List.set_set, set_found found] at undone
          have none' :
              ∀ other, ¬ monitor.Held (threads'.set index start) other := by
            apply none_held_set _ idle
            rintro other distinct ⟨holding, member, holds'⟩
            apply distinct
            exact holder_unique none
              ⟨holding, (monitor.outside_holds moved holds').mpr member, holds'⟩
          have inBounds' := (List.getElem?_eq_some_iff.mp held').1
          have behind := Behind.held none'
              (List.getElem?_set_self inBounds') worked
          rw [List.set_set, set_found held'] at behind
          exact ⟨_, .single (.outside undone), behind⟩

/-- Whatever the threads do while one of them holds the mutex, it is as if each
critical section were a single step, at the moment when it ends. -/
theorem behind_of_reach {allowed : Guarded γ θ → GuardedLabel ε ω → Prop}
    {state : Guarded γ θ} (none : ∀ index, ¬ monitor.Held threads index)
    (reach : Reach monitor.next allowed ⟨data, threads, false⟩ state) :
    ∃ settled, Relation.ReflTransGen monitor.Atomic (data, threads) settled ∧
      monitor.Behind state settled := by
  induction reach with
  | refl => exact ⟨_, .refl, .free none⟩
  | step _ _ taken induction =>
      obtain ⟨settled, reached, behind⟩ := induction
      obtain ⟨settled', moved, behind'⟩ := behind.step taken
      exact ⟨settled', reached.trans moved, behind'⟩

end Monitor

end Farsounder.Data
