import Mathlib.Data.List.Nodup
import Mathlib.Data.List.Perm.Subperm
import Mathlib.Logic.Relation

namespace Farsounder.Data

/-! Queues served first come, first served.  Jobs are numbered in the order in
which they are accepted.  A job is started only while fewer than `servers` of
the started ones have not been completed. -/

structure Service (τ : Type) where
  accepted : List (Nat × τ) := []
  started : List (Nat × τ) := []
  completed : List (Nat × τ) := []
  deriving DecidableEq, Repr

namespace Service

variable {τ : Type}

def accept (service : Service τ) (task : τ) : Service τ :=
  { service with accepted := service.accepted ++
    [(service.accepted.length, task)] }

def start (service : Service τ) (job : Nat × τ) : Service τ :=
  { service with started := service.started ++ [job] }

def complete (service : Service τ) (job : Nat × τ) : Service τ :=
  { service with completed := service.completed ++ [job] }

inductive Step (servers : Nat) (service : Service τ) : Service τ → Prop
  | accept (task : τ) : Step servers service (service.accept task)
  | start {job : Nat × τ}
      (front : service.started ++ [job] <+: service.accepted)
      (idle : service.started.length < service.completed.length + servers) :
      Step servers service (service.start job)
  | complete {job : Nat × τ} (begun : job ∈ service.started)
      (unfinished : job ∉ service.completed) :
      Step servers service (service.complete job)

structure Sound (servers : Nat) (service : Service τ) : Prop where
  numbered : service.accepted.map Prod.fst = List.range service.accepted.length
  inOrder : service.started <+: service.accepted
  nodup : service.completed.Nodup
  begun : service.completed ⊆ service.started
  few : service.started.length ≤ service.completed.length + servers

theorem sound_initial (servers : Nat) : Sound servers ({} : Service τ) := by
  constructor <;> simp

variable {servers : Nat} {service after : Service τ}

theorem Step.sound (step : Step servers service after)
    (sound : Sound servers service) : Sound servers after := by
  cases step with
  | accept task =>
      refine ⟨?_, sound.inOrder.trans (List.prefix_append _ _), sound.nodup,
        sound.begun, sound.few⟩
      simp [Service.accept, sound.numbered, List.range_succ]
  | start front idle =>
      refine ⟨sound.numbered, front, sound.nodup, ?_, ?_⟩
      · exact List.Subset.trans sound.begun (List.subset_append_left _ _)
      · simpa [Service.start, Nat.succ_le_iff] using idle
  | @complete job begun unfinished =>
      refine ⟨sound.numbered, sound.inOrder, ?_, ?_, ?_⟩
      · rw [Service.complete, ← List.concat_eq_append]
        exact sound.nodup.concat unfinished
      · refine List.append_subset.mpr ⟨sound.begun, ?_⟩
        exact List.cons_subset.mpr ⟨begun, List.nil_subset _⟩
      · have few := sound.few
        simp only [Service.complete, List.length_append, List.length_singleton]
        omega

theorem sound_of_steps
    (steps : Relation.ReflTransGen (Step servers) {} service) :
    Sound servers service := by
  induction steps with
  | refl => exact sound_initial servers
  | tail _ step induction => exact step.sound induction

/-! What the numbers say. -/

theorem Sound.accepted_nodup (sound : Sound servers service) :
    service.accepted.Nodup := by
  apply List.Nodup.of_map Prod.fst
  rw [sound.numbered]
  exact List.nodup_range

theorem Sound.number (sound : Sound servers service) {index : Nat}
    {job : Nat × τ} (found : service.accepted[index]? = some job) :
    job.1 = index := by
  have inBounds := (List.getElem?_eq_some_iff.mp found).1
  have mapped : (service.accepted.map Prod.fst)[index]? = some job.1 := by
    rw [List.getElem?_map, found]
    rfl
  rw [sound.numbered, List.getElem?_range inBounds] at mapped
  exact (Option.some.inj mapped).symm

theorem Sound.job_ext (sound : Sound servers service) {job other : Nat × τ}
    (accepted : job ∈ service.accepted) (accepted' : other ∈ service.accepted)
    (same : job.1 = other.1) : job = other := by
  obtain ⟨index, inBounds, rfl⟩ := List.getElem_of_mem accepted
  obtain ⟨index', inBounds', rfl⟩ := List.getElem_of_mem accepted'
  rw [sound.number (List.getElem?_eq_getElem inBounds),
    sound.number (List.getElem?_eq_getElem inBounds')] at same
  subst same
  rfl

/-- The jobs accepted before a started one have been started. -/
theorem Sound.started_before (sound : Sound servers service)
    {job other : Nat × τ} (begun : job ∈ service.started)
    (accepted : other ∈ service.accepted) (earlier : other.1 < job.1) :
    other ∈ service.started := by
  obtain ⟨index, inBounds, rfl⟩ := List.getElem_of_mem begun
  obtain ⟨position, inQueue, rfl⟩ := List.getElem_of_mem accepted
  have started : service.accepted[index]? = some service.started[index] := by
    rw [List.prefix_iff_getElem?.mp sound.inOrder index inBounds]
  rw [sound.number started, sound.number (List.getElem?_eq_getElem inQueue)]
    at earlier
  have front := List.prefix_iff_getElem?.mp sound.inOrder position
    (Nat.lt_trans earlier inBounds)
  rw [List.getElem?_eq_getElem inQueue, Option.some.injEq] at front
  rw [front]
  exact List.getElem_mem _

/-! Overtaking. -/

/-- The jobs accepted before the `number`-th that have not been completed. -/
def unfinishedBefore (service : Service τ) (number : Nat) : List (Nat × τ) :=
  service.accepted.filter fun job =>
    job.1 < number ∧ job.1 ∉ service.completed.map Prod.fst

/-- While a job is being served, fewer than `servers` of those accepted before
it have not been completed. -/
theorem Sound.overtaken_lt (sound : Sound servers service) {job : Nat × τ}
    (begun : job ∈ service.started) (unfinished : job ∉ service.completed) :
    (service.unfinishedBefore job.1).length < servers := by
  have member : ∀ other ∈ service.unfinishedBefore job.1,
      other ∈ service.accepted ∧ other.1 < job.1 ∧
      other ∉ service.completed := by
    intro other late
    simp only [unfinishedBefore, List.mem_filter, decide_eq_true_eq] at late
    obtain ⟨accepted, earlier, notCompleted⟩ := late
    exact ⟨accepted, earlier, fun completed =>
      notCompleted (List.mem_map.mpr ⟨other, completed, rfl⟩)⟩
  have distinct :
      (job :: (service.unfinishedBefore job.1 ++ service.completed)).Nodup := by
    refine List.nodup_cons.mpr ⟨?_, ?_⟩
    · intro repeated
      rcases List.mem_append.mp repeated with late | completed
      · exact Nat.lt_irrefl _ (member job late).2.1
      · exact unfinished completed
    · refine List.nodup_append.mpr ⟨sound.accepted_nodup.filter _,
        sound.nodup, ?_⟩
      intro other late completed completedMember equal
      exact (member other late).2.2 (equal ▸ completedMember)
  have included : job :: (service.unfinishedBefore job.1 ++ service.completed) ⊆
      service.started := by
    refine List.cons_subset.mpr ⟨begun,
      List.append_subset.mpr ⟨?_, sound.begun⟩⟩
    intro other late
    exact sound.started_before begun (member other late).1
      (member other late).2.1
  have bound := (distinct.subperm included).length_le
  have few := sound.few
  simp only [List.length_cons, List.length_append] at bound
  omega

/-! A single server. -/

/-- Each job is completed before the next one is started. -/
def Sequential (service : Service τ) : Prop :=
  ∃ current, service.started = service.completed ++ current ∧ current.length ≤ 1

theorem sequential_initial : Sequential ({} : Service τ) :=
  ⟨[], rfl, Nat.zero_le _⟩

theorem Step.sequential (step : Step 1 service after)
    (sequential : service.Sequential) : after.Sequential := by
  obtain ⟨current, split, short⟩ := sequential
  cases step with
  | accept task => exact ⟨current, split, short⟩
  | @start job front idle =>
      have empty : current = [] := by
        rw [split, List.length_append] at idle
        exact List.length_eq_zero_iff.mp (by omega)
      subst empty
      exact ⟨[job], by simp [Service.start, split], Nat.le_refl 1⟩
  | @complete job begun unfinished =>
      rw [split] at begun
      have held := (List.mem_append.mp begun).resolve_left unfinished
      have single : current = [job] := by
        obtain ⟨only, rfl⟩ := List.length_eq_one_iff.mp
          (Nat.le_antisymm short (List.length_pos_of_mem held))
        rw [List.mem_singleton.mp held]
      exact ⟨[], by simp [Service.complete, split, single], Nat.zero_le _⟩

theorem sequential_of_steps
    (steps : Relation.ReflTransGen (Step 1) {} service) :
    service.Sequential := by
  induction steps with
  | refl => exact sequential_initial
  | tail _ step induction => exact step.sequential induction

end Service

end Farsounder.Data
