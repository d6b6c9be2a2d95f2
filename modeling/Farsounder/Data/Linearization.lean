import Mathlib.Data.List.Nodup
import Mathlib.Logic.Relation

namespace Farsounder.Data

/-! Clients of an object that applies their operations one at a time.  Between
its invocation and its answer an operation is applied at some moment; a client
may also give up, and its operation may then still be applied, once, or not at
all. -/

inductive Stage (ρ : Type) where
  | waiting
  | answered (result : ρ)
  | gaveUp
  deriving DecidableEq, Repr

structure Client (ω ρ : Type) where
  operation : ω
  stage : Stage ρ := .waiting
  /-- The clients that had been answered when this one invoked its operation. -/
  earlier : List Nat

structure Shared (σ ω ρ : Type) where
  object : σ
  clients : List (Client ω ρ) := []
  /-- The operations in the order in which they were applied, with their
  results. -/
  log : List (Nat × ρ) := []

variable {σ ω ρ : Type}

/-- The operations of the log lead from one state of the object to another, one
after the other, each with its result. -/
inductive Replayed (apply : σ → ω → σ × ρ) (operations : List ω) (initial : σ) :
    List (Nat × ρ) → σ → Prop
  | nil : Replayed apply operations initial [] initial
  | concat {log : List (Nat × ρ)} {object : σ} {id : Nat} {operation : ω}
      (replayed : Replayed apply operations initial log object)
      (invoked : operations[id]? = some operation) :
      Replayed apply operations initial (log ++
        [(id, (apply object operation).2)]) (apply object operation).1

section Replayed

variable {apply : σ → ω → σ × ρ} {operations : List ω} {initial object : σ}
  {log : List (Nat × ρ)}

theorem Replayed.invoke
    (replayed : Replayed apply operations initial log object) (operation : ω) :
    Replayed apply (operations ++ [operation]) initial log object := by
  induction replayed with
  | nil => exact .nil
  | concat _ invoked induction =>
      refine .concat induction ?_
      rw [List.getElem?_append_left (List.getElem?_eq_some_iff.mp invoked).1,
        invoked]

theorem Replayed.invoked
    (replayed : Replayed apply operations initial log object) {id : Nat}
    (applied : id ∈ log.map Prod.fst) : id < operations.length := by
  induction replayed with
  | nil => contradiction
  | concat _ invoked induction =>
      rw [List.map_append, List.mem_append] at applied
      cases applied with
      | inl earlier => exact induction earlier
      | inr last =>
          obtain rfl := List.mem_singleton.mp last
          exact (List.getElem?_eq_some_iff.mp invoked).1

theorem Replayed.result
    (replayed : Replayed apply operations initial log object) {id : Nat}
    {result : ρ} (applied : (id, result) ∈ log) :
    ∃ state operation, operations[id]? = some operation ∧
      (apply state operation).2 = result := by
  induction replayed with
  | nil => contradiction
  | concat _ invoked induction =>
      cases List.mem_append.mp applied with
      | inl earlier => exact induction earlier
      | inr last =>
          obtain ⟨rfl, rfl⟩ := Prod.mk.inj (List.mem_singleton.mp last)
          exact ⟨_, _, invoked, rfl⟩

/-- The same operations, seen as having other results. -/
theorem Replayed.map {τ : Type} {apply' : σ → ω → σ × τ}
    {Reads : ω → ρ → τ → Prop}
    (reads : ∀ {id : Nat} {operation}, operations[id]? = some operation →
      ∀ state,
      (apply' state operation).1 = (apply state operation).1 ∧
        Reads operation (apply state operation).2 (apply' state operation).2)
    (replayed : Replayed apply operations initial log object) :
    ∃ log', Replayed apply' operations initial log' object ∧
      List.Forall₂ (fun entry entry' => entry.1 = entry'.1 ∧
        ∃ operation, operations[entry.1]? = some operation ∧
          Reads operation entry.2 entry'.2) log log' := by
  induction replayed with
  | nil => exact ⟨[], .nil, .nil⟩
  | @concat log object id operation _ invoked induction =>
      obtain ⟨log', replayed', related⟩ := induction
      obtain ⟨same, read⟩ := reads invoked object
      refine ⟨log' ++ [(id, (apply' object operation).2)], ?_, ?_⟩
      · rw [← same]
        exact .concat replayed' invoked
      · exact List.rel_append related (.cons ⟨rfl, operation, invoked,
          read⟩ .nil)

end Replayed

section Related

variable {α β : Type} {Related : α → β → Prop} {list : List α} {list' : List β}

theorem forall₂_getElem?_left (related : List.Forall₂ Related list list')
    {index : Nat} {first : α} (found : list[index]? = some first) :
    ∃ second, list'[index]? = some second ∧ Related first second := by
  induction related generalizing index with
  | nil => simp at found
  | cons head _ induction =>
      cases index with
      | zero =>
          obtain rfl := Option.some.inj found
          exact ⟨_, rfl, head⟩
      | succ index => exact induction found

theorem forall₂_getElem? (related : List.Forall₂ Related list list')
    {index : Nat} {second : β} (found : list'[index]? = some second) :
    ∃ first, list[index]? = some first ∧ Related first second :=
  forall₂_getElem?_left related.flip found

end Related

namespace Shared

def answered (shared : Shared σ ω ρ) : List Nat :=
  (List.range shared.clients.length).filter fun id =>
    match shared.clients[id]? with
    | some { stage := .answered _, .. } => true
    | _ => false

def setStage (shared : Shared σ ω ρ) (id : Nat) (stage : Stage ρ) :
    Shared σ ω ρ :=
  { shared with clients := shared.clients.modify id fun client =>
    { client with stage } }

inductive Step (apply : σ → ω → σ × ρ) (shared : Shared σ ω ρ) :
    Shared σ ω ρ → Prop
  | invoke (operation : ω) :
      Step apply shared
        { shared with
          clients :=
  shared.clients ++ [{ operation, earlier := shared.answered }] }
  | effect {id : Nat} {client : Client ω ρ}
      (found : shared.clients[id]? = some client)
      (unapplied : id ∉ shared.log.map Prod.fst) :
      Step apply shared
        { shared with
          object := (apply shared.object client.operation).1
          log := shared.log ++
            [(id, (apply shared.object client.operation).2)] }
  | answer {id : Nat} {client : Client ω ρ} {result : ρ}
      (found : shared.clients[id]? = some client)
      (waiting : client.stage = .waiting)
      (applied : (id, result) ∈ shared.log) :
      Step apply shared (shared.setStage id (.answered result))
  | giveUp {id : Nat} {client : Client ω ρ}
      (found : shared.clients[id]? = some client)
      (waiting : client.stage = .waiting) :
      Step apply shared (shared.setStage id .gaveUp)

def operations (shared : Shared σ ω ρ) : List ω :=
  shared.clients.map Client.operation

theorem mem_answered {shared : Shared σ ω ρ} {id : Nat} :
    id ∈ shared.answered ↔ ∃ client result, shared.clients[id]? = some client ∧
      client.stage = .answered result := by
  simp only [answered, List.mem_filter, List.mem_range]
  constructor
  · rintro ⟨_, stage⟩
    split at stage
    · rename_i result _ found
      exact ⟨_, result, found, rfl⟩
    · contradiction
  · rintro ⟨client, result, found, stage⟩
    refine ⟨(List.getElem?_eq_some_iff.mp found).1, ?_⟩
    cases client with
    | mk operation stage' earlier =>
        obtain rfl := stage
        rw [found]

theorem operations_setStage (shared : Shared σ ω ρ) (id : Nat)
    (stage : Stage ρ) :
    (shared.setStage id stage).operations = shared.operations := by
  apply List.ext_getElem?
  intro index
  simp only [operations, setStage, List.getElem?_map, List.getElem?_modify]
  cases shared.clients[index]? with
  | none => rfl
  | some client => by_cases same : id = index <;> simp [same]

theorem getElem?_setStage {shared : Shared σ ω ρ} {id index : Nat}
    {stage : Stage ρ} {client : Client ω ρ}
    (found : (shared.setStage id stage).clients[index]? = some client) :
    ∃ before, shared.clients[index]? = some before ∧
      client.earlier = before.earlier ∧
      client.stage = if id = index then stage else before.stage := by
  simp only [setStage, List.getElem?_modify, Option.map_eq_map,
    Option.map_eq_some_iff] at found
  obtain ⟨before, found, rfl⟩ := found
  refine ⟨before, found, ?_⟩
  by_cases same : id = index <;> simp [same]

theorem setStage_self {shared : Shared σ ω ρ} {id : Nat} {client : Client ω ρ}
    (found : shared.clients[id]? = some client) :
    shared.setStage id client.stage = shared := by
  have same :
      shared.clients.modify id
      (fun other => { other with stage := client.stage }) =
      shared.clients := by
    apply List.ext_getElem?
    intro index
    rw [List.getElem?_modify]
    by_cases equal : id = index
    · subst equal
      simp [found]
    · simp [equal]
  rw [setStage, same]

/-- The log is a sequential execution that explains what the clients have been
answered: each operation is applied at most once, each answer is the result of
the client's own operation, and an operation that had been answered when another
one was invoked comes before it. -/
structure Linearizable (apply : σ → ω → σ × ρ) (initial : σ)
    (shared : Shared σ ω ρ) :
    Prop where
  once : (shared.log.map Prod.fst).Nodup
  replayed : Replayed apply shared.operations initial shared.log shared.object
  answers : ∀ {id : Nat} {client result}, shared.clients[id]? = some client →
    client.stage = .answered result → (id, result) ∈ shared.log
  earlier : ∀ {id : Nat} {client}, shared.clients[id]? = some client →
    ∀ before ∈ client.earlier, before ∈ shared.log.map Prod.fst
  realTime : ∀ {id : Nat} {client}, shared.clients[id]? = some client →
    ∀ {front result back}, shared.log = front ++ (id, result) :: back →
      ∀ before ∈ client.earlier, before ∈ front.map Prod.fst

variable {apply : σ → ω → σ × ρ} {initial : σ} {shared after : Shared σ ω ρ}

theorem linearizable_initial (initial : σ) :
    Linearizable apply initial ({ object := initial } : Shared σ ω ρ) where
  once := List.nodup_nil
  replayed := .nil
  answers found := by simp at found
  earlier found := by simp at found
  realTime found := by simp at found

theorem Linearizable.setStage (linearizable : Linearizable apply initial shared)
    {id : Nat} {stage : Stage ρ}
    (applied : ∀ result, stage = .answered result → (id, result) ∈ shared.log) :
    Linearizable apply initial (shared.setStage id stage) where
  once := linearizable.once
  replayed := by
    rw [operations_setStage]
    exact linearizable.replayed
  answers := by
    intro index client result found answered
    obtain ⟨before, found, _, stages⟩ := getElem?_setStage found
    rw [stages] at answered
    by_cases same : id = index
    · rw [if_pos same] at answered
      exact same ▸ applied result answered
    · rw [if_neg same] at answered
      exact linearizable.answers found answered
  earlier := by
    intro index client found
    obtain ⟨before, found, earlier, _⟩ := getElem?_setStage found
    rw [earlier]
    exact linearizable.earlier found
  realTime := by
    intro index client found
    obtain ⟨before, found, earlier, _⟩ := getElem?_setStage found
    rw [earlier]
    exact linearizable.realTime found

theorem Linearizable.invoke (linearizable : Linearizable apply initial shared)
    (operation : ω) :
    Linearizable apply initial
      { shared with
        clients :=
  shared.clients ++ [{ operation, earlier := shared.answered }] } := by
  let fresh : Client ω ρ := { operation, earlier := shared.answered }
  have old {id : Nat} {client : Client ω ρ}
      (found : (shared.clients ++ [fresh])[id]? = some client) :
      shared.clients[id]? = some client ∨ id = shared.clients.length ∧
        fresh = client := by
    rw [List.getElem?_append] at found
    split at found
    · exact .inl found
    · rw [List.getElem?_singleton] at found
      split at found
      · exact .inr ⟨by omega, Option.some.inj found⟩
      · contradiction
  have logged : ∀ before ∈ shared.answered,
      before ∈ shared.log.map Prod.fst := by
    intro before answered
    obtain ⟨client, result, found, stage⟩ := mem_answered.mp answered
    exact List.mem_map_of_mem (f := Prod.fst) (linearizable.answers found stage)
  refine ⟨linearizable.once, ?_, ?_, ?_, ?_⟩
  · have replayed := linearizable.replayed.invoke operation
    simpa [operations] using replayed
  · intro id client result found stage
    cases old found with
    | inl found => exact linearizable.answers found stage
    | inr last =>
        obtain ⟨_, rfl⟩ := last
        contradiction
  · intro id client found
    cases old found with
    | inl found => exact linearizable.earlier found
    | inr last =>
        obtain ⟨_, rfl⟩ := last
        exact logged
  · intro id client found front result back split
    cases old found with
    | inl found => exact linearizable.realTime found split
    | inr last =>
        -- The new client's operation has not been applied.
        obtain ⟨rfl, _⟩ := last
        have applied : shared.clients.length ∈ shared.log.map Prod.fst := by
          rw [show shared.log = _ from split]
          simp
        have invoked := linearizable.replayed.invoked applied
        simp [operations] at invoked

theorem Linearizable.effect (linearizable : Linearizable apply initial shared)
    {id : Nat} {client : Client ω ρ} (found : shared.clients[id]? = some client)
    (unapplied : id ∉ shared.log.map Prod.fst) :
    Linearizable apply initial
      { shared with
        object := (apply shared.object client.operation).1
        log := shared.log ++
          [(id, (apply shared.object client.operation).2)] } where
  once := by
    rw [List.map_append, List.map_singleton, ← List.concat_eq_append]
    exact linearizable.once.concat unapplied
  replayed := by
    refine .concat linearizable.replayed ?_
    rw [operations, List.getElem?_map, found]
    rfl
  answers found stage :=
    List.mem_append_left _ (linearizable.answers found stage)
  earlier found before listed := by
    rw [List.map_append]
    exact List.mem_append_left _ (linearizable.earlier found before listed)
  realTime := by
    intro index other found front result back split before listed
    rcases List.eq_nil_or_concat back with rfl | ⟨rest, last, rfl⟩
    · obtain ⟨rfl, _⟩ := List.append_inj' split rfl
      exact linearizable.earlier found before listed
    · have whole : shared.log = front ++ (index, result) :: rest := by
        rw [List.concat_eq_append, ← List.cons_append, ← List.append_assoc]
          at split
        exact (List.append_inj' split rfl).1
      exact linearizable.realTime found whole before listed

theorem Step.linearizable (step : Step apply shared after)
    (linearizable : Linearizable apply initial shared) :
    Linearizable apply initial after := by
  cases step with
  | invoke operation => exact linearizable.invoke operation
  | effect found unapplied => exact linearizable.effect found unapplied
  | answer found waiting applied =>
      apply linearizable.setStage
      rintro _ ⟨⟩
      exact applied
  | giveUp found waiting =>
      apply linearizable.setStage
      exact fun _ => nofun

theorem linearizable_of_steps
    (steps : Relation.ReflTransGen (Step apply) { object := initial } shared) :
    Linearizable apply initial shared := by
  induction steps with
  | refl => exact linearizable_initial initial
  | tail _ step induction => exact step.linearizable induction

/-! Answers that are read before the clients see them. -/

/-- The same client, who sees the answer as it is read. -/
structure SameClient {τ : Type} (Reads : ω → ρ → τ → Prop) (client : Client ω ρ)
    (client' : Client ω τ) : Prop where
  operation : client'.operation = client.operation
  earlier : client'.earlier = client.earlier
  stage : ∀ {result'}, client'.stage = .answered result' →
    ∃ result, client.stage = .answered result ∧
      ∀ {other}, Reads client.operation result other → other = result'

theorem Linearizable.read {τ : Type} {apply' : σ → ω → σ × τ}
    {Reads : ω → ρ → τ → Prop}
    (linearizable : Linearizable apply initial shared)
    (reads : ∀ {id : Nat} {operation}, shared.operations[id]? = some operation →
      ∀ state,
      (apply' state operation).1 = (apply state operation).1 ∧
        Reads operation (apply state operation).2 (apply' state operation).2)
    {clients' : List (Client ω τ)}
    (same : List.Forall₂ (SameClient Reads) shared.clients clients') :
    ∃ log', Linearizable apply' initial ⟨shared.object, clients', log'⟩ ∧
      log'.map Prod.fst = shared.log.map Prod.fst := by
  obtain ⟨log', replayed, related⟩ := linearizable.replayed.map reads
  have ids : log'.map Prod.fst = shared.log.map Prod.fst := by
    rw [← List.forall₂_eq_eq_eq, List.forall₂_map_left_iff,
      List.forall₂_map_right_iff]
    exact related.flip.imp fun _ _ entries => entries.1.symm
  have operations : clients'.map Client.operation = shared.operations := by
    rw [Shared.operations, ← List.forall₂_eq_eq_eq, List.forall₂_map_left_iff,
      List.forall₂_map_right_iff]
    exact same.flip.imp fun _ _ clients => clients.operation
  refine ⟨log', ⟨?_, ?_, ?_, ?_, ?_⟩, ids⟩
  · rw [ids]
    exact linearizable.once
  · rw [Shared.operations, operations]
    exact replayed
  · intro id client' result' found' stage'
    obtain ⟨client, found, sameClient⟩ := forall₂_getElem? same found'
    obtain ⟨result, stage, readAs⟩ := sameClient.stage stage'
    obtain ⟨index, logged⟩ := List.mem_iff_getElem?.mp
        (linearizable.answers found stage)
    obtain ⟨entry', logged', sameId, operation, invoked, read⟩ :=
      forall₂_getElem?_left related logged
    have own : client.operation = operation := by
      rw [Shared.operations, List.getElem?_map, found] at invoked
      exact Option.some.inj invoked
    rw [← own] at read
    obtain rfl := readAs read
    obtain rfl := sameId
    exact List.mem_of_getElem? logged'
  · intro id client' found' before listed
    obtain ⟨client, found, sameClient⟩ := forall₂_getElem? same found'
    rw [ids]
    exact linearizable.earlier found before (sameClient.earlier ▸ listed)
  · intro id client' found' front' result' back' split' before listed
    obtain ⟨client, found, sameClient⟩ := forall₂_getElem? same found'
    have splitIds : shared.log.map Prod.fst =
        front'.map Prod.fst ++ id :: back'.map Prod.fst := by
      rw [← ids, show log' = _ from split', List.map_append, List.map_cons]
    obtain ⟨front, rest, split, fronts, rests⟩ :=
      List.map_eq_append_iff.mp splitIds
    obtain ⟨⟨_, result⟩, back, rfl, rfl, _⟩ := List.map_eq_cons_iff.mp rests
    rw [← fronts]
    exact linearizable.realTime found split before (sameClient.earlier ▸ listed)

end Shared

end Farsounder.Data
