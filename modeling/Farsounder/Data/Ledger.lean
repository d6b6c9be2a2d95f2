import Mathlib.Data.Finset.Card
import Mathlib.Data.List.Nodup
import Mathlib.Data.List.Perm.Basic
import Mathlib.Logic.Relation

namespace Farsounder.Data

/-! Delivery ledgers.  Items are numbered in the order they are accepted; each
has a plan, the list of deliveries it has to cause.  A pending item still owes
a suffix of its plan, and the log holds the deliveries made so far.  Nothing
is said about who makes them: pending items form a bag.  The plan of a pending
item may still change in what has not been delivered. -/

structure Ledger (δ : Type) where
  plans : List (List δ)
  pending : List (Nat × List δ)
  log : List (Nat × δ)

namespace Ledger

variable {δ : Type}

def empty : Ledger δ := ⟨[], [], []⟩

/-- The deliveries a log holds for one item, in the order they were made. -/
def deliveriesOf (log : List (Nat × δ)) (item : Nat) : List δ :=
  (log.filter fun entry => entry.1 = item).map Prod.snd

def pendingItems (ledger : Ledger δ) : List Nat :=
  ledger.pending.map Prod.fst

/-- One step of a ledger.  A delivery for `item` is made only while at most
`bound` items accepted before it are pending. -/
inductive Step (bound : Nat) : Ledger δ → Ledger δ → Prop
  | rearrange {plans pending pending' log} (same : pending'.Perm pending) :
      Step bound ⟨plans, pending, log⟩ ⟨plans, pending', log⟩
  | discard {plans pending pending' log} (same : pending'.Perm pending) :
      Step bound ⟨plans, pending, log⟩ ⟨plans ++ [[]], pending', log⟩
  | accept {plans pending pending' log} (plan : List δ)
      (same : pending'.Perm ((plans.length, plan) :: pending)) :
      Step bound ⟨plans, pending, log⟩ ⟨plans ++ [plan], pending', log⟩
  | deliver {plans pending pending' log} {item : Nat} {delivery : δ}
      {owed : List δ} {others : List (Nat × List δ)}
      (before : pending.Perm ((item, delivery :: owed) :: others))
      (after : pending'.Perm ((item, owed) :: others))
      (overtaken : (others.filter fun entry => entry.1 < item).length ≤ bound) :
      Step bound ⟨plans, pending, log⟩
        ⟨plans, pending', log ++ [(item, delivery)]⟩
  | settle {plans pending pending' log} {item : Nat}
      (before : pending.Perm ((item, []) :: pending')) :
      Step bound ⟨plans, pending, log⟩ ⟨plans, pending', log⟩
  | replan {plans plans' pending pending' log}
      (same : pending'.map Prod.fst = pending.map Prod.fst)
      (length : plans'.length = plans.length)
      (owed : ∀ item owed, (item, owed) ∈ pending' →
        plans'[item]? = some (deliveriesOf log item ++ owed))
      (kept : ∀ item, item ∉ pending.map Prod.fst →
        plans'[item]? = plans[item]?) :
      Step bound ⟨plans, pending, log⟩ ⟨plans', pending', log⟩

/-- Every item owes exactly what its plan has beyond the deliveries made. -/
structure Balanced (ledger : Ledger δ) : Prop where
  nodup : ledger.pendingItems.Nodup
  owed : ∀ item owed, (item, owed) ∈ ledger.pending →
    ledger.plans[item]? = some (deliveriesOf ledger.log item ++ owed)
  settled : ∀ item plan, ledger.plans[item]? = some plan →
    item ∉ ledger.pendingItems → deliveriesOf ledger.log item = plan
  logged : ∀ item delivery, (item, delivery) ∈ ledger.log →
    item < ledger.plans.length

theorem balanced_empty : Balanced (empty : Ledger δ) := by
  constructor <;> simp [empty, pendingItems]

@[simp] theorem deliveriesOf_append (log : List (Nat × δ)) (item other : Nat)
    (delivery : δ) :
    deliveriesOf (log ++ [(item, delivery)]) other =
      deliveriesOf log other ++ if item = other then [delivery] else [] := by
  unfold deliveriesOf
  by_cases equal : item = other <;> simp [List.filter_append, equal]

theorem deliveriesOf_eq_nil {log : List (Nat × δ)} {item : Nat}
    (absent : ∀ delivery, (item, delivery) ∉ log) :
    deliveriesOf log item = [] := by
  unfold deliveriesOf
  rw [List.map_eq_nil_iff, List.filter_eq_nil_iff]
  rintro ⟨logged, delivery⟩ member equal
  obtain rfl : logged = item := by simpa using equal
  exact absent delivery member

theorem Balanced.perm {plans : List (List δ)} {log : List (Nat × δ)}
    {pending pending' : List (Nat × List δ)}
    (balanced : Balanced ⟨plans, pending, log⟩)
    (same : pending'.Perm pending) : Balanced ⟨plans, pending', log⟩ where
  nodup := (same.map Prod.fst).nodup_iff.mpr balanced.nodup
  owed item owed member := balanced.owed item owed (same.mem_iff.mp member)
  settled item plan planned absent :=
    balanced.settled item plan planned fun member =>
      absent ((same.map Prod.fst).mem_iff.mpr member)
  logged := balanced.logged

theorem Balanced.owed_lt {ledger : Ledger δ} (balanced : Balanced ledger)
    {item : Nat} (member : item ∈ ledger.pendingItems) :
    item < ledger.plans.length := by
  obtain ⟨⟨_, owed⟩, pendingMember, rfl⟩ := List.mem_map.mp member
  exact (List.getElem?_eq_some_iff.mp
    (balanced.owed _ owed pendingMember)).1

theorem Balanced.appendPlan {plans : List (List δ)} {log : List (Nat × δ)}
    {pending : List (Nat × List δ)} (balanced : Balanced ⟨plans, pending, log⟩)
    (plan : List δ) :
    (∀ item owed, (item, owed) ∈ pending →
      (plans ++ [plan])[item]? = some
        (deliveriesOf log item ++ owed)) ∧
    (∀ item other, item ≠ plans.length → (plans ++ [plan])[item]? = some other →
      item ∉ pending.map Prod.fst →
      deliveriesOf log item = other) := by
  constructor
  · intro item owed member
    have bound : item < plans.length :=
      balanced.owed_lt (List.mem_map.mpr ⟨_, member, rfl⟩)
    rw [List.getElem?_append_left bound]
    exact balanced.owed item owed member
  · intro item other distinct planned absent
    have bound : item < plans.length := by
      have := (List.getElem?_eq_some_iff.mp planned).1
      simp at this
      omega
    rw [List.getElem?_append_left bound] at planned
    exact balanced.settled item other planned absent

theorem Balanced.fresh {plans : List (List δ)} {log : List (Nat × δ)}
    {pending : List (Nat × List δ)}
    (balanced : Balanced ⟨plans, pending, log⟩) :
    deliveriesOf log plans.length = [] := by
  apply deliveriesOf_eq_nil
  intro delivery member
  exact Nat.lt_irrefl _ (balanced.logged _ _ member)

theorem Balanced.discard {plans : List (List δ)} {log : List (Nat × δ)}
    {pending : List (Nat × List δ)}
    (balanced : Balanced ⟨plans, pending, log⟩) :
    Balanced ⟨plans ++ [[]], pending, log⟩ where
  nodup := balanced.nodup
  owed := (balanced.appendPlan []).1
  settled item plan planned absent := by
    by_cases last : item = plans.length
    · subst last
      obtain rfl : [] = plan := by simpa using planned
      exact balanced.fresh
    · exact (balanced.appendPlan []).2 item plan last planned absent
  logged item delivery member := by
    have := balanced.logged item delivery member
    simp only [List.length_append, List.length_singleton] at this ⊢
    omega

theorem Balanced.accept {plans : List (List δ)} {log : List (Nat × δ)}
    {pending : List (Nat × List δ)}
    (balanced : Balanced ⟨plans, pending, log⟩) (plan : List δ) :
    Balanced ⟨plans ++ [plan], (plans.length, plan) :: pending, log⟩ where
  nodup := by
    refine List.nodup_cons.mpr ⟨?_, balanced.nodup⟩
    intro member
    exact Nat.lt_irrefl _ (balanced.owed_lt member)
  owed item owed member := by
    rcases List.mem_cons.mp member with new | old
    · obtain ⟨rfl, rfl⟩ := Prod.mk.inj new
      simp [balanced.fresh]
    · exact (balanced.appendPlan plan).1 item owed old
  settled item other planned absent := by
    simp only [pendingItems, List.map_cons, List.mem_cons, not_or] at absent
    exact (balanced.appendPlan plan).2 item other absent.1 planned absent.2
  logged item delivery member := by
    have := balanced.logged item delivery member
    simp only [List.length_append, List.length_singleton] at this ⊢
    omega

theorem Balanced.deliver {plans : List (List δ)} {log : List (Nat × δ)}
    {item : Nat} {delivery : δ} {owed : List δ} {others : List (Nat × List δ)}
    (balanced : Balanced ⟨plans, (item, delivery :: owed) :: others, log⟩) :
    Balanced ⟨plans, (item, owed) :: others, log ++ [(item, delivery)]⟩ where
  nodup := balanced.nodup
  owed other rest member := by
    rw [deliveriesOf_append]
    rcases List.mem_cons.mp member with same | old
    · obtain ⟨rfl, rfl⟩ := Prod.mk.inj same
      have planned := balanced.owed other (delivery :: rest) (by simp)
      simpa using planned
    · have distinct : item ≠ other := by
        rintro rfl
        exact (List.nodup_cons.mp balanced.nodup).1
          (List.mem_map.mpr ⟨_, old, rfl⟩)
      have planned := balanced.owed other rest (List.mem_cons_of_mem _ old)
      simpa [distinct] using planned
  settled other plan planned absent := by
    have distinct : item ≠ other := by
      rintro rfl
      exact absent (by simp [pendingItems])
    rw [deliveriesOf_append, if_neg distinct, List.append_nil]
    exact balanced.settled other plan planned absent
  logged other value member := by
    rcases List.mem_append.mp member with old | new
    · exact balanced.logged other value old
    · obtain ⟨rfl, rfl⟩ := Prod.mk.inj (List.mem_singleton.mp new)
      exact balanced.owed_lt (by simp [pendingItems])

theorem Balanced.settle {plans : List (List δ)} {log : List (Nat × δ)}
    {item : Nat} {pending : List (Nat × List δ)}
    (balanced : Balanced ⟨plans, (item, []) :: pending, log⟩) :
    Balanced ⟨plans, pending, log⟩ where
  nodup := (List.nodup_cons.mp balanced.nodup).2
  owed other rest member :=
    balanced.owed other rest (List.mem_cons_of_mem _ member)
  settled other plan planned absent := by
    by_cases same : item = other
    · subst same
      have owed := balanced.owed item [] (by simp)
      rw [planned] at owed
      simpa using (Option.some.inj owed).symm
    · exact balanced.settled other plan planned (by
        simp only [pendingItems, List.map_cons, List.mem_cons, not_or]
        exact ⟨fun equal => same equal.symm, absent⟩)
  logged := balanced.logged

theorem Balanced.replan {plans plans' : List (List δ)} {log : List (Nat × δ)}
    {pending pending' : List (Nat × List δ)}
    (balanced : Balanced ⟨plans, pending, log⟩)
    (same : pending'.map Prod.fst = pending.map Prod.fst)
    (length : plans'.length = plans.length)
    (owed : ∀ item owed, (item, owed) ∈ pending' →
      plans'[item]? = some (deliveriesOf log item ++ owed))
    (kept : ∀ item, item ∉ pending.map Prod.fst →
      plans'[item]? = plans[item]?) :
    Balanced ⟨plans', pending', log⟩ where
  nodup := by
    rw [pendingItems, same]
    exact balanced.nodup
  owed := owed
  settled item plan planned absent := by
    rw [pendingItems, same] at absent
    rw [kept item absent] at planned
    exact balanced.settled item plan planned absent
  logged item delivery member := by
    rw [length]
    exact balanced.logged item delivery member

theorem Step.balanced {bound : Nat} {before after : Ledger δ}
    (step : Step bound before after) (balanced : Balanced before) :
    Balanced after := by
  cases step with
  | rearrange same => exact balanced.perm same
  | discard same => exact (balanced.perm same).discard
  | accept plan same => exact (balanced.accept plan).perm same
  | deliver before after _ =>
      exact (balanced.perm before.symm).deliver.perm after
  | settle before => exact (balanced.perm before.symm).settle
  | replan same length owed kept => exact balanced.replan same length owed kept

/-- The ledger in which the pending items owe something else. -/
def replanned (ledger : Ledger δ) (pending : List (Nat × List δ)) :
    Ledger δ where
  plans := ledger.plans.mapIdx fun item plan =>
    (pending.lookup item).elim plan (deliveriesOf ledger.log item ++ ·)
  pending := pending
  log := ledger.log

theorem lookup_of_mem {pending : List (Nat × List δ)} {item : Nat}
    {owed : List δ} (nodup : (pending.map Prod.fst).Nodup)
    (member : (item, owed) ∈ pending) :
    pending.lookup item = some owed := by
  induction pending with
  | nil => contradiction
  | cons entry rest induction =>
      obtain ⟨fresh, nodup⟩ := List.nodup_cons.mp nodup
      rcases List.mem_cons.mp member with rfl | old
      · simp
      · have distinct : (item == entry.1) = false := by
          refine beq_eq_false_iff_ne.mpr fun same => fresh ?_
          exact same ▸ List.mem_map_of_mem old
        rw [List.lookup_cons, distinct]
        exact induction nodup old

theorem Balanced.step_replanned {bound : Nat} {ledger : Ledger δ}
    (balanced : Balanced ledger) {pending : List (Nat × List δ)}
    (same : pending.map Prod.fst = ledger.pendingItems) :
    Step bound ledger (ledger.replanned pending) := by
  refine .replan same List.length_mapIdx ?_ ?_
  · intro item owed member
    have below : item < ledger.plans.length :=
      balanced.owed_lt (same ▸ List.mem_map_of_mem member)
    have found := lookup_of_mem (same ▸ balanced.nodup) member
    simp [List.getElem?_mapIdx, List.getElem?_eq_getElem below, found]
  · intro item absent
    have missed : pending.lookup item = none := by
      rw [List.lookup_eq_none_iff]
      intro entry member
      rw [bne_iff_ne]
      rintro rfl
      refine absent ?_
      change entry.1 ∈ ledger.pendingItems
      rw [← same]
      exact List.mem_map_of_mem member
    cases plan : ledger.plans[item]?
      <;> simp [List.getElem?_mapIdx, plan, missed]

/-- What has been delivered for an item is the beginning of its plan. -/
theorem Balanced.deliveries_prefix {ledger : Ledger δ}
    (balanced : Balanced ledger) {item : Nat} {plan : List δ}
    (planned : ledger.plans[item]? = some plan) :
    deliveriesOf ledger.log item <+: plan := by
  by_cases pending : item ∈ ledger.pendingItems
  · obtain ⟨⟨_, owed⟩, member, rfl⟩ := List.mem_map.mp pending
    have whole := balanced.owed _ owed member
    obtain rfl := Option.some.inj (planned.symm.trans whole)
    exact List.prefix_append _ _
  · rw [balanced.settled item plan planned pending]

theorem mem_deliveriesOf {log : List (Nat × δ)} {item : Nat} {delivery : δ} :
    delivery ∈ deliveriesOf log item ↔ (item, delivery) ∈ log := by
  simp only [deliveriesOf, List.mem_map, List.mem_filter, decide_eq_true_eq]
  constructor
  · rintro ⟨⟨_, _⟩, ⟨member, rfl⟩, rfl⟩
    exact member
  · intro member
    exact ⟨(item, delivery), ⟨member, rfl⟩, rfl⟩

theorem Balanced.planned {ledger : Ledger δ} (balanced : Balanced ledger)
    {item : Nat} {delivery : δ} (logged : (item, delivery) ∈ ledger.log) :
    ∃ plan, ledger.plans[item]? = some plan ∧ delivery ∈ plan := by
  have inBounds := balanced.logged item delivery logged
  have planned : ledger.plans[item]? = some ledger.plans[item] :=
    List.getElem?_eq_getElem inBounds
  exact ⟨_, planned, (balanced.deliveries_prefix planned).subset
    (mem_deliveriesOf.mpr logged)⟩

/-! Overtaking. -/

/-- The items below `item` that still occur in `later` or are still pending. -/
def lateBefore (item : Nat) (later : List (Nat × δ))
    (pending : List (Nat × List δ)) : Finset Nat :=
  ((later.map Prod.fst ++ pending.map Prod.fst).filter (· < item)).toFinset

/-- After a delivery for `item`, at most `bound` items accepted before it can
still cause deliveries. -/
def BoundedOvertaking (bound : Nat) (ledger : Ledger δ) : Prop :=
  ∀ earlier entry later, ledger.log = earlier ++ entry :: later →
    (lateBefore entry.1 later ledger.pending).card ≤ bound

theorem boundedOvertaking_empty (bound : Nat) :
    BoundedOvertaking bound (empty : Ledger δ) := by
  intro earlier entry later split
  simp [empty] at split

private theorem lateBefore_mono {item : Nat} {later later' : List (Nat × δ)}
    {pending pending' : List (Nat × List δ)}
    (included : ∀ other < item,
      other ∈ later'.map Prod.fst ∨ other ∈ pending'.map Prod.fst →
      other ∈ later.map Prod.fst ∨ other ∈ pending.map Prod.fst) :
    (lateBefore item later' pending').card ≤
      (lateBefore item later pending).card := by
  apply Finset.card_le_card
  intro other member
  simp only [lateBefore, List.mem_toFinset, List.mem_filter, List.mem_append,
    decide_eq_true_eq] at member ⊢
  exact ⟨included other member.2 member.1, member.2⟩

private theorem lateBefore_nil_card {item : Nat} {owed : List δ}
    {others pending : List (Nat × List δ)}
    (same : pending.Perm ((item, owed) :: others)) :
    (lateBefore item ([] : List (Nat × δ)) pending).card ≤
      (others.filter fun entry => entry.1 < item).length := by
  have subset : lateBefore item ([] : List (Nat × δ)) pending ⊆
      ((others.filter fun entry => entry.1 < item).map Prod.fst).toFinset := by
    intro other member
    simp only [lateBefore, List.map_nil, List.nil_append, List.mem_toFinset,
      List.mem_filter, decide_eq_true_eq] at member
    obtain ⟨⟨entry, entryMember, rfl⟩, below⟩ :=
      And.intro (List.mem_map.mp member.1) member.2
    rcases List.mem_cons.mp (same.mem_iff.mp entryMember) with rfl | old
    · exact absurd below (Nat.lt_irrefl _)
    · rw [List.mem_toFinset]
      exact List.mem_map.mpr ⟨entry, by simpa [below] using old, rfl⟩
  calc (lateBefore item ([] : List (Nat × δ)) pending).card
      ≤ ((others.filter fun entry =>
        entry.1 < item).map Prod.fst).toFinset.card :=
        Finset.card_le_card subset
    _ ≤ ((others.filter fun entry => entry.1 < item).map Prod.fst).length :=
        List.toFinset_card_le _
    _ = (others.filter fun entry => entry.1 < item).length := List.length_map _

theorem Step.boundedOvertaking {bound : Nat} {before after : Ledger δ}
    (step : Step bound before after) (balanced : Balanced before)
    (bounded : BoundedOvertaking bound before) :
    BoundedOvertaking bound after := by
  cases step with
  | rearrange same | discard same =>
      intro earlier entry later split
      refine (lateBefore_mono ?_).trans (bounded earlier entry later split)
      intro other _ member
      rwa [(same.map Prod.fst).mem_iff] at member
  | accept plan same =>
      intro earlier entry later split
      refine (lateBefore_mono ?_).trans (bounded earlier entry later split)
      intro other below member
      rw [(same.map Prod.fst).mem_iff] at member
      have logged := balanced.logged entry.1 entry.2 (by
        simp only at split
        simp [split])
      simp only [List.map_cons, List.mem_cons] at member
      rcases member with inLog | new | old
      · exact .inl inLog
      · simp only at logged
        omega
      · exact .inr old
  | settle same =>
      intro earlier entry later split
      refine (lateBefore_mono ?_).trans (bounded earlier entry later split)
      intro other _ member
      rw [(same.map Prod.fst).mem_iff]
      exact member.imp_right (List.mem_cons_of_mem _)
  | replan same length owed kept =>
      intro earlier entry later split
      refine (lateBefore_mono ?_).trans (bounded earlier entry later split)
      intro other _ member
      rwa [same] at member
  | @deliver plans pending pending' log item delivery owed others same same'
      overtaken =>
      intro earlier entry later split
      rcases List.eq_nil_or_concat later with rfl | ⟨later, last, rfl⟩
      · obtain ⟨rfl, equal⟩ := List.append_inj' split rfl
        obtain rfl : (item, delivery) = entry := by simpa using equal
        exact (lateBefore_nil_card same').trans overtaken
      · rw [List.concat_eq_append, ← List.cons_append, ← List.append_assoc]
          at split
        obtain ⟨splitBefore, equal⟩ := List.append_inj' split rfl
        obtain rfl : (item, delivery) = last := by simpa using equal
        refine (lateBefore_mono ?_).trans
          (bounded earlier entry later splitBefore)
        intro other _ member
        rw [(same.map Prod.fst).mem_iff]
        rw [(same'.map Prod.fst).mem_iff] at member
        simp only [List.concat_eq_append, List.map_append, List.map_cons,
          List.map_nil, List.mem_append, List.mem_cons, List.not_mem_nil,
          or_false] at member ⊢
        rcases member with (inLog | equal) | equal | old
        · exact .inl inLog
        · exact .inr (.inl equal)
        · exact .inr (.inl equal)
        · exact .inr (.inr old)

theorem reach_balanced {bound : Nat} {ledger : Ledger δ}
    (reach : Relation.ReflTransGen (Step bound) empty ledger) :
    Balanced ledger := by
  induction reach with
  | refl => exact balanced_empty
  | tail _ step induction => exact step.balanced induction

theorem reach_boundedOvertaking {bound : Nat} {ledger : Ledger δ}
    (reach : Relation.ReflTransGen (Step bound) empty ledger) :
    BoundedOvertaking bound ledger := by
  induction reach with
  | refl => exact boundedOvertaking_empty bound
  | tail prefixReach step induction =>
      exact step.boundedOvertaking (reach_balanced prefixReach) induction

/-- Without overtaking, no older item causes deliveries after a newer one. -/
theorem BoundedOvertaking.none_late {ledger : Ledger δ}
    (bounded : BoundedOvertaking 0 ledger) {earlier later : List (Nat × δ)}
    {entry : Nat × δ} (split : ledger.log = earlier ++ entry :: later)
    {item : Nat} (older : item < entry.1) :
    item ∉ later.map Prod.fst ∧ item ∉ ledger.pendingItems := by
  have none := Finset.card_eq_zero.mp
      (Nat.le_zero.mp (bounded earlier entry later split))
  refine not_or.mp fun member => ?_
  have late : item ∈ lateBefore entry.1 later ledger.pending := by
    simp only [lateBefore, List.mem_toFinset, List.mem_filter, List.mem_append,
      decide_eq_true_eq]
    exact ⟨member, older⟩
  rw [none] at late
  exact absurd late (Finset.notMem_empty _)

theorem BoundedOvertaking.ordered {ledger : Ledger δ}
    (bounded : BoundedOvertaking 0 ledger) :
    ledger.log.Pairwise fun first second => first.1 ≤ second.1 := by
  suffices ordered : ∀ earlier later, ledger.log = earlier ++ later →
      later.Pairwise fun first second => first.1 ≤ second.1 from
    ordered [] ledger.log rfl
  intro earlier later
  induction later generalizing earlier with
  | nil => exact fun _ => .nil
  | cons first rest induction =>
      intro split
      refine List.pairwise_cons.mpr ⟨?_,
        induction (earlier ++ [first]) (by simp [split])⟩
      intro second member
      by_contra below
      exact (bounded.none_late split (Nat.lt_of_not_le below)).1
        (List.mem_map.mpr ⟨second, member, rfl⟩)

private theorem filter_le {log : List (Nat × δ)}
    (ordered : log.Pairwise fun first second => first.1 ≤ second.1)
    (item : Nat) :
    log.filter (·.1 ≤ item) =
      log.filter (·.1 < item) ++ log.filter (·.1 = item) := by
  induction log with
  | nil => rfl
  | cons entry rest induction =>
      obtain ⟨above, ordered⟩ := List.pairwise_cons.mp ordered
      have split := induction ordered
      by_cases before : entry.1 < item
      · simp [before, Nat.le_of_lt before, Nat.ne_of_lt before, split]
      · have none : rest.filter (·.1 < item) = [] := by
          rw [List.filter_eq_nil_iff]
          intro other member below
          exact before
            (Nat.lt_of_le_of_lt (above other member) (of_decide_eq_true below))
        rw [none, List.nil_append] at split
        by_cases same : entry.1 = item
        · simp [same, none, split]
        · have after : ¬ entry.1 ≤ item := by omega
          simp [before, same, after, none, split]

/-- A log in the order of the items is their deliveries, one item after the
other. -/
theorem log_eq_flatMap {log : List (Nat × δ)} {items : Nat}
    (ordered : log.Pairwise fun first second => first.1 ≤ second.1)
    (known : ∀ entry ∈ log, entry.1 < items) :
    log.map Prod.snd = (List.range items).flatMap (deliveriesOf log) := by
  have beginnings : ∀ count, (log.filter (·.1 < count)).map Prod.snd =
      (List.range count).flatMap (deliveriesOf log) := by
    intro count
    induction count with
    | zero => simp
    | succ count induction =>
        simp only [Nat.lt_succ_iff]
        rw [filter_le ordered, List.map_append, induction, List.range_succ,
          List.flatMap_append, List.flatMap_singleton, deliveriesOf]
  have all : log.filter (·.1 < items) = log :=
    List.filter_eq_self.mpr fun entry member =>
      decide_eq_true (known entry member)
  rw [← beginnings items, all]

/-- Without overtaking, an item that still owes something keeps the later ones
waiting. -/
theorem BoundedOvertaking.deliveries_nil {ledger : Ledger δ}
    (bounded : BoundedOvertaking 0 ledger) {item later : Nat}
    (pending : item ∈ ledger.pendingItems) (older : item < later) :
    deliveriesOf ledger.log later = [] := by
  refine deliveriesOf_eq_nil fun delivery member => ?_
  obtain ⟨before, after, split⟩ := List.append_of_mem member
  exact (bounded.none_late split older).2 pending

private theorem flatMap_range {plans : List (List δ)}
    {deliveries : Nat → List δ} {count : Nat} (inBounds : count ≤ plans.length)
    (complete : ∀ item < count, plans[item]? = some (deliveries item)) :
    (List.range count).flatMap deliveries = (plans.take count).flatten := by
  rw [List.flatMap_def]
  congr 1
  apply List.ext_getElem (by simpa using inBounds)
  intro item below _
  rw [List.length_map, List.length_range] at below
  rw [List.getElem_map, List.getElem_range, List.getElem_take]
  exact (List.getElem?_eq_some_iff.mp (complete item below)).2.symm

/-- Without overtaking, the log is at every moment a beginning of the plans, one
after the other. -/
theorem Balanced.log_beginning {ledger : Ledger δ} (balanced : Balanced ledger)
    (bounded : BoundedOvertaking 0 ledger) :
    ledger.log.map Prod.snd <+: ledger.plans.flatten := by
  rw [log_eq_flatMap bounded.ordered fun entry =>
    balanced.logged entry.1 entry.2]
  suffices beginnings : ∀ count ≤ ledger.plans.length,
      (List.range count).flatMap (deliveriesOf ledger.log) <+:
        (ledger.plans.take count).flatten by
    simpa using beginnings ledger.plans.length (Nat.le_refl _)
  intro count inBounds
  induction count with
  | zero => exact List.prefix_rfl
  | succ count induction =>
      have earlier := Nat.le_of_succ_le inBounds
      have plan : ledger.plans[count]? = some ledger.plans[count] :=
        List.getElem?_eq_getElem inBounds
      rw [List.range_succ, List.flatMap_append, List.flatMap_singleton,
        List.take_add_one, plan, List.flatten_append, Option.toList_some,
        List.flatten_singleton]
      by_cases settled : ∀ item < count, item ∉ ledger.pendingItems
      · have complete : ∀ item < count,
            ledger.plans[item]? = some (deliveriesOf ledger.log item) := by
          intro item below
          have known : ledger.plans[item]? = some ledger.plans[item] :=
            List.getElem?_eq_getElem (Nat.lt_of_lt_of_le below earlier)
          rw [known, balanced.settled item _ known (settled item below)]
        rw [flatMap_range earlier complete, List.prefix_append_right_inj]
        exact balanced.deliveries_prefix plan
      · push Not at settled
        obtain ⟨item, below, pending⟩ := settled
        rw [bounded.deliveries_nil pending below, List.append_nil]
        exact (induction earlier).trans (List.prefix_append _ _)

/-- Every delivery is one of its item's, whatever the order. -/
theorem log_perm_flatMap {log : List (Nat × δ)} {items : Nat}
    (known : ∀ entry ∈ log, entry.1 < items) :
    (log.map Prod.snd).Perm
      ((List.range items).flatMap (deliveriesOf log)) := by
  have beginnings : ∀ items, ((log.filter (·.1 < items)).map Prod.snd).Perm
      ((List.range items).flatMap (deliveriesOf log)) := by
    intro items
    induction items with
    | zero => simp
    | succ items induction =>
        have parted := List.filter_append_perm
            (fun entry : Nat × δ => decide (entry.1 < items))
          (log.filter (·.1 < items + 1))
        rw [List.filter_filter, List.filter_filter] at parted
        have earlier : log.filter (fun entry => decide (entry.1 < items) &&
            decide (entry.1 < items + 1)) = log.filter (·.1 < items) := by
          refine List.filter_congr fun entry _ => ?_
          rw [← Bool.decide_and, decide_eq_decide]
          omega
        have last : log.filter (fun entry => !decide (entry.1 < items) &&
            decide (entry.1 < items + 1)) = log.filter (·.1 = items) := by
          refine List.filter_congr fun entry _ => ?_
          rw [← decide_not, ← Bool.decide_and, decide_eq_decide]
          omega
        rw [earlier, last] at parted
        rw [List.range_succ, List.flatMap_append, List.flatMap_singleton]
        refine (parted.symm.map Prod.snd).trans ?_
        rw [List.map_append]
        exact induction.append_right _
  have all : log.filter (·.1 < items) = log :=
    List.filter_eq_self.mpr fun entry member =>
      decide_eq_true (known entry member)
  have whole := beginnings items
  rwa [all] at whole

/-- Once nothing is pending, the log is all that was planned. -/
theorem Balanced.log_perm {ledger : Ledger δ} (balanced : Balanced ledger)
    (idle : ledger.pending = []) :
    (ledger.log.map Prod.snd).Perm ledger.plans.flatten := by
  refine (log_perm_flatMap fun entry =>
    balanced.logged entry.1 entry.2).trans ?_
  have complete : ∀ item < ledger.plans.length,
      ledger.plans[item]? = some (deliveriesOf ledger.log item) := by
    intro item below
    have known := List.getElem?_eq_getElem below
    rw [balanced.settled item _ known (by simp [pendingItems, idle]), known]
  rw [flatMap_range (Nat.le_refl _) complete, List.take_length]

end Ledger

end Farsounder.Data
