import Farsounder.BuildConfig

namespace Farsounder.Config

open Farsounder.Data

/-! What `build_config` throws. -/

/-- What the loop over the overrides objects to in one of them, whatever the
ports are. -/
def overrideComplaint (override : String × Int32) : Option Failure :=
  let (key, port) := override
  if port ≤ 0 then
    some (.invalidArgument ("Port override must be positive: " ++ key))
  else if key ∈ endpointNames then
    none
  else
    some (.invalidArgument ("Unknown port override key: " ++ key))

def timeoutComplaints (timeoutSeconds : Double) : List Failure :=
  if timeoutSeconds.nonpositive then
    [.invalidArgument "timeout_seconds must be positive"]
  else
    []

def subscribeComplaints (subscribe : List (EnumValue PubSubMessage)) :
    List Failure :=
  if subscribe.any fun value => value.declared?.isNone then
    [.invalidArgument "Unknown pub-sub message type"]
  else
    []

/-- All that there is to object to in the arguments, in the order of the
checks. -/
def complaints (subscribe : List (EnumValue PubSubMessage))
    (portOverrides : PortOverrides) (timeoutSeconds : Double) : List Failure :=
  timeoutComplaints timeoutSeconds ++
    portOverrides.entries.filterMap overrideComplaint ++
    subscribeComplaints subscribe

theorem overrideComplaint_eq_none {override : String × Int32} :
    overrideComplaint override = none ↔
    0 < override.2 ∧ NamesEndpoint override.1 := by
  rw [overrideComplaint, namesEndpoint_iff, ← Int32.not_le]
  by_cases nonpositive : override.2 ≤ 0
  · simp [nonpositive]
  · by_cases named : override.1 ∈ endpointNames <;> simp [nonpositive, named]

theorem applyOverride_eq_error (ports : Ports) (override : String × Int32)
    (failure : Failure) :
    applyOverride ports override = .error failure ↔
      overrideComplaint override = some failure := by
  obtain ⟨key, port⟩ := override
  by_cases accepted : 0 < port ∧ NamesEndpoint key
  · obtain ⟨after, applied⟩ := applyOverride_accepts ports accepted.1 accepted.2
    have quiet : overrideComplaint (key, port) = none :=
      overrideComplaint_eq_none.mpr accepted
    simp [applied, quiet]
  · by_cases nonpositive : port ≤ 0
    · simp [applyOverride, overrideComplaint, nonpositive]
    · have unnamed : ¬ NamesEndpoint key := by
        intro named
        exact accepted ⟨Int32.not_le.mp nonpositive, named⟩
      have absent : key ∉ endpointNames := mt namesEndpoint_iff.mpr unnamed
      simp only [NamesEndpoint, not_or, Option.not_isSome_iff_eq_none]
        at unnamed
      obtain ⟨pubsub, reqrep, rest⟩ := unnamed
      simp [applyOverride, overrideComplaint, nonpositive, absent, pubsub,
        reqrep, rest]

theorem applyOverrides_eq_error (entries : List (String × Int32))
    (ports : Ports) (failure : Failure) :
    applyOverrides ports entries = .error failure ↔
      (entries.filterMap overrideComplaint).head? = some failure := by
  induction entries generalizing ports with
  | nil => simp [applyOverrides]
  | cons override rest induction =>
      rw [applyOverrides]
      cases applied : applyOverride ports override with
      | error first =>
          have complained :=
            (applyOverride_eq_error ports override first).mp applied
          simp [complained]
      | ok after =>
          have quiet : overrideComplaint override = none := by
            by_contra complains
            obtain ⟨first, complained⟩ :=
              Option.ne_none_iff_exists'.mp complains
            have refused :=
              (applyOverride_eq_error ports override first).mpr complained
            simp [applied] at refused
          rw [Traversal.ok_bind, induction, List.filterMap_cons_none quiet]

theorem subscribeComplaints_eq_nil
    {subscribe : List (EnumValue PubSubMessage)} :
    subscribeComplaints subscribe = [] ↔
    ∀ value ∈ subscribe, ∃ message, value = .of message := by
  have declared (value : EnumValue PubSubMessage) :
      value.declared?.isNone = false ↔ ∃ message, value = .of message := by
    simp only [Option.isNone_eq_false_iff, Option.isSome_iff_exists,
      EnumValue.declared?_eq_some]
  have quiet : subscribeComplaints subscribe = [] ↔
      (subscribe.any fun value => value.declared?.isNone) = false := by
    simp [subscribeComplaints]
  rw [quiet, List.any_eq_false]
  refine forall₂_congr fun value _ => ?_
  rw [Bool.not_eq_true, declared]

theorem subscribeComplaints_of_ne_nil
    {subscribe : List (EnumValue PubSubMessage)}
    (complains : subscribeComplaints subscribe ≠ []) :
    subscribeComplaints subscribe =
      [.invalidArgument "Unknown pub-sub message type"] := by
  simp only [subscribeComplaints] at complains ⊢
  split at complains
  · rw [if_pos ‹_›]
  · contradiction

theorem subscribeComplaints_head? {subscribe : List (EnumValue PubSubMessage)}
    {failure : Failure} :
    (subscribeComplaints subscribe).head? = some failure ↔
      (∃ value ∈ subscribe, ∀ message, value ≠ .of message) ∧
        failure = .invalidArgument "Unknown pub-sub message type" := by
  have undeclared : (∃ value ∈ subscribe, ∀ message, value ≠ .of message) ↔
      subscribeComplaints subscribe ≠ [] := by
    simp [subscribeComplaints_eq_nil]
  rw [undeclared]
  by_cases quiet : subscribeComplaints subscribe = []
  · simp [quiet]
  · simp [subscribeComplaints_of_ne_nil quiet, eq_comm]

section Refusals

variable (host : String) (subscribe : List (EnumValue PubSubMessage))
  (portOverrides : PortOverrides) (callbackExecutor : CallbackExecutor)
  (timeoutSeconds : Double)

/-- What is thrown is the first complaint. -/
theorem buildConfig_eq_error (failure : Failure) :
    buildConfig host subscribe portOverrides callbackExecutor timeoutSeconds =
      .error failure ↔
      (complaints subscribe portOverrides timeoutSeconds).head? =
        some failure := by
  cases positive : timeoutSeconds.nonpositive with
  | true => simp [buildConfig, complaints, timeoutComplaints, positive]
  | false =>
      have timeout : timeoutComplaints timeoutSeconds = [] := by
        simp [timeoutComplaints, positive]
      rw [complaints, timeout, List.nil_append]
      cases applied : applyOverrides defaultPorts portOverrides.entries with
      | error first =>
          have complained := (applyOverrides_eq_error _ _ _).mp applied
          simp [buildConfig, positive, applied, List.head?_append, complained]
      | ok ports =>
          have overrides :
              portOverrides.entries.filterMap overrideComplaint = [] := by
            by_contra complains
            have refused := (applyOverrides_eq_error _ defaultPorts _).mpr
              (List.head?_eq_some_head complains)
            simp [applied] at refused
          have accepted : ∀ entry ∈ portOverrides.entries, 0 < entry.2 ∧
              NamesEndpoint entry.1 :=
            fun entry member => overrideComplaint_eq_none.mp
              (List.filterMap_eq_nil_iff.mp overrides entry member)
          rw [overrides, List.nil_append]
          cases outcome :
            buildConfig host subscribe portOverrides callbackExecutor
            timeoutSeconds with
          | ok config =>
              have declared := (built_of_buildConfig outcome).subscribe_declared
              simp [subscribeComplaints_eq_nil.mpr declared]
          | error thrown =>
              have complains : subscribeComplaints subscribe ≠ [] := by
                intro declared
                have returned :
                    ∃ config, buildConfig host subscribe portOverrides
                    callbackExecutor timeoutSeconds = .ok config :=
                  buildConfig_accepts positive accepted
                    (subscribeComplaints_eq_nil.mp declared)
                simp [outcome] at returned
              simp only [buildConfig, positive, applied,
                Bool.false_eq_true, if_false, Traversal.ok_bind,
                Traversal.throw_eq, Traversal.pure_eq] at outcome
              split at outcome
              · obtain rfl := Except.error.inj outcome
                simp [subscribeComplaints_of_ne_nil complains]
              · contradiction

/-- `build_config` throws exactly if there is something to object to, and then
its first objection; an unordered map of overrides may be visited in any order,
and a bad timeout apart, each bad override is the one that is reported in some
of these orders, the subscriptions only if there is none. -/
theorem buildConfig_refuses (failure : Failure) :
    (buildConfig host subscribe portOverrides callbackExecutor timeoutSeconds =
      .error failure ↔
      (complaints subscribe portOverrides timeoutSeconds).head? =
        some failure) ∧
    ((∃ reordered : PortOverrides,
      reordered.entries.Perm portOverrides.entries ∧
        buildConfig host subscribe reordered callbackExecutor timeoutSeconds =
          .error failure) ↔
      if timeoutSeconds.nonpositive then
        failure = .invalidArgument "timeout_seconds must be positive"
      else if portOverrides.entries.filterMap overrideComplaint = [] then
        (∃ value ∈ subscribe, ∀ message, value ≠ .of message) ∧
          failure = .invalidArgument "Unknown pub-sub message type"
      else
        failure ∈ portOverrides.entries.filterMap overrideComplaint) := by
  refine ⟨buildConfig_eq_error _ _ _ _ _ _, ?_⟩
  simp only [buildConfig_eq_error, complaints]
  split
  · rename_i nonpositive
    simp only [timeoutComplaints, if_pos nonpositive, List.cons_append,
      List.head?_cons, Option.some.injEq]
    constructor
    · rintro ⟨_, _, same⟩
      exact same.symm
    · intro same
      exact ⟨portOverrides, List.Perm.refl _, same.symm⟩
  · rename_i positive
    simp only [timeoutComplaints, if_neg positive, List.nil_append]
    have kept {reordered : PortOverrides}
        (same : reordered.entries.Perm portOverrides.entries) :
        (reordered.entries.filterMap overrideComplaint).Perm
          (portOverrides.entries.filterMap overrideComplaint) :=
      same.filterMap overrideComplaint
    split
    · rename_i quiet
      rw [← subscribeComplaints_head?]
      constructor
      · rintro ⟨reordered, same, found⟩
        have none : reordered.entries.filterMap overrideComplaint = [] :=
          List.Perm.eq_nil (quiet ▸ kept same)
        rwa [none, List.nil_append] at found
      · intro found
        exact ⟨portOverrides, List.Perm.refl _, by rwa [quiet, List.nil_append]⟩
    · rename_i complains
      have first {reordered : PortOverrides}
          (same : reordered.entries.Perm portOverrides.entries) :
          (reordered.entries.filterMap overrideComplaint ++
            subscribeComplaints subscribe).head? =
            (reordered.entries.filterMap overrideComplaint).head? :=
        List.head?_append_of_ne_nil _ fun quiet =>
          complains (quiet ▸ kept same).symm.eq_nil
      rw [← Traversal.exists_perm_head_filterMap]
      constructor
      · rintro ⟨reordered, same, found⟩
        exact ⟨reordered.entries, same, first same ▸ found⟩
      · rintro ⟨entries, same, found⟩
        have keysNodup : (entries.map Prod.fst).Nodup :=
          (same.map Prod.fst).nodup_iff.mpr portOverrides.keysNodup
        exact ⟨⟨entries, keysNodup⟩, same, (first same).trans found⟩

end Refusals

/-- Both overrides are bad, and either is reported, depending on the order. -/
example : [("Sonar", 61505), ("VesselInfo", 0)].filterMap overrideComplaint =
    [.invalidArgument "Unknown port override key: Sonar",
      .invalidArgument "Port override must be positive: VesselInfo"] := by
  decide

end Farsounder.Config
