import Farsounder.Config

namespace Farsounder.Config

/-! What `build_config` returns. -/

theorem reqrepNameMap_eq_some {name : String} {endpoint : ReqRepEndpoint} :
    reqrepNameMap name = some endpoint ↔
      name = ReqRepEndpoint.toString (.of endpoint) := by
  constructor
  · intro found
    have member := mem_of_ofList found
    simp only [List.mem_cons, Prod.mk.injEq, List.not_mem_nil,
      or_false] at member
    rcases member with ⟨rfl, rfl⟩ | ⟨rfl, rfl⟩ | ⟨rfl, rfl⟩ | ⟨rfl, rfl⟩ |
      ⟨rfl, rfl⟩ |
      ⟨rfl, rfl⟩ <;> rfl
  · rintro rfl
    cases endpoint <;> decide

theorem restNameMap_eq_some {name : String} {endpoint : RestEndpoint} :
    restNameMap name = some endpoint ↔
    name = RestEndpoint.toString (.of endpoint) := by
  constructor
  · intro found
    cases endpoint
    exact (Prod.mk.inj (List.mem_singleton.mp (mem_of_ofList found))).1
  · rintro rfl
    cases endpoint
    decide

/-! A table names each enumerator as its `to_string` does, and no other
value. -/

theorem toString_eq_iff {E : Type} [Enumerators E]
    {toString : EnumValue E → String} {map : UnorderedMap String E}
    {key : String} (known : key ≠ "Unknown")
    (unknown : ∀ value : EnumValue E, value.declared? = none →
      toString value = "Unknown")
    (named : ∀ name enumerator, map name = some enumerator ↔
    name = toString (.of enumerator)) (value : EnumValue E) :
    toString value = key ↔ ∃ enumerator, map key = some enumerator ∧
      value = .of enumerator := by
  cases declared : value.declared? with
  | none =>
      rw [unknown value declared]
      constructor
      · exact fun same => absurd same.symm known
      · rintro ⟨enumerator, _, rfl⟩
        simp at declared
  | some found =>
      obtain rfl := EnumValue.declared?_eq_some.mp declared
      constructor
      · rintro rfl
        exact ⟨found, (named _ _).mpr rfl, rfl⟩
      · rintro ⟨enumerator, mapped, same⟩
        rw [same]
        exact ((named _ _).mp mapped).symm

/-- `after` is `before` with the port of the value that `key` names, if it names
one. -/
def Overrides {E : Type} (toString : EnumValue E → String)
    (before after : UnorderedMap (EnumValue E) Int32) (key : String)
    (port : Int32) : Prop :=
  ∀ value, after value = if toString value = key then some port
    else before value

theorem Overrides.assign {E : Type} [Enumerators E] [DecidableEq E]
    {toString : EnumValue E → String} {map : UnorderedMap String E}
    {before : UnorderedMap (EnumValue E) Int32} {key : String} {port : Int32}
    {enumerator : E} (named : ∀ value, toString value = key ↔
      ∃ enumerator, map key = some enumerator ∧ value = .of enumerator)
    (mapped : map key = some enumerator) :
    Overrides toString before (before.assign (.of enumerator) port) key
      port := by
  intro value
  by_cases same : value = .of enumerator
  · rw [if_pos ((named value).mpr ⟨enumerator, mapped, same⟩), same,
      UnorderedMap.assign_self]
  · rw [UnorderedMap.assign_of_ne _ _ same, if_neg]
    rintro found
    obtain ⟨other, mapped', rfl⟩ := (named value).mp found
    exact same (Option.some.inj (mapped'.symm.trans mapped) ▸ rfl)

theorem Overrides.unnamed {E : Type} [Enumerators E]
    {toString : EnumValue E → String} {map : UnorderedMap String E}
    {before : UnorderedMap (EnumValue E) Int32} {key : String} {port : Int32}
    (named : ∀ value, toString value = key ↔
      ∃ enumerator, map key = some enumerator ∧ value = .of enumerator)
    (absent : map key = none) : Overrides toString before before key port := by
  intro value
  rw [if_neg]
  intro found
  obtain ⟨_, mapped, _⟩ := (named value).mp found
  simp [absent] at mapped

theorem pubsub_named {key : String} (known : key ≠ "Unknown")
    (value : EnumValue PubSubMessage) :
    PubSubMessage.toString value = key ↔
      ∃ message, pubsubNameMap key = some message ∧ value = .of message :=
  toString_eq_iff known (fun _ none => by simp [PubSubMessage.toString, none])
    (fun _ _ => pubsubNameMap_eq_some) value

theorem reqrep_named {key : String} (known : key ≠ "Unknown")
    (value : EnumValue ReqRepEndpoint) :
    ReqRepEndpoint.toString value = key ↔
      ∃ endpoint, reqrepNameMap key = some endpoint ∧ value = .of endpoint :=
  toString_eq_iff known (fun _ none => by simp [ReqRepEndpoint.toString, none])
    (fun _ _ => reqrepNameMap_eq_some) value

theorem rest_named {key : String} (known : key ≠ "Unknown")
    (value : EnumValue RestEndpoint) :
    RestEndpoint.toString value = key ↔
      ∃ endpoint, restNameMap key = some endpoint ∧ value = .of endpoint :=
  toString_eq_iff known (fun _ none => by simp [RestEndpoint.toString, none])
    (fun _ _ => restNameMap_eq_some) value

/-- The key is in one of the three tables of names. -/
def NamesEndpoint (key : String) : Prop :=
  (pubsubNameMap key).isSome ∨ (reqrepNameMap key).isSome ∨
    (restNameMap key).isSome

theorem NamesEndpoint.known {key : String} (names : NamesEndpoint key) :
    key ≠ "Unknown" := by
  rintro rfl
  exact absurd names (by unfold NamesEndpoint; decide)

/-- An accepted override is the port of the one endpoint, of whichever kind,
that has its key as a name. -/
theorem applyOverride_ok {ports after : Ports} {key : String} {port : Int32}
    (applied : applyOverride ports (key, port) = .ok after) :
    (0 < port ∧ NamesEndpoint key) ∧
      Overrides PubSubMessage.toString ports.pubsub after.pubsub key port ∧
      Overrides ReqRepEndpoint.toString ports.reqrep after.reqrep key port ∧
      Overrides RestEndpoint.toString ports.rest after.rest key port := by
  simp only [applyOverride] at applied
  split at applied
  · contradiction
  · rename_i nonnegative
    have positive : 0 < port := by simpa using nonnegative
    split at applied
    · rename_i message mapped
      obtain rfl := Except.ok.inj applied
      have names : NamesEndpoint key := .inl (by simp [mapped])
      obtain ⟨reqrep, rest⟩ :
          reqrepNameMap key = none ∧ restNameMap key = none := by
        rw [pubsubNameMap_eq_some.mp mapped]
        cases message <;> decide
      exact ⟨⟨positive, names⟩, .assign (pubsub_named names.known) mapped,
        .unnamed (reqrep_named names.known) reqrep,
        .unnamed (rest_named names.known) rest⟩
    · rename_i pubsub
      split at applied
      · rename_i endpoint mapped
        obtain rfl := Except.ok.inj applied
        have names : NamesEndpoint key := .inr (.inl (by simp [mapped]))
        have rest : restNameMap key = none := by
          rw [reqrepNameMap_eq_some.mp mapped]
          cases endpoint <;> decide
        exact ⟨⟨positive, names⟩, .unnamed (pubsub_named names.known) pubsub,
          .assign (reqrep_named names.known) mapped,
          .unnamed (rest_named names.known) rest⟩
      · rename_i reqrep
        split at applied
        · rename_i endpoint mapped
          obtain rfl := Except.ok.inj applied
          have names : NamesEndpoint key := .inr (.inr (by simp [mapped]))
          exact ⟨⟨positive, names⟩, .unnamed (pubsub_named names.known) pubsub,
            .unnamed (reqrep_named names.known) reqrep,
            .assign (rest_named names.known) mapped⟩
        · contradiction

/-- `after` is `before` overlaid by the entries whose keys name its values. -/
def Overlays {E : Type} (toString : EnumValue E → String)
    (before after : UnorderedMap (EnumValue E) Int32)
    (entries : List (String × Int32)) : Prop :=
  ∀ value, after value =
    (UnorderedMap.ofList entries (toString value)).or (before value)

theorem UnorderedMap.ofList_cons {κ ν : Type} [DecidableEq κ] (key : κ)
    (value : ν) (rest : List (κ × ν)) (other : κ) :
    UnorderedMap.ofList ((key, value) :: rest) other =
      if other = key then some value else UnorderedMap.ofList rest other := by
  simp only [UnorderedMap.ofList, List.find?_cons]
  grind

theorem UnorderedMap.ofList_absent {κ ν : Type} [DecidableEq κ]
    {entries : List (κ × ν)} {key : κ} (absent : key ∉ entries.map Prod.fst) :
    UnorderedMap.ofList entries key = none := by
  cases found : UnorderedMap.ofList entries key with
  | none => rfl
  | some value =>
      exact absurd (List.mem_map_of_mem (mem_of_ofList found)) absent

theorem Overrides.overlays {E : Type} {toString : EnumValue E → String}
    {before middle after : UnorderedMap (EnumValue E) Int32} {key : String}
    {port : Int32} {rest : List (String × Int32)}
    (first : Overrides toString before middle key port)
    (fresh : key ∉ rest.map Prod.fst)
    (later : Overlays toString middle after rest) :
    Overlays toString before after ((key, port) :: rest) := by
  intro value
  rw [later value, first value, UnorderedMap.ofList_cons]
  split
  · rename_i named
    rw [named, UnorderedMap.ofList_absent fresh]
    rfl
  · rfl

theorem Overlays.port {E : Type} [Enumerators E]
    {toString : EnumValue E → String}
    {before after : UnorderedMap (EnumValue E) Int32}
    {entries : List (String × Int32)}
    (overlays : Overlays toString before after entries) {enumerator : E}
    {standard : Int32} (default : before (.of enumerator) = some standard) :
    after (.of enumerator) =
      some ((UnorderedMap.ofList entries (toString (.of enumerator))).getD
        standard) := by
  rw [overlays, default]
  cases UnorderedMap.ofList entries (toString (.of enumerator)) <;> rfl

theorem applyOverrides_ok {entries : List (String × Int32)}
    {ports after : Ports} (keys : (entries.map Prod.fst).Nodup)
    (applied : applyOverrides ports entries = .ok after) :
    (∀ entry ∈ entries, 0 < entry.2 ∧ NamesEndpoint entry.1) ∧
      Overlays PubSubMessage.toString ports.pubsub after.pubsub entries ∧
      Overlays ReqRepEndpoint.toString ports.reqrep after.reqrep entries ∧
      Overlays RestEndpoint.toString ports.rest after.rest entries := by
  induction entries generalizing ports with
  | nil =>
      obtain rfl := Except.ok.inj applied
      exact ⟨by simp, fun _ => rfl, fun _ => rfl, fun _ => rfl⟩
  | cons entry rest induction =>
      obtain ⟨key, port⟩ := entry
      obtain ⟨fresh, keys⟩ := List.nodup_cons.mp keys
      cases first : applyOverride ports (key, port) with
      | error failure => simp [applyOverrides, first] at applied
      | ok middle =>
          simp only [applyOverrides, first, Data.Traversal.ok_bind] at applied
          obtain ⟨accepted, pubsub, reqrep, rest'⟩ := applyOverride_ok first
          obtain ⟨accepteds, pubsubs, reqreps, rests⟩ := induction keys applied
          exact ⟨List.forall_mem_cons.mpr ⟨accepted, accepteds⟩,
            pubsub.overlays fresh pubsubs, reqrep.overlays fresh reqreps,
            rest'.overlays fresh rests⟩

/-- What the configuration that `build_config` returns says. -/
structure Built (host : String) (subscribe : List (EnumValue PubSubMessage))
    (portOverrides : PortOverrides) (callbackExecutor : CallbackExecutor)
    (timeoutSeconds : Double) (config : ClientConfig) : Prop where
  positive : timeoutSeconds.nonpositive = false
  host : config.host = host
  subscribe : config.subscribe = effectiveSubscribe subscribe
  callbackExecutor : config.callbackExecutor = callbackExecutor
  timeoutSeconds : config.timeoutSeconds = timeoutSeconds
  accepted : ∀ entry ∈ portOverrides.entries, 0 < entry.2 ∧
    NamesEndpoint entry.1
  pubsub : Overlays PubSubMessage.toString defaultPubsubPorts config.pubsubPorts
    portOverrides.entries
  reqrep :
    Overlays ReqRepEndpoint.toString defaultReqrepPorts config.reqrepPorts
    portOverrides.entries
  rest : Overlays RestEndpoint.toString defaultRestPorts config.restPorts
    portOverrides.entries
  known : ∀ value ∈ config.subscribe, (config.pubsubPorts value).isSome

section Built

variable {host : String} {subscribe : List (EnumValue PubSubMessage)}
  {portOverrides : PortOverrides} {callbackExecutor : CallbackExecutor}
  {timeoutSeconds : Double} {config : ClientConfig}

theorem built_of_buildConfig
    (returned : buildConfig host subscribe portOverrides
    callbackExecutor timeoutSeconds = .ok config) :
    Built host subscribe portOverrides callbackExecutor timeoutSeconds
      config := by
  simp only [buildConfig] at returned
  cases positive : timeoutSeconds.nonpositive with
  | true => simp [positive] at returned
  | false =>
      cases applied : applyOverrides defaultPorts portOverrides.entries with
      | error failure => simp [positive, applied] at returned
      | ok ports =>
          simp only [positive, applied, Bool.false_eq_true, if_false,
            Data.Traversal.ok_bind, Data.Traversal.throw_eq,
            Data.Traversal.pure_eq] at returned
          split at returned
          · contradiction
          · rename_i known
            obtain rfl := Except.ok.inj returned
            obtain ⟨accepted, pubsub, reqrep, rest⟩ :=
              applyOverrides_ok portOverrides.keysNodup applied
            refine ⟨positive, rfl, rfl, rfl, rfl, accepted, pubsub,
              reqrep, rest, ?_⟩
            intro value member
            by_contra unknown
            exact known (List.any_eq_true.mpr ⟨value, member, by
              simpa using unknown⟩)

/-- The port that a message is subscribed to on. -/
def PortOverrides.pubsubPort (overrides : PortOverrides)
    (message : PubSubMessage) : Int32 :=
  (overrides.find (PubSubMessage.toString (.of message))).getD
    message.defaultPort

theorem Built.pubsubPorts_of
    (built : Built host subscribe portOverrides callbackExecutor
      timeoutSeconds config) (message : PubSubMessage) :
    config.pubsubPorts (.of message) =
      some (portOverrides.pubsubPort message) :=
  built.pubsub.port (defaultPubsubPorts_of message)

theorem Built.declared
    (built : Built host subscribe portOverrides callbackExecutor
      timeoutSeconds config) {value : EnumValue PubSubMessage}
    (member : value ∈ effectiveSubscribe subscribe) :
    ∃ message, value = .of message := by
  have found := built.known value (built.subscribe ▸ member)
  rw [built.pubsub, Option.isSome_or, Bool.or_eq_true] at found
  rcases found with overridden | standard
  · obtain ⟨port, found⟩ := Option.isSome_iff_exists.mp overridden
    obtain ⟨_, names⟩ := built.accepted _ (mem_of_ofList found)
    obtain ⟨message, _, same⟩ :=
      (pubsub_named names.known value).mp rfl
    exact ⟨message, same⟩
  · exact defaultPubsubPorts_isSome standard

end Built

end Farsounder.Config
