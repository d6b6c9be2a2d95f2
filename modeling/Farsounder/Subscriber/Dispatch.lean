import Farsounder.Config
import Farsounder.Conversions
import Farsounder.Proto.Schema

namespace Farsounder.Subscriber

open Config
open Data.Wire (Bytes)

/-! Frames and the messages they decode to. -/

/-- A converted message, as the dispatch overloads receive it. -/
inductive Message where
  | hydrophoneData (data : HydrophoneData)
  | targetData (data : TargetData)
  | processorSettings (data : ProcessorSettings)
  | vesselInfo (data : VesselInfo)
  deriving DecidableEq, Repr

def Message.type : Message → PubSubMessage
  | hydrophoneData _ => .HydrophoneData
  | targetData _ => .TargetData
  | processorSettings _ => .ProcessorSettings
  | vesselInfo _ => .VesselInfo

/-- `ParseFromArray` of the four generated classes. -/
structure Parsers where
  hydrophoneData : Bytes → Option Proto.HydrophoneData
  targetData : Bytes → Option Proto.TargetData
  processorSettings : Bytes → Option Proto.ProcessorSettings
  vesselInfo : Bytes → Option Proto.VesselInfo

/-- Those of the wire format. -/
def wireParsers : Parsers where
  hydrophoneData := Proto.HydrophoneData.codec.parse
  targetData := Proto.TargetData.codec.parse
  processorSettings := Proto.ProcessorSettings.codec.parse
  vesselInfo := Proto.VesselInfo.codec.parse

/-- One arm of the `switch` on the socket's type, up to the dispatch. -/
def decodeArm {P D : Type} (parse : Bytes → Option P) (convert : P → D)
    (message : D → Message) (frame : Bytes) : Option Message :=
  (Proto.parseFromArray parse frame).map fun protoData =>
    message (convert protoData)

/-- The `switch`; a type that is no enumerator selects no arm. -/
def decodeFrame (parsers : Parsers) (type : EnumValue PubSubMessage)
    (frame : Bytes) : Option Message :=
  match type.declared? with
  | some .HydrophoneData =>
      decodeArm parsers.hydrophoneData convertHydrophoneData
        .hydrophoneData frame
  | some .TargetData =>
      decodeArm parsers.targetData convertTargetData .targetData frame
  | some .ProcessorSettings =>
      decodeArm parsers.processorSettings convertProcessorSettings
        .processorSettings frame
  | some .VesselInfo =>
      decodeArm parsers.vesselInfo convertVesselInfo .vesselInfo frame
  | none => none

theorem decodeArm_type {P D : Type} {parse : Bytes → Option P} {convert : P → D}
    (wrap : D → Message) (type : PubSubMessage) {frame : Bytes}
    {message : Message} (typed : ∀ data, (wrap data).type = type)
    (decoded : decodeArm parse convert wrap frame = some message) :
    message.type = type := by
  obtain ⟨_, _, rfl⟩ := Option.map_eq_some_iff.mp decoded
  exact typed _

theorem decodeFrame_type {parsers : Parsers} {type : EnumValue PubSubMessage}
    {frame : Bytes} {message : Message}
    (decoded : decodeFrame parsers type frame = some message) :
    type = .of message.type := by
  cases declared : type.declared? with
  | none => simp [decodeFrame, declared] at decoded
  | some found =>
      obtain rfl := EnumValue.declared?_eq_some.mp declared
      suffices typed : message.type = found by rw [typed]
      simp only [decodeFrame, declared] at decoded
      cases found with
      | HydrophoneData => exact decodeArm_type _ _ (fun _ => rfl) decoded
      | TargetData => exact decodeArm_type _ _ (fun _ => rfl) decoded
      | ProcessorSettings => exact decodeArm_type _ _ (fun _ => rfl) decoded
      | VesselInfo => exact decodeArm_type _ _ (fun _ => rfl) decoded

/-! The callback lists of `Subscriber::Impl`. -/

/-- A `std::function`; `none` is an empty one, whose invocation throws. -/
abbrev Callback (κ : Type) := Option κ

structure Registry (κ : Type) where
  hydrophoneCallbacks : List (Callback κ) := []
  targetCallbacks : List (Callback κ) := []
  processorSettingsCallbacks : List (Callback κ) := []
  vesselInfoCallbacks : List (Callback κ) := []
  deriving DecidableEq, Repr

namespace Registry

variable {κ : Type}

/-- The list that the dispatch overload for a type copies. -/
def callbacks (registry : Registry κ) : PubSubMessage → List (Callback κ)
  | .HydrophoneData => registry.hydrophoneCallbacks
  | .TargetData => registry.targetCallbacks
  | .ProcessorSettings => registry.processorSettingsCallbacks
  | .VesselInfo => registry.vesselInfoCallbacks

def pushBack (registry : Registry κ) (callback : Callback κ) :
    PubSubMessage → Registry κ
  | .HydrophoneData =>
      { registry with
        hydrophoneCallbacks := registry.hydrophoneCallbacks ++ [callback] }
  | .TargetData =>
      { registry with targetCallbacks := registry.targetCallbacks ++
        [callback] }
  | .ProcessorSettings =>
      { registry with
        processorSettingsCallbacks :=
          registry.processorSettingsCallbacks ++ [callback] }
  | .VesselInfo =>
      { registry with
        vesselInfoCallbacks := registry.vesselInfoCallbacks ++ [callback] }

theorem callbacks_pushBack (registry : Registry κ) (callback : Callback κ)
    (type other : PubSubMessage) :
    (registry.pushBack callback type).callbacks other =
      registry.callbacks other ++ if other = type then [callback] else [] := by
  cases type <;> cases other <;> simp [pushBack, callbacks]

end Registry

/-! `Subscriber::on`.  The overloads by enum differ in the type they expect,
and each overload by name calls the one by enum. -/

section On

variable {κ : Type}

def onMessage (expected : PubSubMessage) (message : EnumValue PubSubMessage)
    (callback : Callback κ) (registry : Registry κ) :
    Except Failure (Registry κ) :=
  if message ≠ .of expected then
    .error (.invalidArgument "Callback type does not match pub-sub message")
  else
    .ok (registry.pushBack callback expected)

def onHydrophone : EnumValue PubSubMessage → Callback κ → Registry κ →
    Except Failure (Registry κ) :=
  onMessage .HydrophoneData

def onTarget : EnumValue PubSubMessage → Callback κ → Registry κ →
    Except Failure (Registry κ) :=
  onMessage .TargetData

def onProcessorSettings : EnumValue PubSubMessage → Callback κ → Registry κ →
    Except Failure (Registry κ) :=
  onMessage .ProcessorSettings

def onVesselInfo : EnumValue PubSubMessage → Callback κ → Registry κ →
    Except Failure (Registry κ) :=
  onMessage .VesselInfo

def onName (onEnum : EnumValue PubSubMessage → Callback κ → Registry κ →
      Except Failure (Registry κ))
    (messageName : String) (callback : Callback κ) (registry : Registry κ) :
    Except Failure (Registry κ) := do
  let message ← pubsubFromName messageName
  onEnum (.of message) callback registry

def onHydrophoneName : String → Callback κ → Registry κ →
    Except Failure (Registry κ) :=
  onName onHydrophone

def onTargetName : String → Callback κ → Registry κ →
    Except Failure (Registry κ) :=
  onName onTarget

def onProcessorSettingsName : String → Callback κ → Registry κ →
    Except Failure (Registry κ) :=
  onName onProcessorSettings

def onVesselInfoName : String → Callback κ → Registry κ →
    Except Failure (Registry κ) :=
  onName onVesselInfo

end On

inductive Selector where
  | message (message : EnumValue PubSubMessage)
  | name (name : String)
  deriving DecidableEq, Repr

/-- A call of one of the eight overloads: the type of the callback argument,
and the enum or the name. -/
structure Registration (κ : Type) where
  type : PubSubMessage
  selector : Selector
  callback : Callback κ
  deriving DecidableEq, Repr

namespace Registration

variable {κ : Type}

def on (registration : Registration κ) :
    Registry κ → Except Failure (Registry κ) :=
  match registration.type, registration.selector with
  | .HydrophoneData, .message message =>
      onHydrophone message registration.callback
  | .TargetData, .message message => onTarget message registration.callback
  | .ProcessorSettings, .message message =>
      onProcessorSettings message registration.callback
  | .VesselInfo, .message message => onVesselInfo message registration.callback
  | .HydrophoneData, .name name => onHydrophoneName name registration.callback
  | .TargetData, .name name => onTargetName name registration.callback
  | .ProcessorSettings, .name name =>
      onProcessorSettingsName name registration.callback
  | .VesselInfo, .name name => onVesselInfoName name registration.callback

/-- The enum or name is the one of the callback's type. -/
def Matching (registration : Registration κ) : Prop :=
  match registration.selector with
  | .message message => message = .of registration.type
  | .name name => name = PubSubMessage.toString (.of registration.type)

instance (registration : Registration κ) : Decidable registration.Matching :=
  match h : registration.selector with
  | .message message =>
      decidable_of_iff (message = .of registration.type) (by simp [Matching, h])
  | .name name =>
      decidable_of_iff (name = PubSubMessage.toString (.of registration.type))
        (by simp [Matching, h])

end Registration

section OnSpec

variable {κ : Type} (expected : PubSubMessage) (callback : Callback κ)
  (registry : Registry κ)

theorem onMessage_eq_ok : onMessage expected (.of expected) callback registry =
    .ok (registry.pushBack callback expected) := by
  simp [onMessage]

theorem onMessage_throws {message : EnumValue PubSubMessage}
    (mismatched : message ≠ .of expected) :
    ∃ failure, onMessage expected message callback registry = .error failure :=
  ⟨_, if_pos mismatched⟩

theorem onName_eq_ok : onName (onMessage expected)
    (PubSubMessage.toString (.of expected)) callback registry =
      .ok (registry.pushBack callback expected) := by
  have named := pubsubNameMap_eq_some.mpr
    (rfl : PubSubMessage.toString (.of expected) = _)
  simp [onName, pubsubFromName, named, onMessage_eq_ok]

theorem onName_throws {name : String}
    (mismatched : name ≠ PubSubMessage.toString (.of expected)) :
    ∃ failure,
      onName (onMessage expected) name callback registry = .error failure := by
  cases found : pubsubNameMap name with
  | none => exact ⟨_, by simp [onName, pubsubFromName, found]; rfl⟩
  | some message =>
      have distinct : EnumValue.of message ≠ EnumValue.of expected := by
        intro equal
        rw [pubsubNameMap_eq_some, EnumValue.of_injective equal] at found
        exact mismatched found
      obtain ⟨failure, thrown⟩ :=
        onMessage_throws expected callback registry distinct
      exact ⟨failure, by simp [onName, pubsubFromName, found, thrown]⟩

end OnSpec

namespace Registration

variable {κ : Type}

theorem on_eq (registration : Registration κ) (registry : Registry κ) :
    registration.on registry =
      match registration.selector with
      | .message message =>
          onMessage registration.type message registration.callback registry
      | .name name =>
          onName (onMessage registration.type) name registration.callback
            registry := by
  obtain ⟨type, selector, callback⟩ := registration
  cases type <;> cases selector <;> rfl

theorem on_eq_ok {registration : Registration κ}
    (matching : registration.Matching) (registry : Registry κ) :
    registration.on registry =
      .ok (registry.pushBack registration.callback registration.type) := by
  rw [on_eq]
  obtain ⟨type, selector, callback⟩ := registration
  cases selector with
  | message message =>
      obtain rfl : message = .of type := matching
      exact onMessage_eq_ok type callback registry
  | name name =>
      obtain rfl : name = PubSubMessage.toString (.of type) := matching
      exact onName_eq_ok type callback registry

theorem on_throws {registration : Registration κ}
    (mismatched : ¬ registration.Matching) (registry : Registry κ) :
    ∃ failure, registration.on registry = .error failure := by
  rw [on_eq]
  obtain ⟨type, selector, callback⟩ := registration
  cases selector with
  | message message => exact onMessage_throws type callback registry mismatched
  | name name => exact onName_throws type callback registry mismatched

/-- The registry after a call: a call that throws does so before locking. -/
def apply (registration : Registration κ) (registry : Registry κ) :
    Registry κ :=
  match registration.on registry with
  | .ok registry => registry
  | .error _ => registry

theorem callbacks_apply (registration : Registration κ) (registry : Registry κ)
    (type : PubSubMessage) :
    (registration.apply registry).callbacks type = registry.callbacks type ++
      if type = registration.type ∧ registration.Matching then
        [registration.callback]
      else [] := by
  by_cases matching : registration.Matching
  · simp only [apply, on_eq_ok matching, Registry.callbacks_pushBack, matching,
      and_true]
  · obtain ⟨failure, thrown⟩ := on_throws matching registry
    simp [apply, thrown, matching]

end Registration

/-! `Impl::dispatch_message`: a copy of the list under the lock, then a loop
over the copy. -/

inductive DispatchPhase (κ : Type) where
  | snapshotting
  | looping (todo : List (Callback κ))
  | inCallback (todo : List (Callback κ))
  deriving DecidableEq, Repr

namespace DispatchPhase

variable {κ : Type}

def snapshot (registry : Registry κ) (type : PubSubMessage) :
    DispatchPhase κ → Option (DispatchPhase κ)
  | snapshotting => some (looping (registry.callbacks type))
  | _ => none

def invoke : DispatchPhase κ → Option (Callback κ × DispatchPhase κ)
  | looping (callback :: todo) => some (callback, inCallback todo)
  | _ => none

def callbackReturns : DispatchPhase κ → Option (DispatchPhase κ)
  | inCallback todo => some (looping todo)
  | _ => none

/-- What the loop has still to invoke. -/
def todo : DispatchPhase κ → List (Callback κ)
  | snapshotting => []
  | looping todo => todo
  | inCallback todo => todo

end DispatchPhase

end Farsounder.Subscriber
