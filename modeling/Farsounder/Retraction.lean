import Farsounder.Conversions

namespace Farsounder

/-! The messages that client values stand for: every field is set from the one
it is converted to, an enumeration by its number, and a submessage is present
where the client value has one.  The time is left unset. -/

def Bin.toProto (bin : Bin) : Proto.Bin where
  horIndex := some bin.horIndex
  verIndex := some bin.verIndex
  rangeIndex := some bin.rangeIndex
  crossRange := some bin.crossRange
  downRange := some bin.downRange
  depth := some bin.depth
  strength := some bin.strength

def TargetGroup.toProto (group : TargetGroup) : Proto.Group where
  bins := group.bins.map Bin.toProto

def GridDescription.toProto (grid : GridDescription) :
    Proto.GridDescription where
  mode := Enumerators.ofNumber? grid.mode.raw
  horAngles := grid.horAngles
  verAngles := grid.verAngles
  maxRange := some grid.maxRange

def TargetData.toProto (data : TargetData) : Proto.TargetData where
  serial := some data.serial
  heading := data.heading.map fun heading => ⟨some heading.degrees⟩
  position := data.position.map fun position =>
    ⟨some position.latitudeDegrees, some position.longitudeDegrees⟩
  bottom := data.bottom.map Bin.toProto
  groups := data.groups.map TargetGroup.toProto
  gridDescription := data.gridDescription.map GridDescription.toProto
  maxDepth := some data.maxDepth
  maxRangeIndex := some data.maxRangeIndex

def HydrophoneData.toProto (data : HydrophoneData) : Proto.HydrophoneData where
  rawTimeseries := some {
    dims := data.dims
    type := Enumerators.ofNumber? data.type.number
    order := Enumerators.ofNumber? data.order.number
    data := some data.rawTimeseries }
  numHorPhones := some data.numHorPhones
  numVerPhones := some data.numVerPhones
  serial := some data.serial
  transmitId := some data.transmitId

/-! Values up to their time. -/

def TargetData.untimed (data : TargetData) : TargetData :=
  { data with time := {} }

def HydrophoneData.untimed (data : HydrophoneData) : HydrophoneData :=
  { data with time := {} }

/-- The only enumeration that is stored as a number is the grid mode. -/
def GridDescription.WellFormed (grid : GridDescription) : Prop :=
  ∃ mode, grid.mode.declared? = some mode

def TargetData.WellFormed (data : TargetData) : Prop :=
  ∀ grid, data.gridDescription = some grid → grid.WellFormed

/-! Converting the message of a client value gives the value back. -/

theorem convertBin_toProto (bin : Bin) : convertBin bin.toProto = bin :=
  rfl

theorem map_convertBin_toProto (bins : List Bin) :
    (bins.map Bin.toProto).map convertBin = bins := by
  induction bins with
  | nil => rfl
  | cons bin rest induction =>
      rw [List.map_cons, List.map_cons, induction, convertBin_toProto]

theorem map_group_toProto (groups : List TargetGroup) :
    (groups.map TargetGroup.toProto).map
      (fun group => (⟨group.bins.map convertBin⟩ : TargetGroup)) = groups := by
  induction groups with
  | nil => rfl
  | cons group rest induction =>
      rw [List.map_cons, List.map_cons, induction, TargetGroup.toProto,
        map_convertBin_toProto]

theorem gridMode_declared {mode : EnumValue GridMode} {enumerator : GridMode}
    (declared : mode.declared? = some enumerator) : mode = .of .kFixed := by
  cases enumerator
  exact EnumValue.declared?_eq_some.mp declared

theorem convertGridDescription_toProto {grid : GridDescription}
    (wellFormed : grid.WellFormed) :
    convertGridDescription grid.toProto = grid := by
  obtain ⟨mode, declared⟩ := wellFormed
  cases grid with
  | mk raw horAngles verAngles maxRange =>
      obtain rfl := gridMode_declared declared
      rfl

theorem convertTargetData_toProto {data : TargetData}
    (wellFormed : data.WellFormed) :
    convertTargetData data.toProto = data.untimed := by
  have heading :
      (data.heading.map fun heading =>
        (⟨some heading.degrees⟩ : Proto.Heading)).map
      (fun heading => (⟨heading.heading.getD 0⟩ : Heading)) = data.heading := by
    cases data.heading <;> rfl
  have position :
      (data.position.map fun position =>
        (⟨some position.latitudeDegrees, some position.longitudeDegrees⟩ :
          Proto.Position)).map
      (fun position =>
        (⟨position.lat.getD 0, position.lon.getD 0⟩ : Position)) =
        data.position := by
    cases data.position <;> rfl
  have gridDescription : (data.gridDescription.map GridDescription.toProto).map
      convertGridDescription = data.gridDescription := by
    cases held : data.gridDescription with
    | none => rfl
    | some grid =>
        exact congrArg some
          (convertGridDescription_toProto (wellFormed grid held))
  simp only [convertTargetData, TargetData.toProto, heading, position,
    gridDescription, map_convertBin_toProto, map_group_toProto]
  rfl

theorem convertHydrophoneData_toProto (data : HydrophoneData) :
    convertHydrophoneData data.toProto = data.untimed := by
  cases data with
  | mk time serial transmitId numHorPhones numVerPhones dims type order
      rawTimeseries =>
      cases type <;> cases order <;> rfl

/-! Which messages are converted to well-formed values. -/

theorem convertGridDescription_wellFormed {grid : Proto.GridDescription} :
    (convertGridDescription grid).WellFormed ↔
    grid.mode ≠ some .OBSELETE_kAlternating := by
  cases grid with
  | mk mode horAngles verAngles maxRange =>
      cases mode with
      | none => exact iff_of_true ⟨.kFixed, rfl⟩ nofun
      | some mode =>
          cases mode with
          | kFixed => exact iff_of_true ⟨.kFixed, rfl⟩ nofun
          | OBSELETE_kAlternating =>
              -- The number 1 is kept, and `kFixed` is the only client
              -- enumerator.
              refine iff_of_false ?_ (fun other => other rfl)
              rintro ⟨mode, declared⟩
              contradiction

theorem convertTargetData_wellFormed {data : Proto.TargetData} :
    (convertTargetData data).WellFormed ↔
      ∀ grid, data.gridDescription = some grid →
        grid.mode ≠ some .OBSELETE_kAlternating := by
  cases held : data.gridDescription with
  | none => simp [TargetData.WellFormed, convertTargetData, held]
  | some grid =>
      simp [TargetData.WellFormed, convertTargetData, held,
        convertGridDescription_wellFormed]

/-- Converting yields a well-formed value, and converting the message of that
value yields it once more. -/
def Retracts (data : Proto.TargetData) : Prop :=
  (convertTargetData data).WellFormed ∧
    convertTargetData (convertTargetData data).toProto =
    (convertTargetData data).untimed

/-- Client values are recovered from their messages, and messages are retracted
onto them exactly if a grid description, where there is one, does not have the
obsolete mode. -/
theorem conversions_retract_iff (target : TargetData)
    (hydrophone : HydrophoneData) (targetProto : Proto.TargetData)
    (hydrophoneProto : Proto.HydrophoneData) :
    (target.WellFormed → convertTargetData target.toProto = target.untimed) ∧
    convertHydrophoneData hydrophone.toProto = hydrophone.untimed ∧
    convertHydrophoneData (convertHydrophoneData hydrophoneProto).toProto =
      (convertHydrophoneData hydrophoneProto).untimed ∧
    (Retracts targetProto ↔ ∀ grid, targetProto.gridDescription = some grid →
      grid.mode ≠ some .OBSELETE_kAlternating) := by
  refine ⟨convertTargetData_toProto, convertHydrophoneData_toProto _,
    convertHydrophoneData_toProto _, ?_⟩
  rw [← convertTargetData_wellFormed]
  constructor
  · intro retracts
    exact retracts.1
  · intro wellFormed
    exact ⟨wellFormed, convertTargetData_toProto wellFormed⟩

/-- A frame of two groups on a fixed grid. -/
theorem conversions_retract_iff_fixed :
    convertTargetData (TargetData.toProto
        { groups := [{ bins := [{ horIndex := 1 }, { horIndex := 2 }] }, {}]
          gridDescription := some { horAngles := [4611686018427387904] } }) =
      { groups := [{ bins := [{ horIndex := 1 }, { horIndex := 2 }] }, {}]
        gridDescription := some { horAngles := [4611686018427387904] } } ∧
    Retracts { bottom := [{ depth := some 1092616192 }]
               gridDescription := some { mode := some .kFixed } } := by
  have wellFormed : TargetData.WellFormed
      { groups := [{ bins := [{ horIndex := 1 }, { horIndex := 2 }] }, {}]
        gridDescription := some { horAngles := [4611686018427387904] } } := by
    intro grid held
    obtain rfl := Option.some.inj held
    exact ⟨.kFixed, rfl⟩
  have laws := conversions_retract_iff
    { groups := [{ bins := [{ horIndex := 1 }, { horIndex := 2 }] }, {}]
      gridDescription := some { horAngles := [4611686018427387904] } } {}
    { bottom := [{ depth := some 1092616192 }]
      gridDescription := some { mode := some .kFixed } } {}
  refine ⟨laws.1 wellFormed, laws.2.2.2.mpr ?_⟩
  intro grid held
  obtain rfl := Option.some.inj held
  exact nofun

/-- The obsolete mode becomes a `GridMode` that is not an enumerator. -/
theorem alternating_grid_not_retracted :
    convertTargetData
      { gridDescription := some { mode := some .OBSELETE_kAlternating } } =
        { gridDescription := some { mode := ⟨1⟩ } } ∧
      (⟨1⟩ : EnumValue GridMode).declared? = none ∧
      ¬ Retracts
      { gridDescription := some { mode := some .OBSELETE_kAlternating } } := by
  refine ⟨rfl, rfl, ?_⟩
  intro retracts
  exact convertTargetData_wellFormed.mp retracts.1 _ rfl rfl

end Farsounder
