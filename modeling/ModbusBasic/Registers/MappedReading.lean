import ModbusBasic.Registers.MappedValidation
import ModbusBasic.Registers.RegisterControl

namespace Modbus

open Memory TypeConversion

/-!
# The windows a mapped store is asked to fill

A mapped store passes the window it is given on to the memory controller, whose
`GetField` copies as many bytes as the window is long.  The two reading handlers
compute the window from the length of the response: for holding registers after
the header has set that length, for input registers before, when it still counts
the two bytes of the checksum.
-/

/-- A memory controller that reads and writes nothing.  What it answers depends
on the index of the field, and on the start and the size of the window. -/
structure FieldProbe (offsets endPoints : List Nat) where
  answer : Nat -> Nat -> Nat -> Checked Unit

instance (offsets endPoints : List Nat) : MemoryController (FieldProbe offsets endPoints) where
  offsets := offsets
  endPoints := endPoints
  setField probe _ _ := .ok probe
  getField probe index window :=
    probe.answer index window.start window.size >>= fun _ => .ok window

/-- The reading path calls `GetField` with this index, start and size: whatever
a memory controller answers to that call, the path ends with. -/
def Asks {offsets endPoints : List Nat}
    (read : FieldProbe offsets endPoints -> Checked (Int × Response)) (index start size : Nat) :
    Prop :=
  forall (probe : FieldProbe offsets endPoints) (fault : Fault),
    probe.answer index start size = .error fault -> read probe = .error fault

variable [TypeConversion] {n : Nat} {frame : Frame n} {address count : UInt16} {index : Nat}

/-! ## The two handlers over any controller -/

section Handlers

variable {T : Type} [MemoryController T]

omit [TypeConversion] in
/-- An entry is admitted and found. -/
private theorem entry_found (store : MappedRegisterDataStore T)
    (map : WellFormedMap (MemoryController.offsets T) (MemoryController.endPoints T))
    (spans : Spans (MemoryController.offsets T) (MemoryController.endPoints T) address.toNat
      count.toNat index) :
    store.readLocationValid address.toNat count.toNat = true ∧
      store.getMemoryMapEntryIndex address.toNat = index :=
  ⟨checkLocationValid_of_spans map spans, store.getMemoryMapEntryIndex_eq map spans.2.1⟩

/-- The window for holding registers has room for the registers alone. -/
theorem runReadMultipleHoldingRegisters_getField
    (map : WellFormedMap (MemoryController.offsets T) (MemoryController.endPoints T))
    (spans : Spans (MemoryController.offsets T) (MemoryController.endPoints T) address.toNat
      count.toNat index)
    (addressed : DataCommand.readAddressStart frame.dataArray = .ok address)
    (counted : ReadMultipleRegistersCommandBase.readRegisterCount frame.dataArray = .ok count)
    (response : Response) :
    Exists fun cells : Vector UInt8 256 => Exists fun finish : Vector UInt8 256 -> Response =>
      forall store : MappedRegisterDataStore T,
        HoldingRegisterController.runReadMultipleHoldingRegisters ⟨store⟩ frame response =
        MemoryController.getField store.memoryController index
          { cells := cells, start := 3, size := 2 * count.toNat } >>= fun window =>
            .ok (0, finish window.cells) := by
  let sized := response.setLength
    (min response.size ((UInt8.ofNat (2 * count.toNat)).toNat + 3 + 2))
  let headed := ReadMultipleHoldingRegistersCommand.fillResponseHeader frame.address count.toNat
    sized
  have size : headed.getLength - 3 = 2 * count.toNat := by
    change 3 + count.toNat * 2 - 3 = _
    omega
  refine ⟨headed.data, fun cells => { headed with data := cells }, fun store => ?_⟩
  rcases entry_found store map spans with ⟨valid, found⟩
  let controller : HoldingRegisterController (MappedRegisterDataStore T) := ⟨store⟩
  let window : Window UInt8 256 :=
    { cells := headed.data, start := 3, size := headed.getLength - 3 }
  have read : controller.readRegisters address count window =
        MemoryController.getField store.memoryController index
          { cells := headed.data, start := 3, size := 2 * count.toNat } := by
    have admitted : controller.readLocationValid address.toNat count.toNat = true := valid
    rw [HoldingRegisterController.readRegisters, admitted]
    change store.getRegisters address.toNat count.toNat ⟨headed.data, 3, headed.getLength - 3⟩ = _
    rw [size]
    exact store.getRegisters_eq found _
  rw [HoldingRegisterController.runReadMultipleHoldingRegisters, addressed, ok_bind, counted,
    ok_bind]
  change (controller.readRegisters address count window >>= _) = _
  rw [read]
  rfl

/-- The window for input registers still has room for the checksum. -/
theorem runReadInputRegisters_getField
    (map : WellFormedMap (MemoryController.offsets T) (MemoryController.endPoints T))
    (spans : Spans (MemoryController.offsets T) (MemoryController.endPoints T) address.toNat
      count.toNat index)
    (short : count.toNat ≤ 125)
    (addressed : DataCommand.readAddressStart frame.dataArray = .ok address)
    (counted : ReadMultipleRegistersCommandBase.readRegisterCount frame.dataArray = .ok count)
    (response : Response) :
    Exists fun cells : Vector UInt8 256 => Exists fun finish : Vector UInt8 256 -> Response =>
      forall store : MappedRegisterDataStore T,
        InputRegisterController.runReadInputRegisters ⟨store⟩ frame response =
        MemoryController.getField store.memoryController index
          { cells := cells, start := 3, size := 2 * count.toNat + 2 } >>= fun window =>
            .ok (0, finish window.cells) := by
  let sized := response.setLength
    (min response.size ((UInt8.ofNat (2 * count.toNat)).toNat + 3 + 2))
  have size : sized.getLength - 3 = 2 * count.toNat + 2 := by
    change min 256 ((UInt8.ofNat (2 * count.toNat)).toNat + 3 + 2) - 3 = _
    rw [UInt8.toNat_ofNat', Nat.mod_eq_of_lt (by omega)]
    omega
  refine ⟨sized.data, fun cells => ReadInputRegistersCommand.fillResponseHeader frame.address
    count.toNat { sized with data := cells }, fun store => ?_⟩
  rcases entry_found store map spans with ⟨valid, found⟩
  let controller : InputRegisterController (MappedRegisterDataStore T) := ⟨store⟩
  let window : Window UInt8 256 :=
    { cells := sized.data, start := 3, size := sized.getLength - 3 }
  have read : controller.readRegisters address count window =
        MemoryController.getField store.memoryController index
          { cells := sized.data, start := 3, size := 2 * count.toNat + 2 } := by
    have admitted : controller.readLocationValid address.toNat count.toNat = true := valid
    rw [InputRegisterController.readRegisters, admitted]
    change store.getRegisters address.toNat count.toNat ⟨sized.data, 3, sized.getLength - 3⟩ = _
    rw [size]
    exact store.getRegisters_eq found _
  rw [InputRegisterController.runReadInputRegisters, counted, ok_bind, addressed, ok_bind]
  change (controller.readRegisters address count window >>= _) = _
  rw [read]
  rfl

end Handlers

/-! ## The windows compared -/

section Windows

variable {offsets endPoints : List Nat}

omit [TypeConversion] in
/-- A path that makes one call asks for that window, and for no other. -/
theorem asks_iff {read : FieldProbe offsets endPoints -> Checked (Int × Response)}
    {cells : Vector UInt8 256} {finish : Vector UInt8 256 -> Response} {index start size : Nat}
    (calls : forall probe, read probe = MemoryController.getField probe index
      { cells := cells, start := start, size := size } >>= fun window =>
        .ok (0, finish window.cells)) (other : Nat) :
    Asks read index start other <-> other = size := by
  constructor
  · intro asks
    -- A controller that refuses the window in question and grants every other.
    let refusing : FieldProbe offsets endPoints :=
      ⟨fun _ _ asked => if asked = other then .error ⟨0, 0⟩ else .ok ()⟩
    have refused := asks refusing ⟨0, 0⟩ (if_pos rfl)
    rw [calls] at refused
    apply Classical.byContradiction
    intro different
    have granted : refusing.answer index start size = .ok () := if_neg (Ne.symm different)
    change ((refusing.answer index start size >>= fun _ => Except.ok _) >>= _) = _ at refused
    rw [granted] at refused
    cases refused
  · rintro rfl probe fault refused
    rw [calls]
    change ((probe.answer index start other >>= fun _ => Except.ok _) >>= _) = _
    rw [refused]
    rfl

/-- Function 3 over a mapped store. -/
def holdingPath (frame : Frame n) (response : Response) (probe : FieldProbe offsets endPoints) :
    Checked (Int × Response) :=
  let controller :
      HoldingRegisterController (MappedRegisterDataStore (FieldProbe offsets endPoints)) :=
    ⟨{ memoryController := probe }⟩
  controller.runReadMultipleHoldingRegisters frame response

/-- Function 4 over a mapped store. -/
def inputPath (frame : Frame n) (response : Response) (probe : FieldProbe offsets endPoints) :
    Checked (Int × Response) :=
  let controller :
      InputRegisterController (MappedRegisterDataStore (FieldProbe offsets endPoints)) :=
    ⟨{ memoryController := probe }⟩
  controller.runReadInputRegisters frame response

variable (map : WellFormedMap offsets endPoints)
  (spans : Spans offsets endPoints address.toNat count.toNat index) (short : count.toNat ≤ 125)
  (addressed : DataCommand.readAddressStart frame.dataArray = .ok address)
  (counted : ReadMultipleRegistersCommandBase.readRegisterCount frame.dataArray = .ok count)

include map spans addressed counted in
theorem holdingPath_asks (response : Response) (size : Nat) :
    Asks (holdingPath frame response : FieldProbe offsets endPoints -> _) index 3 size <->
      size = 2 * count.toNat := by
  rcases runReadMultipleHoldingRegisters_getField (T := FieldProbe offsets endPoints) map spans
    addressed counted response with ⟨cells, finish, calls⟩
  exact asks_iff (fun probe => calls { memoryController := probe }) size

include map spans short addressed counted in
theorem inputPath_asks (response : Response) (size : Nat) :
    Asks (inputPath frame response : FieldProbe offsets endPoints -> _) index 3 size <->
      size = 2 * count.toNat + 2 := by
  rcases runReadInputRegisters_getField (T := FieldProbe offsets endPoints) map spans short
    addressed counted response with ⟨cells, finish, calls⟩
  exact asks_iff (fun probe => calls { memoryController := probe }) size

include map spans short addressed counted in
/-- For no complete entry do both paths ask for the bytes of its registers: the
one for input registers always asks for two more. -/
theorem readPaths_never_agree (response : Response) :
    ¬ (Asks (holdingPath frame response : FieldProbe offsets endPoints -> _) index 3
          (2 * count.toNat) ∧
        Asks (inputPath frame response : FieldProbe offsets endPoints -> _) index 3
          (2 * count.toNat)) ∧
      Asks (holdingPath frame response : FieldProbe offsets endPoints -> _) index 3
        (2 * count.toNat) ∧
      Asks (inputPath frame response : FieldProbe offsets endPoints -> _) index 3
        (2 * count.toNat + 2) := by
  have holding := holdingPath_asks map spans addressed counted response
  have input := inputPath_asks map spans short addressed counted response
  refine ⟨fun both => ?_, (holding _).mpr rfl, (input _).mpr rfl⟩
  have same := (input _).mp both.2
  omega

omit [TypeConversion] in
/-- The first of two adjacent fields, of ten registers. -/
theorem readPaths_first_field :
    letI := TypeConversion.shifting
    letI frame : Frame 4 := { dataLength := 4, dataArray := #v[0, 2, 0, 10] }
    Asks (holdingPath frame {} : FieldProbe [2, 12] [11, 13] -> _) 0 3 20 ∧
      Asks (inputPath frame {} : FieldProbe [2, 12] [11, 13] -> _) 0 3 22 := by
  let conversion := TypeConversion.shifting
  let frame : Frame 4 := { dataLength := 4, dataArray := #v[0, 2, 0, 10] }
  have spans : Spans [2, 12] [11, 13] (2 : UInt16).toNat (10 : UInt16).toNat 0 :=
    ⟨by decide, rfl, rfl⟩
  have addressed : DataCommand.readAddressStart frame.dataArray = .ok 2 := rfl
  have counted : ReadMultipleRegistersCommandBase.readRegisterCount frame.dataArray = .ok 10 := rfl
  exact (readPaths_never_agree MappedRegisterDataStore.twoFields_wellFormed spans (by decide)
    addressed counted {}).2

omit [TypeConversion] in
/-- A memory controller that refuses the window of twenty bytes of its ten
registers is refused by one path and not by the other. -/
theorem inputPath_overlong :
    letI := TypeConversion.shifting
    letI frame : Frame 4 := { dataLength := 4, dataArray := #v[0, 2, 0, 10] }
    ¬ (Asks (holdingPath frame {} : FieldProbe [2, 12] [11, 13] -> _) 0 3 20 ∧
      Asks (inputPath frame {} : FieldProbe [2, 12] [11, 13] -> _) 0 3 20) := by
  let conversion := TypeConversion.shifting
  let frame : Frame 4 := { dataLength := 4, dataArray := #v[0, 2, 0, 10] }
  let probe : FieldProbe [2, 12] [11, 13] :=
    ⟨fun _ _ size => if size = 20 then .error ⟨0, 0⟩ else .ok ()⟩
  intro both
  have refused := both.2 probe ⟨0, 0⟩ rfl
  have completes : Exists fun result => inputPath frame {} probe = .ok result := ⟨_, rfl⟩
  rcases completes with ⟨result, completes⟩
  rw [refused] at completes
  cases completes

end Windows

end Modbus
