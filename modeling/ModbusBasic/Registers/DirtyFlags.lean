import ModbusBasic.Registers.Execution
import ModbusBasic.Transition.Runs

namespace Modbus

open Memory TypeConversion Transition

/-!
# Dirty flags

An updating store raises a flag for every register written, so that its owner
can ask what changed since it last cleared the flags.  Each flag is kept under
the 16-bit address of its register, and both the summary and the clearing stop
in front of the last flag.  `Noticed` is what a step has to meet for the flags
to tell the truth after it.
-/

variable {n : Nat}

/-- A frame that holds a whole write request. -/
structure WriteCommand where
  size : Nat
  frame : Frame size
  slaveAddress : UInt8
  request : Request
  footer : List UInt8
  writes : request.function = .kWriteSingleHoldingRegister ∨
    request.function = .kWriteMultipleHoldingRegisters
  countable : request.Countable
  holds : Holds frame slaveAddress request.function (request.payload ++ footer)

/-- The frame with just this request in it. -/
def Request.command (request : Request) (slaveAddress : UInt8)
    (writes : request.function = .kWriteSingleHoldingRegister ∨
      request.function = .kWriteMultipleHoldingRegisters)
    (countable : request.Countable) : WriteCommand where
  size := request.payload.length
  slaveAddress := slaveAddress
  frame := requestFrame slaveAddress request.function request.payload
  request := request
  footer := []
  writes := writes
  countable := countable
  holds := by
    rw [List.append_nil]
    exact requestFrame_holds slaveAddress request.function request.payload

inductive StoreEvent
  | command (command : WriteCommand)
  | clearNewDataFlags

/-- A controller, and the requests it has run since the flags were cleared. -/
structure Watched (n : Nat) where
  controller : HoldingRegisterController (UpdatingRegisterDataStore n)
  since : List Request
deriving DecidableEq

namespace Watched

def start (store : UpdatingRegisterDataStore n) : Watched n := ⟨⟨store⟩, []⟩

def store (watched : Watched n) : UpdatingRegisterDataStore n := watched.controller.registerData

/-- The register was in the range of a write since the last clear. -/
def Written (watched : Watched n) (address : Nat) : Prop :=
  Exists fun request => request ∈ watched.since ∧ request.Names address

/-- The flags say which registers were written, and the summary whether any was. -/
structure Exact (watched : Watched n) : Prop where
  flagSet : forall address, address < n -> Exists fun on =>
    watched.store.flagSet address = .ok on ∧ (on = true <-> watched.Written address)
  newDataAvailable : Exists fun on => watched.store.newDataAvailable = .ok on ∧
    (on = true <-> Exists fun address => address < n ∧ watched.Written address)

section Steps

variable [TypeConversion]

def step (watched : Watched n) : StoreEvent -> Checked (Watched n)
  | .command command => do
      let (_, controller, _) <- watched.controller.readFrame command.frame {}
      return ⟨controller, watched.since ++ [command.request]⟩
  | .clearNewDataFlags => do
      let registerData <- watched.store.clearNewDataFlags
      return ⟨⟨registerData⟩, []⟩

/-- Commands are run once they are validated. -/
def Validated (watched : Watched n) : StoreEvent -> Prop
  | .command command => watched.controller.validateFrame command.frame = .ok .kAck
  | .clearNewDataFlags => True

instance (watched : Watched n) : (event : StoreEvent) -> Decidable (watched.Validated event)
  | .command _ => inferInstanceAs (Decidable (_ = _))
  | .clearNewDataFlags => isTrue True.intro

end Steps

/-- No register from `65536` on is written; the last register is written only
together with another one, or while another flag is raised already; and the flags
are cleared only while the last one is down. -/
def Noticed (watched : Watched n) : StoreEvent -> Prop
  | .command command =>
      (forall address, address < n -> command.request.Names address -> address < 65536) ∧
      (command.request.Names (n - 1) -> Exists fun address => address < n - 1 ∧
        (command.request.Names address ∨ watched.store.flagSet address = .ok true))
  | .clearNewDataFlags => watched.store.flagSet (n - 1) = .ok false

instance (watched : Watched n) : (event : StoreEvent) -> Decidable (watched.Noticed event)
  | .command _ => inferInstanceAs (Decidable (_ ∧ _))
  | .clearNewDataFlags => inferInstanceAs (Decidable (_ = _))

end Watched

/-! ## The flags of a store that is not empty -/

namespace UpdatingRegisterDataStore

variable (store : UpdatingRegisterDataStore n)

theorem flagSet_eq (index : Fin n) : store.flagSet index = .ok (store.flagged index) := by
  have bound := index.isLt
  have last : min index.val (SizeT.sub n 1) = index.val := by
    rw [SizeT.sub_of_le (by omega)]
    omega
  rw [flagSet, last, load_ok _ bound]
  rfl

theorem newDataAvailable_eq (nonempty : 0 < n) :
    Exists fun on => store.newDataAvailable = .ok on ∧
      (on = true <-> Exists fun index : Fin n => index.val < n - 1 ∧ store.flagged index = true) := by
  refine ⟨(store.flags.toList.take (n - 1)).any id, ?_, ?_⟩
  · rw [newDataAvailable, summarised, if_neg (Nat.ne_of_gt nonempty), ok_bind, pure_eq_ok]
  · rw [List.any_eq_true]
    constructor
    · rintro ⟨flag, member, raised⟩
      rcases List.mem_take_iff_getElem.mp member with ⟨position, bound, same⟩
      rw [Vector.length_toList] at bound
      refine ⟨⟨position, by omega⟩, by change position < n - 1; omega, ?_⟩
      rw [← same] at raised
      exact raised
    · rintro ⟨index, before, raised⟩
      refine ⟨true, List.mem_take_iff_getElem.mpr ⟨index.val, ?_, ?_⟩, rfl⟩
      · rw [Vector.length_toList]
        omega
      · exact raised

theorem clearNewDataFlags_eq (nonempty : 0 < n) :
    Exists fun result => store.clearNewDataFlags = .ok result ∧
      forall index, result.flagged index = true <->
        index.val = n - 1 ∧ store.flagged index = true := by
  have length : (store.flags.toList.take (n - 1)).length = n - 1 := by
    rw [List.length_take, Vector.length_toList]
    omega
  rcases forRange_ok (fun index flags => Memory.store flags index false) store.flags
      (fun rounds flags => forall index : Fin n,
        flags[index] = true <-> rounds ≤ index.val ∧ store.flagged index = true)
      (n - 1) (fun index => (and_iff_right (Nat.zero_le index.val)).symm) (by
        intro rounds flags before kept
        have bound : rounds < n := by omega
        refine ⟨flags.set rounds false, store_ok _ _ bound, fun index => ?_⟩
        simp only [Fin.getElem_fin, Vector.getElem_set]
        by_cases here : rounds = index.val
        · rw [if_pos here]
          constructor
          · intro raised
            cases raised
          · rintro ⟨later, _⟩
            omega
        · rw [if_neg here]
          have previous := kept index
          rw [Fin.getElem_fin] at previous
          rw [previous]
          apply and_congr_left
          intro _
          omega)
    with ⟨flags, completes, cleared⟩
  refine ⟨{ store with flags := flags }, ?_, fun index => ?_⟩
  · rw [clearNewDataFlags, summarised, if_neg (Nat.ne_of_gt nonempty), ok_bind, length, completes,
      ok_bind, pure_eq_ok]
  · have bound := index.isLt
    change flags[index] = true <-> _
    rw [cleared]
    apply and_congr_left
    intro _
    omega

theorem clearNewDataFlags_registers {store result : UpdatingRegisterDataStore n}
    (completes : store.clearNewDataFlags = .ok result) :
    result.toRegisterDataStore = store.toRegisterDataStore := by
  rw [clearNewDataFlags] at completes
  rcases bind_eq_ok.mp completes with ⟨range, _, filling⟩
  rcases bind_eq_ok.mp filling with ⟨flags, _, same⟩
  cases same
  rfl

end UpdatingRegisterDataStore

namespace Watched

variable {watched next : Watched n}

theorem exact_iff (nonempty : 0 < n) :
    watched.Exact <->
      (forall index : Fin n, watched.store.flagged index = true <-> watched.Written index) ∧
      ((Exists fun index : Fin n => index.val < n - 1 ∧ watched.store.flagged index = true) <->
        Exists fun address => address < n ∧ watched.Written address) := by
  rcases watched.store.newDataAvailable_eq nonempty with ⟨summary, summarised, available⟩
  constructor
  · rintro ⟨flagSet, on, same, meaning⟩
    constructor
    · intro index
      rcases flagSet index.val index.isLt with ⟨flag, read, meaning⟩
      rw [watched.store.flagSet_eq] at read
      cases read
      exact meaning
    · rw [summarised] at same
      cases same
      exact available.symm.trans meaning
  · rintro ⟨flags, meaning⟩
    exact ⟨fun address inside => ⟨_, watched.store.flagSet_eq ⟨address, inside⟩,
      flags ⟨address, inside⟩⟩, summary, summarised, available.trans meaning⟩

/-- Nothing counts as written after a clear. -/
theorem not_written_of_clear (since : next.since = []) (address : Nat) : ¬ next.Written address := by
  rintro ⟨request, member, _⟩
  rw [since] at member
  cases member

theorem exact_start (store : UpdatingRegisterDataStore n) (nonempty : 0 < n)
    (clean : forall index, store.flagged index = false) : (start store).Exact := by
  apply (exact_iff nonempty).mpr
  have since : (start store).since = [] := rfl
  constructor
  · intro index
    constructor
    · intro raised
      exact absurd raised (Bool.eq_false_iff.mp (clean index))
    · intro written
      exact absurd written (not_written_of_clear since index)
  · constructor
    · rintro ⟨index, _, raised⟩
      exact absurd raised (Bool.eq_false_iff.mp (clean index))
    · rintro ⟨address, _, written⟩
      exact absurd written (not_written_of_clear since address)

/-! ## One step -/

/-- What is written since the last clear, after a command. -/
theorem written_append {command : WriteCommand}
    (since : next.since = watched.since ++ [command.request]) (address : Nat) :
    next.Written address <-> watched.Written address ∨ command.request.Names address := by
  unfold Written
  simp only [since, List.mem_append, List.mem_singleton, or_and_right, exists_or, exists_eq_left]

section Steps

variable [TypeConversion]

/-- What a validated command does. -/
theorem step_command {command : WriteCommand} (validated : watched.Validated (.command command)) :
    Exists fun next => watched.step (.command command) = .ok next ∧
      next.since = watched.since ++ [command.request] ∧
      (forall register, command.request.Names register -> register < n) ∧
      forall index : Fin n, next.store.flagged index = true <->
        watched.store.flagged index = true ∨
          Exists fun register => command.request.Names register ∧ index.val = register % 65536 := by
  have holding : getAddressSpaceFromFunction command.request.function = .kHoldingRegister := by
    rcases command.writes with single | multiple
    · rw [single]
      rfl
    · rw [multiple]
      rfl
  have notRead : command.request.readCount = 0 := by
    rcases command.writes with single | multiple
    · cases request : command.request with
      | writeSingle address value => rfl
      | _ => rw [request] at single; cases single
    · cases request : command.request with
      | writeMultiple address count data => rfl
      | _ => rw [request] at multiple; cases multiple
  have verdict := watched.controller.validateFrame_request watched.store.ranged command.countable
    holding command.holds 0
  have acknowledged : command.request.verdict n 0 = .kAck := by
    rw [show watched.controller.validateFrame command.frame = .ok .kAck from validated] at verdict
    exact (Except.ok.inj verdict).symm
  rcases executes_acknowledged watched.store (⟨#v[]⟩ : RegisterDataStore 0) acknowledged
    (by omega) with ⟨registerData, data, executes, flags⟩
  rcases HoldingRegisterController.readFrame_executes executes holding command.holds
    Response.inside_empty with ⟨reply, completes, _⟩
  refine ⟨⟨⟨registerData⟩, watched.since ++ [command.request]⟩, ?_, rfl,
    fun _ => Request.names_lt acknowledged, flags⟩
  rw [step, show watched.controller.readFrame command.frame {} = _ from completes, ok_bind]
  rfl

theorem step_clear (watched : Watched n) (nonempty : 0 < n) :
    Exists fun next => watched.step .clearNewDataFlags = .ok next ∧ next.since = [] ∧
      forall index, next.store.flagged index = true <->
        index.val = n - 1 ∧ watched.store.flagged index = true := by
  rcases watched.store.clearNewDataFlags_eq nonempty with ⟨registerData, completes, flags⟩
  refine ⟨⟨⟨registerData⟩, []⟩, ?_, rfl, flags⟩
  rw [step, completes, ok_bind, pure_eq_ok]

/-- Clearing while the last flag is down keeps the flags exact. -/
theorem exact_clear (nonempty : 0 < n) (noticed : watched.Noticed .clearNewDataFlags) :
    Exists fun next => watched.step .clearNewDataFlags = .ok next ∧ next.Exact := by
  rcases step_clear watched nonempty with ⟨next, completes, since, cleared⟩
  have down : forall index, ¬ next.store.flagged index = true := by
    intro index raised
    rcases (cleared index).mp raised with ⟨last, kept⟩
    have lastDown : watched.store.flagSet index = .ok false := by
      rw [last]
      exact noticed
    rw [watched.store.flagSet_eq, kept] at lastDown
    cases lastDown
  refine ⟨next, completes, (exact_iff nonempty).mpr ⟨fun index => ?_, ?_⟩⟩
  · exact iff_of_false (down index) (not_written_of_clear since index)
  · apply iff_of_false
    · rintro ⟨index, _, raised⟩
      exact down index raised
    · rintro ⟨address, _, written⟩
      exact not_written_of_clear since address written

/-- So does a write that leaves a flag for the summary to find. -/
theorem exact_command (nonempty : 0 < n) {command : WriteCommand} (exact : watched.Exact)
    (validated : watched.Validated (.command command))
    (noticed : watched.Noticed (.command command)) :
    Exists fun next => watched.step (.command command) = .ok next ∧ next.Exact := by
  rcases (exact_iff nonempty).mp exact with ⟨flags, available⟩
  rcases step_command validated with ⟨next, completes, since, inside, raised⟩
  rcases noticed with ⟨low, last⟩
  have exactly : forall index : Fin n, next.store.flagged index = true <-> next.Written index := by
    intro index
    rw [raised, written_append since, flags]
    apply or_congr_right
    constructor
    · rintro ⟨register, names, same⟩
      rw [Nat.mod_eq_of_lt (low register (inside register names) names)] at same
      rw [same]
      exact names
    · intro names
      exact ⟨index, names, (Nat.mod_eq_of_lt (low index index.isLt names)).symm⟩
  refine ⟨next, completes, (exact_iff nonempty).mpr ⟨exactly, ?_, ?_⟩⟩
  · rintro ⟨index, _, flag⟩
    exact ⟨index, index.isLt, (exactly index).mp flag⟩
  · rintro ⟨address, bound, written⟩
    rcases (written_append since address).mp written with earlier | names
    · rcases available.mpr ⟨address, bound, earlier⟩ with ⟨index, before, flag⟩
      exact ⟨index, before, (raised index).mpr (Or.inl flag)⟩
    · rcases Nat.lt_or_ge address (n - 1) with before | notBefore
      · exact ⟨⟨address, bound⟩, before, (exactly ⟨address, bound⟩).mpr written⟩
      · have atEnd : address = n - 1 := Nat.le_antisymm (Nat.le_sub_one_of_lt bound) notBefore
        rw [atEnd] at names
        rcases last names with ⟨other, before, named | flag⟩
        · have within : other < n := Nat.lt_of_lt_of_le before (Nat.sub_le n 1)
          exact ⟨⟨other, within⟩, before,
            (exactly ⟨other, within⟩).mpr ((written_append since other).mpr (Or.inr named))⟩
        · have within : other < n := Nat.lt_of_lt_of_le before (Nat.sub_le n 1)
          rw [watched.store.flagSet_eq ⟨other, within⟩] at flag
          exact ⟨⟨other, within⟩, before, (raised _).mpr (Or.inl (Except.ok.inj flag))⟩

/-- A step that is noticed keeps the flags exact. -/
theorem exact_step (nonempty : 0 < n) {event : StoreEvent} (exact : watched.Exact)
    (validated : watched.Validated event) (noticed : watched.Noticed event) :
    Exists fun next => watched.step event = .ok next ∧ next.Exact := by
  cases event with
  | command command => exact exact_command nonempty exact validated noticed
  | clearNewDataFlags => exact exact_clear nonempty noticed

/-! ## Whole runs -/

/-- Flags from `65536` on are never raised. -/
def Low (watched : Watched n) : Prop :=
  forall index : Fin n, watched.store.flagged index = true -> index.val < 65536

theorem low_step (nonempty : 0 < n) {event : StoreEvent} (low : watched.Low)
    (validated : watched.Validated event) :
    Exists fun next => watched.step event = .ok next ∧ next.Low := by
  cases event with
  | clearNewDataFlags =>
      rcases step_clear watched nonempty with ⟨next, completes, _, cleared⟩
      exact ⟨next, completes, fun index raised => low index ((cleared index).mp raised).2⟩
  | command command =>
      rcases step_command validated with ⟨next, completes, _, _, raised⟩
      refine ⟨next, completes, fun index flag => ?_⟩
      rcases (raised index).mp flag with earlier | ⟨register, _, same⟩
      · exact low index earlier
      · rw [same]
        exact Nat.mod_lt register (by decide)

/-- After a clear that is not noticed the last flag is still up. -/
theorem noticed_of_exact_clear (nonempty : 0 < n)
    (stepped : watched.step .clearNewDataFlags = .ok next) (after : next.Exact) :
    watched.Noticed .clearNewDataFlags := by
  rcases (exact_iff nonempty).mp after with ⟨flags, _⟩
  rcases step_clear watched nonempty with ⟨same, completes, since, cleared⟩
  rw [stepped] at completes
  cases completes
  let last : Fin n := ⟨n - 1, Nat.sub_lt nonempty Nat.one_pos⟩
  change watched.store.flagSet last = .ok false
  rw [watched.store.flagSet_eq]
  apply congrArg
  apply Bool.eq_false_iff.mpr
  intro raised
  exact not_written_of_clear since last ((flags last).mp ((cleared last).mpr ⟨rfl, raised⟩))

/-- After a write that is not noticed a flag or the summary is missing. -/
theorem noticed_of_exact_command (nonempty : 0 < n) {command : WriteCommand} (low : watched.Low)
    (validated : watched.Validated (.command command))
    (stepped : watched.step (.command command) = .ok next) (after : next.Exact) :
    watched.Noticed (.command command) := by
  rcases (exact_iff nonempty).mp after with ⟨flags, available⟩
  rcases step_command validated with ⟨same, completes, since, inside, raised⟩
  rw [stepped] at completes
  cases completes
  have small : forall address, address < n -> command.request.Names address -> address < 65536 := by
    intro address bound names
    have written : next.Written address := (written_append since address).mpr (Or.inr names)
    rcases (raised ⟨address, bound⟩).mp ((flags ⟨address, bound⟩).mpr written) with
      earlier | ⟨register, _, same⟩
    · exact low ⟨address, bound⟩ earlier
    · change address = _ at same
      rw [same]
      exact Nat.mod_lt register (by decide)
  refine ⟨small, fun names => ?_⟩
  have bound : n - 1 < n := Nat.sub_lt nonempty Nat.one_pos
  rcases available.mpr ⟨n - 1, bound, (written_append since _).mpr (Or.inr names)⟩ with
    ⟨index, inFront, flag⟩
  refine ⟨index, inFront, ?_⟩
  rcases (raised index).mp flag with earlier | ⟨register, named, same⟩
  · right
    rw [watched.store.flagSet_eq, earlier]
  · left
    rw [Nat.mod_eq_of_lt (small register (inside register named) named)] at same
    rw [same]
    exact named

/-- After a step that is not noticed the flags are not exact. -/
theorem noticed_of_exact (nonempty : 0 < n) {event : StoreEvent} (low : watched.Low)
    (validated : watched.Validated event) (stepped : watched.step event = .ok next)
    (after : next.Exact) : watched.Noticed event := by
  cases event with
  | command command => exact noticed_of_exact_command nonempty low validated stepped after
  | clearNewDataFlags => exact noticed_of_exact_clear nonempty stepped after

/-- The flags and their summary tell exactly what was written since the last
clear, all along a run of validated writes and clears, if and only if each step
of it is noticed. -/
theorem dirty_flags_exact_iff (store : UpdatingRegisterDataStore n) (nonempty : 0 < n)
    (clean : forall index, store.flagged index = false) (events : List StoreEvent)
    (validated : Admitted step Validated (start store) events) :
    ((Exists fun final => run step (start store) events = .ok final) ∧
      Always step Exact (start store) events) <->
      Admitted step Noticed (start store) events := by
  constructor
  · rintro ⟨⟨final, completes⟩, always⟩ front event rest reached split arrived
    have lowAtStart : (start store).Low :=
      fun index raised => absurd raised (Bool.eq_false_iff.mp (clean index))
    have lowAlong := validated.always Low (fun _ _ low admits => low_step nonempty low admits)
      lowAtStart
    have admits := validated front event rest reached split arrived
    have low := lowAlong front (event :: rest) reached split arrived
    rcases low_step nonempty low admits with ⟨next, stepped, _⟩
    have after : next.Exact := by
      apply always (front ++ [event]) rest next
      · rw [← split, List.append_assoc, List.singleton_append]
      · rw [run_concat, arrived, ok_bind, stepped]
    exact noticed_of_exact nonempty low admits stepped after
  · intro noticed
    have exactAtStart := exact_start store nonempty clean
    have admitted := validated.and noticed
    rcases admitted.completes Exact (fun _ _ exact admits =>
      exact_step nonempty exact admits.1 admits.2) exactAtStart with ⟨final, completes, _⟩
    exact ⟨⟨final, completes⟩, admitted.always Exact (fun _ _ exact admits =>
      exact_step nonempty exact admits.1 admits.2) exactAtStart⟩

omit [TypeConversion] in
/-- The last register and its neighbour are written together, then the first one;
the flags are not cleared before the last one is down. -/
theorem dirty_flags_exact_three :
    letI := TypeConversion.shifting
    letI store : UpdatingRegisterDataStore 3 := ⟨⟨.replicate 3 0⟩, .replicate 3 false⟩
    letI events : List StoreEvent :=
      [.command ((Request.writeSingle 0 7).command 1 (Or.inl rfl) True.intro), .clearNewDataFlags,
        .command ((Request.writeMultiple 1 2 [0, 8, 0, 9]).command 1 (Or.inr rfl)
          (by change 4 < 256; decide))]
    (Exists fun final => run step (start store) events = .ok final) ∧
      Always step Exact (start store) events :=
  (@dirty_flags_exact_iff 3 TypeConversion.shifting _ (by decide) (by decide) _
    (by decide +kernel)).mpr (by decide +kernel)

omit [TypeConversion] in
/-- A write of the last register alone goes unnoticed. -/
theorem last_register_unnoticed :
    letI := TypeConversion.shifting
    letI store : UpdatingRegisterDataStore 2 := ⟨⟨.replicate 2 0⟩, .replicate 2 false⟩
    letI events : List StoreEvent :=
      [.command ((Request.writeSingle 1 7).command 1 (Or.inl rfl) True.intro)]
    Admitted step Validated (start store) events ∧ ¬ Always step Exact (start store) events := by
  constructor
  · decide +kernel
  let conversion := TypeConversion.shifting
  intro always
  let written : Watched 2 :=
    ⟨⟨⟨⟨#v[0, 7]⟩, #v[false, true]⟩⟩, [.writeSingle 1 7]⟩
  have exact : written.Exact := always _ [] written (List.append_nil _) (by decide +kernel)
  rcases exact.newDataAvailable with ⟨on, read, meaning⟩
  have down : written.store.newDataAvailable = .ok false := by decide +kernel
  rw [down] at read
  cases read
  cases meaning.mpr ⟨1, by decide, .writeSingle 1 7, List.mem_singleton.mpr rfl, by decide⟩

end Steps

end Watched

end Modbus
