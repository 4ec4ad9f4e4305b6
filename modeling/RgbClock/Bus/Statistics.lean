import RgbClock.Bus.I2c
import Mathlib.Data.List.Nodup
import Mathlib.Algebra.BigOperators.Group.List.Basic

/-! What the statistics of the bus say about a run: every byte of every attempt is reported once, the peaks are the
largest reports, an address has the name under which it was first registered, and a device that stays away is logged
once. -/

namespace RgbClock.Bus
open Runs

/-- Whether an attempt that gets as far as the device fails to reach it. -/
def Attempt.linkFails (attempt : Attempt) : Option Bool :=
  if attempt.writeData.length = 0 || !attempt.answer.opened then none
  else some (!attempt.answer.selected || attempt.answer.written != (attempt.writeData.length : Int))

namespace Event

/-- The bytes that a step attempts to move to or from a device. -/
def bytesOf (address : UInt8) : Event → Nat
  | .attempt call => if address = call.address then call.byteCount else 0
  | _ => 0

def bytes : Event → Nat
  | .attempt call => call.byteCount
  | _ => 0

def passes : Event → Bool
  | .statistics => true
  | _ => false

/-- The steps that make an entry for a device if there is none. -/
def touches (address : UInt8) : Event → Bool
  | .attempt call => call.address = address
  | .registerAddress other _ => other = address
  | _ => false

def linkFails (address : UInt8) : Event → Option Bool
  | .attempt call => if call.address = address then call.linkFails else none
  | _ => none

end Event

namespace I2C
open Event (bytesOf bytes passes touches linkFails)

/-! ### One step -/

section
variable (bus : I2C) (attempt : Attempt) (address : UInt8)

theorem linkError_statistics (line : LogLine) :
    (bus.linkError address line).mAddressStatistics = bus.mAddressStatistics := by
  unfold linkError
  split
  · rfl
  · rfl

@[simp] theorem stat_setStat (other : UInt8) (stat : StatData) :
    (bus.setStat other stat).stat address = if address = other then stat else bus.stat address := by
  unfold I2C.stat setStat Function.update
  by_cases same : address = other
  · simp [same]
  · simp [same]

/-- Of the statistics, an attempt changes the byte count of its device. -/
theorem attempted_statistics :
    (bus.attempted attempt).mAddressStatistics =
      Function.update bus.mAddressStatistics attempt.address
        (some { bus.stat attempt.address with
          mByteCount := (bus.stat attempt.address).mByteCount + attempt.byteCount }) := by
  unfold attempted transfer
  dsimp only
  repeat' split
  all_goals first
    | rfl
    | apply linkError_statistics

theorem stat_attempted :
    (bus.attempted attempt).stat address =
      if address = attempt.address then
        { bus.stat address with mByteCount := (bus.stat address).mByteCount + attempt.byteCount }
      else bus.stat address := by
  have counted := attempted_statistics bus attempt
  unfold I2C.stat at *
  rw [counted, Function.update_apply]
  by_cases same : address = attempt.address
  · simp [same]
  · simp [same]

theorem stat_statisticsPass : bus.statisticsPass.stat address = passed (bus.stat address) := by
  unfold I2C.stat statisticsPass
  dsimp only
  cases bus.mAddressStatistics address with
  | none => rfl
  | some stat => rfl

theorem stat_registerAddress (other : UInt8) (name : String) :
    (bus.registerAddress other name).stat address =
      if address = other ∧ bus.mAddressStatistics address = none then { mName := name } else bus.stat address := by
  unfold registerAddress
  split
  case h_1 absent =>
    rw [stat_setStat]
    by_cases same : address = other
    · simp [same, absent]
    · simp [same]
  case h_2 stat present =>
    rw [if_neg]
    rintro ⟨rfl, absent⟩
    rw [absent] at present
    cases present

theorem stat_resetStat : bus.resetStat.stat address = { bus.stat address with mMaxBytesPerSecond := 0 } := by
  unfold I2C.stat resetStat
  dsimp only
  cases bus.mAddressStatistics address with
  | none => rfl
  | some stat => rfl

end

/-! ### The bytes -/

/-- What a figure shows after each pass of the statistics thread. -/
def shown (figure : I2C → Nat) : I2C → List Event → List Nat
  | _, [] => []
  | bus, event :: rest =>
    (if passes event then [figure (bus.step event)] else []) ++ shown figure (bus.step event) rest

def reports (address : UInt8) : I2C → List Event → List Nat := shown fun bus => (bus.stat address).mBytesPerSecond

def generalReports : I2C → List Event → List Nat := shown fun bus => bus.mGeneralStatistics.mBytesPerSecond

/-- The bytes that the next pass will report. -/
def pending (bus : I2C) : Nat := (addresses.map fun address => (bus.stat address).mByteCount).sum

/-- A figure that shows a count and empties it loses nothing of what is counted. -/
theorem shown_conserved {figure count : I2C → Nat} {bytes : Event → Nat}
    (shows : ∀ bus, figure bus.statisticsPass = count bus)
    (counts : ∀ bus event, count (bus.step event) = if passes event then 0 else count bus + bytes event)
    (none : bytes .statistics = 0) (bus : I2C) (events : List Event) :
    (shown figure bus events).sum + count (run step bus events) = count bus + (events.map bytes).sum := by
  induction events generalizing bus with
  | nil => simp [shown]
  | cons event rest ih =>
    have counted := counts bus event
    have later := ih (bus.step event)
    rw [run_cons, List.map_cons, List.sum_cons, shown, List.sum_append]
    cases pass : passes event with
    | true =>
      rw [pass, if_pos rfl] at counted
      have now : event = .statistics := by
        cases event with
        | statistics => rfl
        | attempt | registerAddress | resetStat => cases pass
      subst now
      rw [if_pos rfl, List.sum_singleton, show figure (bus.step .statistics) = count bus from shows bus, none]
      omega
    | false =>
      rw [pass, if_neg Bool.false_ne_true] at counted
      rw [if_neg Bool.false_ne_true, List.sum_nil]
      omega

/-- A step adds its bytes to the count of the device, and a pass empties it. -/
theorem mByteCount_step (bus : I2C) (event : Event) (address : UInt8) :
    ((bus.step event).stat address).mByteCount =
      if passes event then 0 else (bus.stat address).mByteCount + bytesOf address event := by
  cases event with
  | attempt attempt =>
    show ((bus.attempted attempt).stat address).mByteCount = _
    rw [stat_attempted]
    by_cases same : address = attempt.address
    · simp [passes, bytesOf, same]
    · simp [passes, bytesOf, same]
  | statistics =>
    show (bus.statisticsPass.stat address).mByteCount = _
    rw [stat_statisticsPass]
    rfl
  | registerAddress other name =>
    show ((bus.registerAddress other name).stat address).mByteCount = _
    rw [stat_registerAddress]
    split
    case isTrue absent =>
      have empty : bus.stat address = {} := by rw [I2C.stat, absent.2, Option.getD_none]
      simp [passes, bytesOf, empty]
    · rfl
  | resetStat =>
    show (bus.resetStat.stat address).mByteCount = _
    rw [stat_resetStat]
    rfl

theorem mBytesPerSecond_pass (bus : I2C) (address : UInt8) :
    (bus.statisticsPass.stat address).mBytesPerSecond = (bus.stat address).mByteCount := by
  rw [stat_statisticsPass]
  rfl

theorem reports_conserved (bus : I2C) (events : List Event) (address : UInt8) :
    (reports address bus events).sum + ((run step bus events).stat address).mByteCount =
      (bus.stat address).mByteCount + (events.map (bytesOf address)).sum := by
  apply @shown_conserved _ (fun bus => (bus.stat address).mByteCount) (bytesOf address)
  · exact fun bus => mBytesPerSecond_pass bus address
  · exact fun bus event => mByteCount_step bus event address
  · rfl

/-! ### All devices together -/

theorem mem_addresses (address : UInt8) : address ∈ addresses := by
  refine List.mem_map.mpr ⟨address.toNat, List.mem_range.mpr address.toNat_lt, ?_⟩
  exact UInt8.ofNat_toNat

theorem addresses_nodup : addresses.Nodup := by
  refine List.Nodup.map_on (fun m below n under same => ?_) List.nodup_range
  have equal := congrArg UInt8.toNat same
  rw [List.mem_range] at below under
  rwa [UInt8.toNat_ofNat', UInt8.toNat_ofNat', Nat.mod_eq_of_lt below, Nat.mod_eq_of_lt under] at equal

theorem sum_bytesOf (event : Event) : (addresses.map fun address => bytesOf address event).sum = bytes event := by
  cases event with
  | attempt attempt =>
    have once : addresses.count attempt.address = 1 :=
      List.count_eq_one_of_mem addresses_nodup (mem_addresses attempt.address)
    have others : ∀ other, other ≠ attempt.address → other ∈ addresses → bytesOf other (.attempt attempt) = 0 := by
      intro other apart _
      simp [bytesOf, apart]
    rw [List.sum_map_eq_nsmul_single attempt.address _ others, once]
    simp [bytesOf, bytes]
  | statistics | registerAddress | resetStat => simp [bytesOf, bytes]

theorem pending_step (bus : I2C) (event : Event) :
    (bus.step event).pending = if passes event then 0 else bus.pending + bytes event := by
  unfold pending
  simp only [mByteCount_step]
  split
  · simp
  · rw [List.sum_map_add, sum_bytesOf]

theorem general_pass (bus : I2C) : bus.statisticsPass.mGeneralStatistics.mBytesPerSecond = bus.pending := by
  have each (address : UInt8) := mBytesPerSecond_pass bus address
  unfold I2C.stat at each
  unfold pending I2C.stat
  simp only [← each]
  unfold statisticsPass
  rfl

theorem generalReports_conserved (bus : I2C) (events : List Event) :
    (generalReports bus events).sum + (run step bus events).pending = bus.pending + (events.map bytes).sum := by
  exact @shown_conserved (fun bus => bus.mGeneralStatistics.mBytesPerSecond) pending bytes general_pass pending_step rfl
    bus events

/-- No byte is lost or reported twice: in every interleaving of the threads, the bytes of all attempts to reach a
device are those that the passes have reported and those that the next pass will report. -/
theorem traffic_conserved (events : List Event) :
    (∀ address, (reports address {} events).sum + ((run step {} events).stat address).mByteCount =
        (events.map (bytesOf address)).sum) ∧
      (generalReports {} events).sum + (run step {} events).pending = (events.map bytes).sum := by
  constructor
  · intro address
    rw [reports_conserved]
    exact Nat.zero_add _
  · have empty : pending {} = 0 := by simp [pending, I2C.stat]
    rw [generalReports_conserved, empty, Nat.zero_add]

/-! ### The peaks -/

/-- A peak that a pass raises to the figure it shows is the largest of what was shown. -/
theorem shown_peak {figure peak : I2C → Nat}
    (raises : ∀ bus, peak bus.statisticsPass = max (peak bus) (figure bus.statisticsPass))
    (keeps : ∀ bus event, passes event = false → event ≠ .resetStat → peak (bus.step event) = peak bus)
    (bus : I2C) {events : List Event} (kept : ∀ event ∈ events, event ≠ .resetStat) :
    peak (run step bus events) = (shown figure bus events).foldl max (peak bus) := by
  induction events generalizing bus with
  | nil => rfl
  | cons event rest ih =>
    have later := ih (bus.step event) fun e member => kept e (List.mem_cons_of_mem _ member)
    rw [run_cons, later, shown, List.foldl_append]
    cases event with
    | statistics =>
      rw [show peak (bus.step .statistics) = _ from raises bus]
      rfl
    | attempt | registerAddress =>
      rw [keeps bus _ rfl (kept _ List.mem_cons_self)]
      rfl
    | resetStat => exact absurd rfl (kept _ List.mem_cons_self)

theorem max_of_gt (peak figure : Nat) : (if figure > peak then figure else peak) = max peak figure := by
  split
  · omega
  · omega

theorem mMaxBytesPerSecond_pass (bus : I2C) (address : UInt8) :
    (bus.statisticsPass.stat address).mMaxBytesPerSecond =
      max (bus.stat address).mMaxBytesPerSecond (bus.statisticsPass.stat address).mBytesPerSecond := by
  rw [stat_statisticsPass]
  exact max_of_gt _ _

theorem mMaxBytesPerSecond_step (bus : I2C) (address : UInt8) (event : Event) (silent : passes event = false)
    (kept : event ≠ .resetStat) :
    ((bus.step event).stat address).mMaxBytesPerSecond = (bus.stat address).mMaxBytesPerSecond := by
  cases event with
  | attempt attempt =>
    show ((bus.attempted attempt).stat address).mMaxBytesPerSecond = _
    rw [stat_attempted]
    split
    · rfl
    · rfl
  | statistics => cases silent
  | registerAddress other name =>
    show ((bus.registerAddress other name).stat address).mMaxBytesPerSecond = _
    rw [stat_registerAddress]
    split
    case isTrue absent => rw [I2C.stat, absent.2, Option.getD_none]
    · rfl
  | resetStat => exact absurd rfl kept

theorem linkError_general (bus : I2C) (address : UInt8) (line : LogLine) :
    (bus.linkError address line).mGeneralStatistics = bus.mGeneralStatistics := by
  unfold linkError
  split
  · rfl
  · rfl

theorem general_step (bus : I2C) (event : Event) (silent : passes event = false) (kept : event ≠ .resetStat) :
    (bus.step event).mGeneralStatistics = bus.mGeneralStatistics := by
  cases event with
  | attempt attempt =>
    show (bus.attempted attempt).mGeneralStatistics = _
    unfold attempted transfer
    dsimp only
    repeat' split
    all_goals first
      | rfl
      | apply linkError_general
  | statistics => cases silent
  | registerAddress other name =>
    show (bus.registerAddress other name).mGeneralStatistics = _
    unfold registerAddress
    split
    · rfl
    · rfl
  | resetStat => exact absurd rfl kept

theorem general_peak_pass (bus : I2C) :
    bus.statisticsPass.mGeneralStatistics.mMaxBytesPerSecond =
      max bus.mGeneralStatistics.mMaxBytesPerSecond bus.statisticsPass.mGeneralStatistics.mBytesPerSecond := by
  simp only [statisticsPass, max_of_gt]

/-- Whatever has happened before a reset, the peaks are from then on the largest of what the passes report. -/
theorem peaks_since_reset (before after : List Event) (kept : ∀ event ∈ after, event ≠ .resetStat) :
    (∀ address, ((run step {} (before ++ .resetStat :: after)).stat address).mMaxBytesPerSecond =
        (reports address (run step {} (before ++ [.resetStat])) after).foldl max 0) ∧
      (run step {} (before ++ .resetStat :: after)).mGeneralStatistics.mMaxBytesPerSecond =
        (generalReports (run step {} (before ++ [.resetStat])) after).foldl max 0 := by
  have split : before ++ .resetStat :: after = (before ++ [.resetStat]) ++ after := by simp
  rw [split, run_append]
  have start : run step {} (before ++ [.resetStat]) = (run step {} before).resetStat := by
    rw [run_append, run_cons, run_nil]
    rfl
  rw [start]
  constructor
  · intro address
    have peak := @shown_peak (fun bus => (bus.stat address).mBytesPerSecond)
      (fun bus => (bus.stat address).mMaxBytesPerSecond) (fun bus => mMaxBytesPerSecond_pass bus address)
      (fun bus => mMaxBytesPerSecond_step bus address) (run step {} before).resetStat after kept
    rw [stat_resetStat] at peak
    exact peak
  · exact @shown_peak (fun bus => bus.mGeneralStatistics.mBytesPerSecond)
      (fun bus => bus.mGeneralStatistics.mMaxBytesPerSecond) general_peak_pass
      (fun bus event silent kept => congrArg StatData.mMaxBytesPerSecond (general_step bus event silent kept))
      (run step {} before).resetStat after kept

/-- After a reset, a second in which three bytes are moved to a device and one in which nothing happens. -/
theorem peaks_since_reset_of_two_passes :
    ((run step {} ([.statistics] ++ .resetStat ::
      [.attempt ⟨0x20, [0x12, 0xFF], 0, ⟨true, true, 2, none⟩⟩, .statistics, .statistics])).stat 0x20).mMaxBytesPerSecond = 3 :=
  (peaks_since_reset [.statistics] _ (by simp)).1 0x20

/-! ### The names -/

/-- The name of a device: that of the first step that touches it, if that step registers it. -/
def firstName (address : UInt8) (events : List Event) : String :=
  match events.find? (touches address) with
  | some (.registerAddress _ name) => name
  | _ => ""

theorem present_step (bus : I2C) (event : Event) (address : UInt8) :
    (bus.step event).mAddressStatistics address = none ↔
      bus.mAddressStatistics address = none ∧ touches address event = false := by
  cases event with
  | attempt attempt =>
    show (bus.attempted attempt).mAddressStatistics address = none ↔ _
    rw [attempted_statistics, Function.update_apply]
    by_cases same : address = attempt.address
    · simp [touches, same]
    · simp [touches, same, Ne.symm same]
  | statistics =>
    show (bus.mAddressStatistics address).map passed = none ↔ _
    simp [touches]
  | registerAddress other name =>
    show (bus.registerAddress other name).mAddressStatistics address = none ↔ _
    unfold registerAddress
    split
    case h_1 absent =>
      unfold setStat
      dsimp only
      rw [Function.update_apply]
      by_cases same : address = other
      · simp [touches, same]
      · simp [touches, same, Ne.symm same]
    case h_2 stat present =>
      by_cases same : address = other
      · simp [touches, same, present]
      · simp [touches, Ne.symm same]
  | resetStat =>
    show (bus.mAddressStatistics address).map _ = none ↔ _
    simp [touches]

theorem name_step (bus : I2C) (event : Event) {address : UInt8} (present : bus.mAddressStatistics address ≠ none) :
    ((bus.step event).stat address).mName = (bus.stat address).mName := by
  cases event with
  | attempt attempt =>
    show ((bus.attempted attempt).stat address).mName = _
    rw [stat_attempted]
    split
    · rfl
    · rfl
  | statistics =>
    show (bus.statisticsPass.stat address).mName = _
    rw [stat_statisticsPass]
    rfl
  | registerAddress other name =>
    show ((bus.registerAddress other name).stat address).mName = _
    rw [stat_registerAddress, if_neg fun absent => present absent.2]
  | resetStat =>
    show (bus.resetStat.stat address).mName = _
    rw [stat_resetStat]

theorem name_run (bus : I2C) (events : List Event) {address : UInt8} (present : bus.mAddressStatistics address ≠ none) :
    ((run step bus events).stat address).mName = (bus.stat address).mName := by
  induction events generalizing bus with
  | nil => rfl
  | cons event rest ih =>
    have still : (bus.step event).mAddressStatistics address ≠ none := fun absent =>
      present ((present_step bus event address).mp absent).1
    rw [run_cons, ih (bus.step event) still, name_step bus event present]

theorem name_absent {bus : I2C} {address : UInt8} (absent : bus.mAddressStatistics address = none) :
    (bus.stat address).mName = "" := by
  rw [I2C.stat, absent, Option.getD_none]

/-- The name that the statistics show for a device is that of its first registration, unless there was an attempt
to reach the device before: then it stays without a name. -/
theorem name_of_first_step (events : List Event) (address : UInt8) :
    ((run step {} events).stat address).mName = firstName address events := by
  have fresh : ∀ bus : I2C, bus.mAddressStatistics address = none →
      ((run step bus events).stat address).mName = firstName address events := by
    induction events with
    | nil => exact fun bus absent => name_absent absent
    | cons event rest ih =>
      intro bus absent
      rw [run_cons]
      unfold firstName
      cases first : touches address event with
      | false =>
        rw [List.find?_cons_of_neg (by simp [first])]
        exact ih (bus.step event) ((present_step bus event address).mpr ⟨absent, first⟩)
      | true =>
        have present : (bus.step event).mAddressStatistics address ≠ none := fun still =>
          absurd ((present_step bus event address).mp still).2 (by simp [first])
        rw [List.find?_cons_of_pos first, name_run _ rest present]
        cases event with
        | attempt attempt =>
          show ((bus.attempted attempt).stat address).mName = ""
          rw [stat_attempted]
          split
          · exact name_absent absent
          · exact name_absent absent
        | registerAddress other name =>
          show ((bus.registerAddress other name).stat address).mName = name
          have same : address = other := by simpa [touches, eq_comm] using first
          rw [stat_registerAddress, if_pos ⟨same, absent⟩]
        | statistics | resetStat => cases first
  exact fresh {} rfl

/-! ### The log -/

def isLinkError (address : UInt8) (line : LogLine) : Bool :=
  line = .settingAddress address || line = .writingData address

/-- How often a sequence of failures begins. -/
def onsets : (failing : Bool) → List Bool → Nat
  | _, [] => 0
  | failing, fails :: rest => (if fails && !failing then 1 else 0) + onsets fails rest

/-- What a step leaves of the two things that matter: whether the device was out of reach, and how often that
was logged. -/
structure Linked (bus next : I2C) (address : UInt8) (fails : Option Bool) : Prop where
  flag : next.mI2CWriteError address = fails.getD (bus.mI2CWriteError address)
  logged : next.log.countP (isLinkError address) =
    bus.log.countP (isLinkError address) + onsets (bus.mI2CWriteError address) fails.toList

theorem linkError_linked (bus : I2C) {other : UInt8} {line : LogLine} (address : UInt8)
    (names : isLinkError address line = decide (other = address)) :
    Linked bus (bus.linkError other line) address (if other = address then some true else none) := by
  unfold linkError logError
  by_cases same : other = address
  · subst same
    cases failing : bus.mI2CWriteError other with
    | true => exact ⟨by simp, by simp [failing, onsets]⟩
    | false => exact ⟨by simp, by simp [failing, onsets, names]⟩
  · have apart : address ≠ other := Ne.symm same
    cases bus.mI2CWriteError other with
    | true => exact ⟨by simp [same, apart], by simp [same, onsets]⟩
    | false => exact ⟨by simp [same, apart], by simp [same, onsets, names]⟩

theorem reached_linked (bus : I2C) (other address : UInt8) :
    Linked bus { bus with mI2CWriteError := Function.update bus.mI2CWriteError other false } address
      (if other = address then some false else none) := by
  by_cases same : other = address
  · subst same
    exact ⟨by simp, by simp [onsets]⟩
  · exact ⟨by simp [same, Ne.symm same], by simp [same, onsets]⟩

theorem Linked.logError {bus next : I2C} {address : UInt8} {fails : Option Bool} (linked : Linked bus next address fails)
    {line : LogLine} (other : isLinkError address line = false) : Linked bus (next.logError line) address fails := by
  refine ⟨linked.flag, ?_⟩
  rw [I2C.logError, List.countP_append, linked.logged]
  simp [other]

theorem transfer_linked (bus : I2C) (attempt : Attempt) (address : UInt8) :
    Linked bus (bus.transfer attempt) address (if attempt.address = address then attempt.linkFails else none) := by
  unfold transfer Attempt.linkFails
  by_cases empty : attempt.writeData.length = 0
  · simp only [empty, if_true, decide_true, Bool.true_or, ite_self]
    exact Linked.logError ⟨rfl, rfl⟩ rfl
  simp only [empty, if_false, decide_false, Bool.false_or]
  cases attempt.answer.opened with
  | false =>
    simp only [Bool.not_false, if_true, ite_self]
    exact ⟨rfl, rfl⟩
  | true =>
    simp only [Bool.not_true, Bool.false_eq_true, if_false]
    cases attempt.answer.selected with
    | false =>
      apply linkError_linked bus address
      simp [isLinkError]
    | true =>
      by_cases wrote : attempt.answer.written = (attempt.writeData.length : Int)
      · have reached := reached_linked bus attempt.address address
        simp only [wrote, Bool.not_true, Bool.false_eq_true, if_false, ne_eq, not_true_eq_false, bne_self_eq_false,
          Bool.or_self]
        split
        · exact reached.logError rfl
        · exact reached
      · have missed : (attempt.answer.written != (attempt.writeData.length : Int)) = true := bne_iff_ne.mpr wrote
        simp only [wrote, missed, Bool.not_true, Bool.false_eq_true, if_false, ne_eq, not_false_eq_true, if_true,
          Bool.or_true]
        apply linkError_linked bus address
        simp [isLinkError]

theorem step_linked (bus : I2C) (event : Event) (address : UInt8) :
    Linked bus (bus.step event) address (linkFails address event) := by
  cases event with
  | attempt attempt =>
    -- the byte count that is set first is not among what is compared
    have linked := transfer_linked (bus.count attempt) attempt address
    exact ⟨linked.flag, linked.logged⟩
  | statistics => exact ⟨rfl, rfl⟩
  | registerAddress other name =>
    show Linked bus (bus.registerAddress other name) address none
    unfold registerAddress
    split
    · exact ⟨rfl, rfl⟩
    · exact ⟨rfl, rfl⟩
  | resetStat => exact ⟨rfl, rfl⟩

theorem run_linked (bus : I2C) (events : List Event) (address : UInt8) :
    (run step bus events).mI2CWriteError address =
        (events.filterMap (linkFails address)).getLastD (bus.mI2CWriteError address) ∧
      (run step bus events).log.countP (isLinkError address) =
        bus.log.countP (isLinkError address) +
          onsets (bus.mI2CWriteError address) (events.filterMap (linkFails address)) := by
  induction events generalizing bus with
  | nil => exact ⟨rfl, rfl⟩
  | cons event rest ih =>
    obtain ⟨flag, logged⟩ := step_linked bus event address
    obtain ⟨laterFlag, laterLogged⟩ := ih (bus.step event)
    rw [run_cons, laterFlag, laterLogged, flag, logged]
    cases outcome : linkFails address event with
    | none => simp [outcome, onsets]
    | some fails =>
      rw [List.filterMap_cons_some outcome, List.getLastD_cons]
      refine ⟨rfl, ?_⟩
      simp only [Option.getD_some, Option.toList_some, onsets]
      omega

/-- A device that is out of reach is logged once for every time that it goes, however often it is tried, and again
only after it has been reached in between. -/
theorem linkErrors_logged_once (events : List Event) (address : UInt8) :
    (run step {} events).log.countP (isLinkError address) =
      onsets false (events.filterMap (linkFails address)) := by
  have run := (run_linked {} events address).2
  rwa [show ({} : I2C).log.countP (isLinkError address) = 0 from rfl, Nat.zero_add] at run

end I2C

end RgbClock.Bus
