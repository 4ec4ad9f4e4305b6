import Mathlib.Logic.Function.Basic
import RgbClock.Devices.Radio
import RgbClock.Lib.Run

/-! The radio with its two timer threads, at the level of locks and joins. A call of `pwrOn` holds the
mutex of the radio while it waits for the end of a timer thread; that thread takes the same mutex once
it has seen that it should still run. -/

namespace RgbClock.Devices
open Runs

/-- `mRadioMutex` is recursive, but no call of this model takes it twice. -/
inductive Mutex where
  | radio | upDown | autoOff
  deriving DecidableEq

inductive RadioCall where
  | pwrOn (smooth : Bool) (volume : Int)
  | pwrOff
  deriving DecidableEq

/-- What a caller does next. -/
inductive CallerPc where
  | idle
  | lockRadio (call : RadioCall)
  -- `initiateUp`, with `startDimmerThread` and `stopDimmerThread`
  | lockUpDown (volume : Int)
  | clearDimmer
  | joinDimmer
  | startDimmer
  | unlockUpDown
  -- `startAutoOffThread`, which begins with `stopAutoOffThread`
  | lockAutoOff
  | clearAutoOff
  | joinAutoOff
  | releaseAutoOff
  | relockAutoOff
  | startAutoOff
  | unlockAutoOff
  -- `pwrOff`
  | cancelAutoPowerOff
  | cancelDimmer
  | unlockRadio
  deriving DecidableEq

namespace CallerPc

/-- The caller holds the mutex of the radio. -/
def inside : CallerPc → Bool
  | idle | lockRadio _ => false
  | _ => true

end CallerPc

/-- What the dimmer thread does next: it reads its steps, then tests its flag twice before `Radio::up`. -/
inductive DimmerPc where
  | start | test | sleep | retest | lockRadio | unlockRadio | finished
  deriving DecidableEq

/-- What the auto-off thread does next: two tests of its flag, and `Radio::pwrOff`. -/
inductive AutoOffPc where
  | test | sleep | retest | lockRadio | cancelAutoPowerOff | cancelDimmer | unlockRadio | finished
  deriving DecidableEq

def AutoOffPc.inside : AutoOffPc → Bool
  | cancelAutoPowerOff | cancelDimmer | unlockRadio => true
  | _ => false

structure DimmerThread where
  pc : DimmerPc := .start
  totalSteps : Int := 0
  step : Int := 0
  deriving DecidableEq

structure AutoOffThread where
  pc : AutoOffPc := .test
  countDownSeconds : Int
  deriving DecidableEq

section
variable {τ : Type}

inductive Agent (τ : Type) where
  | caller (thread : τ)
  | dimmer
  | autoOff
  deriving DecidableEq

structure Threads (τ : Type) where
  owner : Mutex → Option (Agent τ) := fun _ => none
  callers : τ → CallerPc := fun _ => .idle
  mUpDownTimer : UpDownTimer := {}
  -- The thread object of a timer, until it has been joined.
  dimmer : Option DimmerThread := none
  mAutoOffThreadRunning : Bool := false
  autoOff : Option AutoOffThread := none

inductive ThreadEvent (τ : Type) where
  /-- An idle thread calls the radio. -/
  | call (thread : τ) (call : RadioCall)
  /-- A thread makes its next step, or waits. -/
  | next (agent : Agent τ)

namespace Threads

section
variable [DecidableEq τ]

def lock (s : Threads τ) (mutex : Mutex) (agent : Agent τ) : Threads τ :=
  { s with owner := Function.update s.owner mutex (some agent) }

def unlock (s : Threads τ) (mutex : Mutex) : Threads τ := { s with owner := Function.update s.owner mutex none }

def goto (s : Threads τ) (t : τ) (pc : CallerPc) : Threads τ := { s with callers := Function.update s.callers t pc }

/-- `lock`: the caller goes on once the mutex is free. -/
def await (s : Threads τ) (t : τ) (mutex : Mutex) (pc : CallerPc) : Threads τ :=
  match s.owner mutex with
  | none => (s.lock mutex (.caller t)).goto t pc
  | some _ => s

def setDimmerRunning (s : Threads τ) (running : Bool) : Threads τ :=
  { s with mUpDownTimer := { s.mUpDownTimer with mThreadRunning := running } }

def entered : RadioCall → CallerPc
  | .pwrOn smooth volume => if volume > 0 ∧ smooth then .lockUpDown volume else .lockAutoOff
  | .pwrOff => .cancelAutoPowerOff

def callerStep (s : Threads τ) (t : τ) : Threads τ :=
  match s.callers t with
  | .idle => s
  | .lockRadio call => s.await t .radio (entered call)
  | .lockUpDown volume =>
    let prepared := { s with
      mUpDownTimer := { s.mUpDownTimer.calculate volume (SLOWUP_MINUTES * 60) with mDown := false } }
    match s.owner .upDown with
    | none => (prepared.lock .upDown (.caller t)).goto t .clearDimmer
    | some _ => s
  | .clearDimmer => (s.setDimmerRunning false).goto t (if s.dimmer.isSome then .joinDimmer else .startDimmer)
  | .joinDimmer =>
    match s.dimmer with
    | some thread => if thread.pc = .finished then { s.goto t .startDimmer with dimmer := none } else s
    | none => s.goto t .startDimmer
  | .startDimmer => { (s.setDimmerRunning true).goto t .unlockUpDown with dimmer := some {} }
  | .unlockUpDown => (s.unlock .upDown).goto t .lockAutoOff
  | .lockAutoOff => s.await t .autoOff .clearAutoOff
  | .clearAutoOff =>
    { s.goto t (if s.autoOff.isSome then .joinAutoOff else .releaseAutoOff) with mAutoOffThreadRunning := false }
  | .joinAutoOff =>
    match s.autoOff with
    | some thread => if thread.pc = .finished then { s.goto t .releaseAutoOff with autoOff := none } else s
    | none => s.goto t .releaseAutoOff
  | .releaseAutoOff => (s.unlock .autoOff).goto t .relockAutoOff
  | .relockAutoOff => s.await t .autoOff .startAutoOff
  | .startAutoOff =>
    { s.goto t .unlockAutoOff with
      mAutoOffThreadRunning := true
      autoOff := some { countDownSeconds := AUTO_OFF_MINUTES * 60 } }
  | .unlockAutoOff => (s.unlock .autoOff).goto t .unlockRadio
  | .cancelAutoPowerOff => { s.goto t .cancelDimmer with mAutoOffThreadRunning := false }
  | .cancelDimmer => (s.setDimmerRunning false).goto t .unlockRadio
  | .unlockRadio => (s.unlock .radio).goto t .idle

def dimmerStep (s : Threads τ) : Threads τ :=
  match s.dimmer with
  | none => s
  | some thread =>
    let goto := fun pc => some { thread with pc }
    match thread.pc with
    | .start =>
      { s with dimmer := some { pc := .test, totalSteps := s.mUpDownTimer.mTotalSteps, step := s.mUpDownTimer.mStep } }
    | .test =>
      { s with dimmer := goto (if s.mUpDownTimer.mThreadRunning ∧ thread.totalSteps > 0 then .sleep else .finished) }
    | .sleep => { s with dimmer := goto .retest }
    | .retest =>
      if s.mUpDownTimer.mThreadRunning then
        let left := if s.mUpDownTimer.mDown then thread.totalSteps else thread.totalSteps - thread.step
        { s with dimmer := some { thread with pc := .lockRadio, totalSteps := left } }
      else { s with dimmer := goto .test }
    | .lockRadio =>
      match s.owner .radio with
      | none => { s.lock .radio .dimmer with dimmer := goto .unlockRadio }
      | some _ => s
    | .unlockRadio => { s.unlock .radio with dimmer := goto .test }
    | .finished => s

def autoOffStep (s : Threads τ) : Threads τ :=
  match s.autoOff with
  | none => s
  | some thread =>
    let goto := fun pc => some { thread with pc }
    match thread.pc with
    | .test => { s with autoOff := goto (if s.mAutoOffThreadRunning then .sleep else .finished) }
    | .sleep =>
      let left := thread.countDownSeconds - 1
      { s with autoOff := some { pc := if left = 0 then .retest else .test, countDownSeconds := left } }
    | .retest =>
      if s.mAutoOffThreadRunning then { s with mAutoOffThreadRunning := false, autoOff := goto .lockRadio }
      else { s with autoOff := goto .test }
    | .lockRadio =>
      match s.owner .radio with
      | none => { s.lock .radio .autoOff with autoOff := goto .cancelAutoPowerOff }
      | some _ => s
    | .cancelAutoPowerOff => { s with mAutoOffThreadRunning := false, autoOff := goto .cancelDimmer }
    | .cancelDimmer => { s.setDimmerRunning false with autoOff := goto .unlockRadio }
    | .unlockRadio => { s.unlock .radio with autoOff := goto .test }
    | .finished => s

def step (s : Threads τ) : ThreadEvent τ → Threads τ
  | .call t call => if s.callers t = .idle then s.goto t (.lockRadio call) else s
  | .next (.caller t) => s.callerStep t
  | .next .dimmer => s.dimmerStep
  | .next .autoOff => s.autoOffStep

end

/-! ### Deadlock -/

/-- The mutex that a thread waits for, or takes next. -/
def wants (s : Threads τ) : Agent τ → Option Mutex
  | .caller t =>
    match s.callers t with
    | .lockRadio _ => some .radio
    | .lockUpDown _ => some .upDown
    | .lockAutoOff | .relockAutoOff => some .autoOff
    | _ => none
  | .dimmer => if s.dimmer.any (·.pc = .lockRadio) then some .radio else none
  | .autoOff => if s.autoOff.any (·.pc = .lockRadio) then some .radio else none

/-- The thread that a thread joins. -/
def joins (s : Threads τ) : Agent τ → Option (Agent τ)
  | .caller t =>
    match s.callers t with
    | .joinDimmer => if s.dimmer.isSome then some .dimmer else none
    | .joinAutoOff => if s.autoOff.isSome then some .autoOff else none
    | _ => none
  | .dimmer | .autoOff => none

/-- A thread waits for the end of another, which waits for a mutex of the first. -/
def Deadlocked (s : Threads τ) : Prop :=
  ∃ first second mutex, s.joins first = some second ∧ s.wants second = some mutex ∧ s.owner mutex = some first

/-- A timer thread that `pwrOn` is about to stop has not passed its second test of the flag. -/
def Stoppable (s : Threads τ) : ThreadEvent τ → Prop
  | .next (.caller t) =>
    (s.callers t = .clearDimmer → ∀ thread ∈ s.dimmer, thread.pc ≠ .lockRadio) ∧
      (s.callers t = .clearAutoOff → ∀ thread ∈ s.autoOff, thread.pc ≠ .lockRadio)
  | _ => True

/-! ### Who is inside, and who can still be stopped -/

structure Inv (s : Threads τ) : Prop where
  callers : ∀ t, (s.callers t).inside = true ↔ s.owner .radio = some (.caller t)
  dimmer : (s.dimmer.any (·.pc = .unlockRadio)) = true ↔ s.owner .radio = some .dimmer
  autoOff : (s.autoOff.any (·.pc.inside)) = true ↔ s.owner .radio = some .autoOff
  joinDimmer : ∀ t, s.callers t = .joinDimmer →
    s.mUpDownTimer.mThreadRunning = false ∧ ∀ thread ∈ s.dimmer, thread.pc ≠ .lockRadio
  joinAutoOff : ∀ t, s.callers t = .joinAutoOff →
    s.mAutoOffThreadRunning = false ∧ ∀ thread ∈ s.autoOff, thread.pc ≠ .lockRadio

theorem inv_start : Inv ({} : Threads τ) := by
  constructor <;> simp [CallerPc.inside]

theorem not_deadlocked {s : Threads τ} (inv : Inv s) : ¬ s.Deadlocked := by
  intro given
  obtain ⟨first, second, mutex, joins, wants, -⟩ := given
  cases first with
  | dimmer | autoOff => cases joins
  | caller t =>
    simp only [Threads.joins] at joins
    split at joins
    · rename_i joining
      split at joins
      · cases joins
        have waits : (∃ thread, s.dimmer = some thread ∧ thread.pc = .lockRadio) ∧ Mutex.radio = mutex := by
          simpa [Threads.wants, Option.any_eq_true] using wants
        obtain ⟨⟨thread, present, waiting⟩, -⟩ := waits
        exact (inv.joinDimmer t joining).2 thread present waiting
      · cases joins
    · rename_i joining
      split at joins
      · cases joins
        have waits : (∃ thread, s.autoOff = some thread ∧ thread.pc = .lockRadio) ∧ Mutex.radio = mutex := by
          simpa [Threads.wants, Option.any_eq_true] using wants
        obtain ⟨⟨thread, present, waiting⟩, -⟩ := waits
        exact (inv.joinAutoOff t joining).2 thread present waiting
      · cases joins
    · cases joins

/-- A caller that holds the mutex of the radio keeps the others out, and is not joined by them. -/
theorem inv_inside {s : Threads τ} {t : τ} (owner : s.owner .radio = some (.caller t))
    (self : (s.callers t).inside = true) (others : ∀ u, u ≠ t → (s.callers u).inside = false)
    (dimmer : ¬ s.dimmer.any (·.pc = .unlockRadio) = true) (autoOff : ¬ s.autoOff.any (·.pc.inside) = true)
    (joinDimmer : s.callers t = .joinDimmer →
      s.mUpDownTimer.mThreadRunning = false ∧ ∀ thread ∈ s.dimmer, thread.pc ≠ .lockRadio)
    (joinAutoOff : s.callers t = .joinAutoOff →
      s.mAutoOffThreadRunning = false ∧ ∀ thread ∈ s.autoOff, thread.pc ≠ .lockRadio) : Inv s := by
  have mine : ∀ u, (s.callers u).inside = true → u = t := by
    intro u inside
    by_contra other
    rw [others u other] at inside
    cases inside
  refine ⟨fun u => ?_, ?_, ?_, fun u joining => ?_, fun u joining => ?_⟩
  · rw [owner]
    constructor
    · intro inside
      rw [mine u inside]
    · intro same
      cases same
      exact self
  · exact iff_of_false dimmer (by rw [owner]; nofun)
  · exact iff_of_false autoOff (by rw [owner]; nofun)
  · obtain rfl := mine u (by rw [joining]; rfl)
    exact joinDimmer joining
  · obtain rfl := mine u (by rw [joining]; rfl)
    exact joinAutoOff joining

/-- With no caller inside, nobody joins a thread. -/
theorem inv_outside {s : Threads τ} {holder : Option (Agent τ)} (owner : s.owner .radio = holder)
    (foreign : ∀ u, holder ≠ some (.caller u)) (outside : ∀ u, (s.callers u).inside = false)
    (dimmer : s.dimmer.any (·.pc = .unlockRadio) = true ↔ holder = some .dimmer)
    (autoOff : s.autoOff.any (·.pc.inside) = true ↔ holder = some .autoOff) : Inv s := by
  subst owner
  refine ⟨fun u => iff_of_false (by rw [outside u]; nofun) (foreign u), dimmer, autoOff, fun u joining => ?_,
    fun u joining => ?_⟩
  · have inside := outside u
    rw [joining] at inside
    cases inside
  · have inside := outside u
    rw [joining] at inside
    cases inside

/-- Whoever does not hold the mutex of the radio is not inside. -/
theorem Inv.others {s : Threads τ} {holder : Option (Agent τ)} (inv : Inv s) (owner : s.owner .radio = holder) :
    (∀ u, holder ≠ some (.caller u) → (s.callers u).inside = false) ∧
      (holder ≠ some .dimmer → ¬ s.dimmer.any (·.pc = .unlockRadio) = true) ∧
      (holder ≠ some .autoOff → ¬ s.autoOff.any (·.pc.inside) = true) := by
  subst owner
  refine ⟨fun u foreign => ?_, fun foreign => ?_, fun foreign => ?_⟩
  · rw [← Bool.not_eq_true, inv.callers u]
    exact foreign
  · rw [inv.dimmer]
    exact foreign
  · rw [inv.autoOff]
    exact foreign

/-- What holds of the others while a caller is inside. -/
theorem Inv.alone {s : Threads τ} {t : τ} (inv : Inv s) (owner : s.owner .radio = some (.caller t)) :
    (∀ u, u ≠ t → (s.callers u).inside = false) ∧ ¬ s.dimmer.any (·.pc = .unlockRadio) = true ∧
      ¬ s.autoOff.any (·.pc.inside) = true := by
  obtain ⟨callers, dimmer, autoOff⟩ := inv.others owner
  refine ⟨fun u other => callers u fun same => ?_, dimmer nofun, autoOff nofun⟩
  cases same
  exact other rfl

/-- The dimmer thread goes on without the mutex. -/
theorem inv_dimmer {s : Threads τ} (inv : Inv s) {thread next : DimmerThread} (present : s.dimmer = some thread)
    (outside : thread.pc ≠ .unlockRadio ∧ next.pc ≠ .unlockRadio)
    (asked : next.pc = .lockRadio → s.mUpDownTimer.mThreadRunning = true) : Inv { s with dimmer := some next } := by
  refine ⟨inv.callers, ?_, inv.autoOff, fun t joining => ?_, inv.joinAutoOff⟩
  · rw [← inv.dimmer, present]
    simp [outside]
  · obtain ⟨stopped, -⟩ := inv.joinDimmer t joining
    refine ⟨stopped, fun other same => ?_⟩
    cases same
    intro waiting
    have running := asked waiting
    rw [stopped] at running
    cases running

/-- The auto-off thread goes on without the mutex; it may clear its flag. -/
theorem inv_autoOff {s s' : Threads τ} (inv : Inv s) {thread next : AutoOffThread} (present : s.autoOff = some thread)
    (outside : thread.pc.inside = false ∧ next.pc.inside = false)
    (same : s' = { s with autoOff := some next, mAutoOffThreadRunning := s'.mAutoOffThreadRunning })
    (flag : s.mAutoOffThreadRunning = false → s'.mAutoOffThreadRunning = false)
    (asked : next.pc = .lockRadio → s.mAutoOffThreadRunning = true) : Inv s' := by
  rw [same]
  refine ⟨inv.callers, inv.dimmer, ?_, inv.joinDimmer, fun t joining => ?_⟩
  · rw [← inv.autoOff, present]
    simp [outside]
  · obtain ⟨stopped, -⟩ := inv.joinAutoOff t joining
    refine ⟨flag stopped, fun other same => ?_⟩
    cases same
    intro waiting
    have running := asked waiting
    rw [stopped] at running
    cases running

theorem dimmerStep_inv {s : Threads τ} (inv : Inv s) : Inv s.dimmerStep := by
  unfold dimmerStep
  split
  · exact inv
  rename_i thread present
  dsimp only
  cases pc : thread.pc with
  | start => exact inv_dimmer inv present ⟨by rw [pc]; nofun, nofun⟩ nofun
  | test =>
    dsimp only
    refine inv_dimmer inv present ⟨by rw [pc]; nofun, ?_⟩ fun waiting => ?_
    · split <;> nofun
    · split at waiting <;> cases waiting
  | sleep => exact inv_dimmer inv present ⟨by rw [pc]; nofun, nofun⟩ nofun
  | retest =>
    dsimp only
    split
    · rename_i running
      exact inv_dimmer inv present ⟨by rw [pc]; nofun, nofun⟩ fun _ => running
    · exact inv_dimmer inv present ⟨by rw [pc]; nofun, nofun⟩ nofun
  | lockRadio =>
    dsimp only
    split
    · rename_i free
      have owner : (s.lock .radio .dimmer).owner .radio = some .dimmer := Function.update_self Mutex.radio _ s.owner
      obtain ⟨callers, -, autoOff⟩ := inv.others free
      refine inv_outside owner nofun ?_ ?_ ?_
      · exact fun u => callers u nofun
      · exact iff_of_true rfl rfl
      · exact iff_of_false (autoOff nofun) nofun
    · exact inv
  | unlockRadio =>
    have owner := inv.dimmer.mp (by simp [present, pc])
    have free : (s.unlock .radio).owner .radio = none := Function.update_self Mutex.radio _ s.owner
    obtain ⟨callers, -, autoOff⟩ := inv.others owner
    refine inv_outside free nofun ?_ ?_ ?_
    · exact fun u => callers u nofun
    · exact iff_of_false Bool.false_ne_true nofun
    · exact iff_of_false (autoOff nofun) nofun
  | finished => exact inv

theorem autoOffStep_inv {s : Threads τ} (inv : Inv s) : Inv s.autoOffStep := by
  unfold autoOffStep
  split
  · exact inv
  rename_i thread present
  dsimp only
  cases pc : thread.pc with
  | test =>
    dsimp only
    refine inv_autoOff inv present ⟨by rw [pc]; rfl, ?_⟩ rfl id fun waiting => ?_
    · split <;> rfl
    · split at waiting <;> cases waiting
  | sleep =>
    dsimp only
    refine inv_autoOff inv present ⟨by rw [pc]; rfl, ?_⟩ rfl id fun waiting => ?_
    · split <;> rfl
    · split at waiting <;> cases waiting
  | retest =>
    dsimp only
    split
    · rename_i running
      exact inv_autoOff inv present ⟨by rw [pc]; rfl, rfl⟩ rfl (fun _ => rfl) fun _ => running
    · exact inv_autoOff inv present ⟨by rw [pc]; rfl, rfl⟩ rfl id nofun
  | lockRadio =>
    dsimp only
    split
    · rename_i free
      have owner : (s.lock .radio .autoOff).owner .radio = some .autoOff := Function.update_self Mutex.radio _ s.owner
      obtain ⟨callers, dimmer, -⟩ := inv.others free
      refine inv_outside owner nofun ?_ ?_ ?_
      · exact fun u => callers u nofun
      · exact iff_of_false (dimmer nofun) nofun
      · exact iff_of_true rfl rfl
    · exact inv
  | cancelAutoPowerOff | cancelDimmer =>
    have owner := inv.autoOff.mp (by simp [present, pc, AutoOffPc.inside])
    obtain ⟨callers, dimmer, -⟩ := inv.others owner
    refine inv_outside owner nofun ?_ ?_ ?_
    · exact fun u => callers u nofun
    · exact iff_of_false (dimmer nofun) nofun
    · exact iff_of_true rfl rfl
  | unlockRadio =>
    have owner := inv.autoOff.mp (by simp [present, pc, AutoOffPc.inside])
    have free : (s.unlock .radio).owner .radio = none := Function.update_self Mutex.radio _ s.owner
    obtain ⟨callers, dimmer, -⟩ := inv.others owner
    refine inv_outside free nofun ?_ ?_ ?_
    · exact fun u => callers u nofun
    · exact iff_of_false (dimmer nofun) nofun
    · exact iff_of_false Bool.false_ne_true nofun
  | finished => exact inv

section
variable [DecidableEq τ]

/-- A caller goes on inside. -/
theorem inv_goto {s s' : Threads τ} {t : τ} {pc : CallerPc} (others : ∀ u, u ≠ t → (s.callers u).inside = false)
    (owner : s'.owner .radio = some (.caller t)) (callers : s'.callers = Function.update s.callers t pc)
    (inside : pc.inside = true) (dimmer : ¬ s'.dimmer.any (·.pc = .unlockRadio) = true)
    (autoOff : ¬ s'.autoOff.any (·.pc.inside) = true)
    (joinDimmer : pc = .joinDimmer →
      s'.mUpDownTimer.mThreadRunning = false ∧ ∀ thread ∈ s'.dimmer, thread.pc ≠ .lockRadio)
    (joinAutoOff : pc = .joinAutoOff →
      s'.mAutoOffThreadRunning = false ∧ ∀ thread ∈ s'.autoOff, thread.pc ≠ .lockRadio) : Inv s' := by
  have self : s'.callers t = pc := by rw [callers, Function.update_self]
  apply inv_inside owner
  · rw [self]
    exact inside
  · intro u other
    rw [callers, Function.update_of_ne other]
    exact others u other
  · exact dimmer
  · exact autoOff
  · rw [self]
    exact joinDimmer
  · rw [self]
    exact joinAutoOff

/-- A caller goes on inside, leaves the two threads alone, and does not begin to join one. -/
theorem inv_moves {s s' : Threads τ} {t : τ} {pc : CallerPc} (inv : Inv s) (owner : s.owner .radio = some (.caller t))
    (kept : s'.owner .radio = s.owner .radio) (callers : s'.callers = Function.update s.callers t pc)
    (inside : pc.inside = true) (dimmer : s'.dimmer = s.dimmer) (autoOff : s'.autoOff = s.autoOff)
    (running : pc ≠ .joinDimmer ∧ pc ≠ .joinAutoOff) : Inv s' := by
  obtain ⟨others, dimmerOut, autoOffOut⟩ := inv.alone owner
  refine inv_goto others (kept.trans owner) callers inside ?_ ?_ (fun joining => ?_) fun joining => ?_
  · rw [dimmer]
    exact dimmerOut
  · rw [autoOff]
    exact autoOffOut
  · exact absurd joining running.1
  · exact absurd joining running.2

theorem await_inv {s : Threads τ} {t : τ} {mutex : Mutex} {pc : CallerPc} (inv : Inv s)
    (owner : s.owner .radio = some (.caller t)) (other : mutex ≠ .radio) (inside : pc.inside = true)
    (running : pc ≠ .joinDimmer ∧ pc ≠ .joinAutoOff) : Inv (s.await t mutex pc) := by
  unfold await
  split
  · exact inv_moves inv owner (Function.update_of_ne other.symm _ _) rfl inside rfl rfl running
  · exact inv

theorem unlock_inv {s : Threads τ} {t : τ} {mutex : Mutex} {pc : CallerPc} (inv : Inv s)
    (owner : s.owner .radio = some (.caller t)) (other : mutex ≠ .radio) (inside : pc.inside = true)
    (running : pc ≠ .joinDimmer ∧ pc ≠ .joinAutoOff) : Inv ((s.unlock mutex).goto t pc) :=
  inv_moves inv owner (Function.update_of_ne other.symm _ _) rfl inside rfl rfl running

theorem entered_inside (call : RadioCall) :
    (entered call).inside = true ∧ entered call ≠ .joinDimmer ∧ entered call ≠ .joinAutoOff := by
  cases call with
  | pwrOn smooth volume =>
    simp only [entered]
    split <;> exact ⟨rfl, nofun, nofun⟩
  | pwrOff => exact ⟨rfl, nofun, nofun⟩

theorem enter_inv {s : Threads τ} {t : τ} {call : RadioCall} (inv : Inv s) (free : s.owner .radio = none) :
    Inv ((s.lock .radio (.caller t)).goto t (entered call)) := by
  obtain ⟨outside, dimmer, autoOff⟩ := inv.others free
  obtain ⟨inside, noDimmer, noAutoOff⟩ := entered_inside call
  have owner : ((s.lock .radio (.caller t)).goto t (entered call)).owner .radio = some (.caller t) :=
    Function.update_self Mutex.radio _ s.owner
  apply inv_goto (fun u _ => outside u nofun) owner rfl inside (dimmer nofun) (autoOff nofun)
  · exact fun joining => absurd joining noDimmer
  · exact fun joining => absurd joining noAutoOff

theorem leave_inv {s : Threads τ} {t : τ} (inv : Inv s) (owner : s.owner .radio = some (.caller t)) :
    Inv ((s.unlock .radio).goto t .idle) := by
  obtain ⟨others, dimmer, autoOff⟩ := inv.alone owner
  have free : ((s.unlock .radio).goto t .idle).owner .radio = none := Function.update_self Mutex.radio _ s.owner
  refine inv_outside free nofun ?_ ?_ ?_
  · intro u
    show (Function.update s.callers t .idle u).inside = false
    by_cases mine : u = t
    · subst mine
      rw [Function.update_self]
      rfl
    · rw [Function.update_of_ne mine]
      exact others u mine
  · exact iff_of_false dimmer nofun
  · exact iff_of_false autoOff nofun

theorem callerStep_inv {s : Threads τ} {t : τ} (inv : Inv s) (stoppable : s.Stoppable (.next (.caller t))) :
    Inv (s.callerStep t) := by
  have held : (s.callers t).inside = true → s.owner .radio = some (.caller t) := (inv.callers t).mp
  unfold callerStep
  cases pc : s.callers t with
  | idle => exact inv
  | lockRadio call =>
    dsimp only [await]
    split
    · rename_i free
      exact enter_inv inv free
    · exact inv
  | lockUpDown volume =>
    have owner := held (by rw [pc]; rfl)
    dsimp only
    split
    · have other : Mutex.radio ≠ Mutex.upDown := by decide
      exact inv_moves inv owner (Function.update_of_ne other (some (.caller t)) s.owner) rfl rfl rfl rfl ⟨nofun, nofun⟩
    · exact inv
  | clearDimmer =>
    have owner := held (by rw [pc]; rfl)
    obtain ⟨others, dimmer, autoOff⟩ := inv.alone owner
    have waiting := stoppable.1 pc
    refine inv_goto others owner rfl ?_ dimmer autoOff (fun _ => ⟨rfl, waiting⟩) fun joining => ?_
    · split <;> rfl
    · split at joining <;> cases joining
  | joinDimmer =>
    have owner := held (by rw [pc]; rfl)
    obtain ⟨others, dimmer, autoOff⟩ := inv.alone owner
    dsimp only
    split
    · split
      · exact inv_goto others owner rfl rfl Bool.false_ne_true autoOff nofun nofun
      · exact inv
    · exact inv_moves inv owner rfl rfl rfl rfl rfl ⟨nofun, nofun⟩
  | startDimmer =>
    have owner := held (by rw [pc]; rfl)
    obtain ⟨others, dimmer, autoOff⟩ := inv.alone owner
    exact inv_goto others owner rfl rfl Bool.false_ne_true autoOff nofun nofun
  | clearAutoOff =>
    have owner := held (by rw [pc]; rfl)
    obtain ⟨others, dimmer, autoOff⟩ := inv.alone owner
    have waiting := stoppable.2 pc
    refine inv_goto others owner rfl ?_ dimmer autoOff (fun joining => ?_) fun _ => ⟨rfl, waiting⟩
    · split <;> rfl
    · split at joining <;> cases joining
  | joinAutoOff =>
    have owner := held (by rw [pc]; rfl)
    obtain ⟨others, dimmer, autoOff⟩ := inv.alone owner
    dsimp only
    split
    · split
      · exact inv_goto others owner rfl rfl dimmer Bool.false_ne_true nofun nofun
      · exact inv
    · exact inv_moves inv owner rfl rfl rfl rfl rfl ⟨nofun, nofun⟩
  | startAutoOff =>
    have owner := held (by rw [pc]; rfl)
    obtain ⟨others, dimmer, autoOff⟩ := inv.alone owner
    exact inv_goto others owner rfl rfl dimmer Bool.false_ne_true nofun nofun
  | lockAutoOff | relockAutoOff => exact await_inv inv (held (by rw [pc]; rfl)) nofun rfl ⟨nofun, nofun⟩
  | unlockUpDown | releaseAutoOff | unlockAutoOff =>
    exact unlock_inv inv (held (by rw [pc]; rfl)) nofun rfl ⟨nofun, nofun⟩
  | cancelAutoPowerOff | cancelDimmer =>
    exact inv_moves inv (held (by rw [pc]; rfl)) rfl rfl rfl rfl rfl ⟨nofun, nofun⟩
  | unlockRadio => exact leave_inv inv (held (by rw [pc]; rfl))

/-- A call changes nothing but the program counter of an idle thread. -/
theorem call_inv {s : Threads τ} {t : τ} {call : RadioCall} (inv : Inv s) (idle : s.callers t = .idle) :
    Inv (s.goto t (.lockRadio call)) := by
  have callers : ∀ u, ((s.goto t (.lockRadio call)).callers u).inside = (s.callers u).inside := by
    intro u
    show (Function.update s.callers t (.lockRadio call) u).inside = _
    by_cases mine : u = t
    · subst mine
      rw [Function.update_self, idle]
      rfl
    · rw [Function.update_of_ne mine]
  have joining : ∀ u pc, pc.inside = true → (s.goto t (.lockRadio call)).callers u = pc → s.callers u = pc := by
    intro u pc inside here
    have other : u ≠ t := by
      rintro rfl
      rw [← here, callers, idle] at inside
      cases inside
    rw [← here]
    exact (Function.update_of_ne other (.lockRadio call) s.callers).symm
  refine ⟨fun u => ?_, inv.dimmer, inv.autoOff, fun u here => ?_, fun u here => ?_⟩
  · rw [callers u]
    exact inv.callers u
  · exact inv.joinDimmer u (joining u .joinDimmer rfl here)
  · exact inv.joinAutoOff u (joining u .joinAutoOff rfl here)

theorem step_inv {s : Threads τ} {event : ThreadEvent τ} (inv : Inv s) (stoppable : s.Stoppable event) :
    Inv (s.step event) := by
  cases event with
  | call t call =>
    simp only [step]
    split
    · rename_i idle
      exact call_inv inv idle
    · exact inv
  | next agent =>
    cases agent with
    | caller t => exact callerStep_inv inv stoppable
    | dimmer => exact dimmerStep_inv inv
    | autoOff => exact autoOffStep_inv inv

/-! ### A thread that can no longer be stopped -/

theorem clearDimmer_deadlocks {s : Threads τ} {t : τ} {thread : DimmerThread} (inv : Inv s)
    (pc : s.callers t = .clearDimmer) (present : s.dimmer = some thread) (waiting : thread.pc = .lockRadio) :
    (s.callerStep t).Deadlocked := by
  have owner := (inv.callers t).mp (by rw [pc]; rfl)
  have next : s.callerStep t = (s.setDimmerRunning false).goto t .joinDimmer := by
    simp [callerStep, pc, present]
  rw [next]
  refine ⟨.caller t, .dimmer, .radio, ?_, ?_, owner⟩
  · simp [joins, goto, setDimmerRunning, present]
  · simp [wants, goto, setDimmerRunning, present, waiting]

theorem clearAutoOff_deadlocks {s : Threads τ} {t : τ} {thread : AutoOffThread} (inv : Inv s)
    (pc : s.callers t = .clearAutoOff) (present : s.autoOff = some thread) (waiting : thread.pc = .lockRadio) :
    (s.callerStep t).Deadlocked := by
  have owner := (inv.callers t).mp (by rw [pc]; rfl)
  have next : s.callerStep t = { s.goto t .joinAutoOff with mAutoOffThreadRunning := false } := by
    simp [callerStep, pc, present]
  rw [next]
  refine ⟨.caller t, .autoOff, .radio, ?_, ?_, owner⟩
  · simp [joins, goto, present]
  · simp [wants, goto, present, waiting]

theorem step_deadlocks {s : Threads τ} {event : ThreadEvent τ} (inv : Inv s) (late : ¬ s.Stoppable event) :
    (s.step event).Deadlocked := by
  match event with
  | .next (.caller t) =>
    simp only [Stoppable, not_and_or, not_forall, not_not] at late
    obtain ⟨pc, thread, present, waiting⟩ | ⟨pc, thread, present, waiting⟩ := late
    · exact clearDimmer_deadlocks inv pc present waiting
    · exact clearAutoOff_deadlocks inv pc present waiting
  | .call _ _ | .next .dimmer | .next .autoOff => exact absurd trivial late

/-- The radio stays out of the deadlock in exactly the runs in which `pwrOn` never stops a timer thread
that already waits for the mutex of the radio. -/
theorem never_deadlocked_iff (events : List (ThreadEvent τ)) :
    (∀ n, ¬ (stateAt step ({} : Threads τ) events n).Deadlocked) ↔ Meets step Stoppable ({} : Threads τ) events := by
  have keep : ∀ (s : Threads τ) event, Inv s → s.Stoppable event → Inv (s.step event) := by
    intro s event inv stoppable
    exact step_inv inv stoppable
  have breaks : ∀ (s : Threads τ) event, Inv s → ¬ s.Stoppable event → ¬ ¬ (s.step event).Deadlocked := by
    intro s event inv late free
    exact free (step_deadlocks inv late)
  exact (meets_iff_always (fun _ inv => not_deadlocked inv) keep breaks inv_start).symm

end

/-- The alarm goes off again while the dimmer thread is about to turn up the volume. -/
def secondAlarm : List (ThreadEvent Unit) :=
  [.call () (.pwrOn true 30)] ++ List.replicate 12 (.next (.caller ())) ++ List.replicate 4 (.next .dimmer) ++
    [.call () (.pwrOn true 30)] ++ List.replicate 3 (.next (.caller ()))

theorem pwrOn_joins_waiting_dimmer : ∃ n, (stateAt step ({} : Threads Unit) secondAlarm n).Deadlocked :=
  ⟨21, .caller (), .dimmer, .radio, by decide, by decide, by decide⟩

end Threads

end

end RgbClock.Devices
