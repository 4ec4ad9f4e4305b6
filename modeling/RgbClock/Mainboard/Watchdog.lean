import Mathlib.Data.List.AList
import RgbClock.Lib.Run

/-! The watchdog of the mainboard: feeders promise to signal within a timeout, and the watchdog
thread sends the keep-alive while every promise is kept. -/

namespace RgbClock.Mainboard
open Runs

def WATCHDOG_SLEEP : Int := 500

/-- The address of a `WatchdogFeederIf`, never null: the callers pass themselves. -/
abbrev Feeder := Nat

structure FeederInfo where
  mPromiseTimeout : Int
  mCurrentTimeout : Int
  deriving DecidableEq

/-- `std::map<WatchdogFeederIf*, FeederInfo>`; nothing depends on the order of the addresses. -/
abbrev FeederMap := AList fun _ : Feeder => FeederInfo

structure Watchdog where
  mWatchdogHandle : Int
  mWatchdogFeeders : FeederMap := ∅
  mWatchdogThreadRunning : Bool := true

namespace Watchdog

def promiseWatchdog (w : Watchdog) (feeder : Feeder) (timeoutMiliseconds : Int) : Watchdog :=
  { w with mWatchdogFeeders := w.mWatchdogFeeders.insert feeder ⟨timeoutMiliseconds, timeoutMiliseconds⟩ }

def removePromise (w : Watchdog) (feeder : Feeder) : Watchdog :=
  { w with mWatchdogFeeders := w.mWatchdogFeeders.erase feeder }

def signalWatchdog (w : Watchdog) (feeder : Feeder) : Watchdog :=
  match w.mWatchdogFeeders.lookup feeder with
  | some info =>
    { w with mWatchdogFeeders :=
        w.mWatchdogFeeders.insert feeder { info with mCurrentTimeout := info.mPromiseTimeout } }
  | none => w

def countDown (feeders : FeederMap) : FeederMap where
  entries := feeders.entries.map
    (.map id fun _ info => { info with mCurrentTimeout := info.mCurrentTimeout - WATCHDOG_SLEEP })
  nodupKeys := feeders.nodupKeys.map₂ _ _

/-- One iteration, and whether it sends `WDIOC_KEEPALIVE`. A broken promise ends the thread. -/
def watchdogThread (w : Watchdog) : Watchdog × Bool :=
  if w.mWatchdogThreadRunning then
    let feeders := countDown w.mWatchdogFeeders
    let running := feeders.entries.all fun feeder => !decide (feeder.2.mCurrentTimeout < 0)
    ({ w with mWatchdogFeeders := feeders, mWatchdogThreadRunning := running },
      running && decide (w.mWatchdogHandle > 0))
  else (w, false)

inductive Event where
  | promiseWatchdog (feeder : Feeder) (timeoutMiliseconds : Int)
  | removePromise (feeder : Feeder)
  | signalWatchdog (feeder : Feeder)
  | iteration
  deriving DecidableEq

def step (w : Watchdog) : Event → Watchdog
  | .promiseWatchdog feeder timeout => w.promiseWatchdog feeder timeout
  | .removePromise feeder => w.removePromise feeder
  | .signalWatchdog feeder => w.signalWatchdog feeder
  | .iteration => w.watchdogThread.1

/-! ### The promises in a history -/

/-- The latest promise of a feeder, if it has not been removed since. The latest event comes first. -/
def promised (feeder : Feeder) : List Event → Option Int
  | [] => none
  | .promiseWatchdog f timeout :: past => if f = feeder then some timeout else promised feeder past
  | .removePromise f :: past => if f = feeder then none else promised feeder past
  | .signalWatchdog _ :: past | .iteration :: past => promised feeder past

/-- The iterations since the latest promise or signal of a feeder. -/
def waited (feeder : Feeder) : List Event → Nat
  | [] => 0
  | .promiseWatchdog f _ :: past | .signalWatchdog f :: past => if f = feeder then 0 else waited feeder past
  | .removePromise _ :: past => waited feeder past
  | .iteration :: past => waited feeder past + 1

/-- One more iteration after these events finds every promise kept. -/
def Kept (past : List Event) : Prop :=
  ∀ feeder timeout, promised feeder past = some timeout → (waited feeder past + 1) * WATCHDOG_SLEEP ≤ timeout

/-! ### The map in a run -/

theorem lookup_countDown (feeders : FeederMap) (feeder : Feeder) :
    (countDown feeders).lookup feeder =
      (feeders.lookup feeder).map fun info => { info with mCurrentTimeout := info.mCurrentTimeout - WATCHDOG_SLEEP } :=
  List.dlookup_map₂ feeder

/-- A running thread goes on, and an open device gets its keep-alive, if every feeder has time left. -/
theorem watchdogThread_running {w : Watchdog} (running : w.mWatchdogThreadRunning = true) :
    w.watchdogThread.1.mWatchdogThreadRunning = true ↔
      ∀ feeder info, w.mWatchdogFeeders.lookup feeder = some info → WATCHDOG_SLEEP ≤ info.mCurrentTimeout := by
  have left : ∀ time : Int, (!decide (time - WATCHDOG_SLEEP < 0)) = true ↔ WATCHDOG_SLEEP ≤ time := by
    intro time
    rw [Bool.not_eq_true', decide_eq_false_iff_not]
    omega
  simp only [watchdogThread, running, if_true, countDown, List.all_map, List.all_eq_true, Function.comp_apply,
    Sigma.map]
  constructor
  · intro kept feeder info found
    exact (left _).mp (kept ⟨feeder, info⟩ (AList.mem_lookup_iff.mp found))
  · rintro kept ⟨feeder, info⟩ member
    exact (left _).mpr (kept feeder info (AList.mem_lookup_iff.mpr member))

theorem watchdogThread_stopped {w : Watchdog} (stopped : w.mWatchdogThreadRunning = false) :
    w.watchdogThread = (w, false) := by
  simp [watchdogThread, stopped]

theorem watchdogThread_keepAlive (w : Watchdog) :
    w.watchdogThread.2 = true ↔ w.watchdogThread.1.mWatchdogThreadRunning = true ∧ 0 < w.mWatchdogHandle := by
  unfold watchdogThread
  split
  · simp
  · rename_i stopped
    simp [stopped]

/-- While the thread runs, the map holds the promises of the history with the time that is left. -/
def Tracks (w : Watchdog) (past : List Event) : Prop :=
  ∀ feeder, w.mWatchdogFeeders.lookup feeder =
    (promised feeder past).map fun timeout => ⟨timeout, timeout - waited feeder past * WATCHDOG_SLEEP⟩

theorem tracks_kept {w : Watchdog} {past : List Event} (tracks : w.Tracks past) :
    (∀ feeder info, w.mWatchdogFeeders.lookup feeder = some info → WATCHDOG_SLEEP ≤ info.mCurrentTimeout) ↔
      Kept past := by
  have left : ∀ (timeout : Int) (n : Nat),
      WATCHDOG_SLEEP ≤ timeout - n * WATCHDOG_SLEEP ↔ (n + 1) * WATCHDOG_SLEEP ≤ timeout := by
    intro timeout n
    unfold WATCHDOG_SLEEP
    omega
  constructor
  · intro kept feeder timeout promise
    have found := tracks feeder
    rw [promise] at found
    exact (left _ _).mp (kept feeder _ found)
  · intro kept feeder info found
    rw [tracks feeder] at found
    obtain ⟨timeout, promise, rfl⟩ := Option.map_eq_some_iff.mp found
    exact (left _ _).mpr (kept feeder timeout promise)

theorem tracks_step {w : Watchdog} {past : List Event} (tracks : w.Tracks past) {e : Event}
    (running : w.mWatchdogThreadRunning = true) : (w.step e).Tracks (e :: past) := by
  intro feeder
  have before := tracks feeder
  cases e with
  | promiseWatchdog f timeout =>
    by_cases same : f = feeder
    · subst same
      simp [step, promiseWatchdog, promised, waited]
    · simp [step, promiseWatchdog, promised, waited, same, AList.lookup_insert_ne (Ne.symm same), before]
  | removePromise f =>
    by_cases same : f = feeder
    · subst same
      simp [step, removePromise, promised]
    · simp [step, removePromise, promised, waited, same, AList.lookup_erase_ne (Ne.symm same), before]
  | signalWatchdog f =>
    by_cases same : f = feeder
    · subst same
      rw [step, signalWatchdog, before]
      cases promise : promised f past with
      | none => simp [promised, promise, before]
      | some timeout => simp [promised, promise, waited]
    · have frame : (w.step (.signalWatchdog f)).mWatchdogFeeders.lookup feeder = w.mWatchdogFeeders.lookup feeder := by
        simp only [step, signalWatchdog]
        cases w.mWatchdogFeeders.lookup f with
        | none => rfl
        | some info => exact AList.lookup_insert_ne (Ne.symm same)
      simp [frame, promised, waited, same, before]
  | iteration =>
    have counted : (w.step .iteration).mWatchdogFeeders = countDown w.mWatchdogFeeders := by
      simp [step, watchdogThread, running]
    have later : ∀ timeout : Int, timeout - (waited feeder past : Int) * WATCHDOG_SLEEP - WATCHDOG_SLEEP =
        timeout - ((waited feeder past + 1 : Nat) : Int) * WATCHDOG_SLEEP := by
      intro timeout
      unfold WATCHDOG_SLEEP
      omega
    rw [counted, lookup_countDown, before, Option.map_map]
    simp only [Function.comp_def, promised, waited, later]

/-! ### Keep-alives -/

section
variable (handle : Int) (events : List Event)

def start : Watchdog := { mWatchdogHandle := handle }

/-- The event at this place is an iteration that sends the keep-alive. -/
def KeepsAlive (n : Nat) : Prop :=
  events[n]? = some .iteration ∧ (stateAt step (start handle) events n).watchdogThread.2 = true

/-- An iteration at this place finds every promise kept. -/
def KeptAt (n : Nat) : Prop := events[n]? = some .iteration → Kept (events.take n).reverse

theorem step_frame (w : Watchdog) (e : Event) :
    (w.step e).mWatchdogHandle = w.mWatchdogHandle ∧
      (e ≠ .iteration → (w.step e).mWatchdogThreadRunning = w.mWatchdogThreadRunning) := by
  cases e with
  | promiseWatchdog | removePromise => exact ⟨rfl, fun _ => rfl⟩
  | signalWatchdog feeder =>
    simp only [step, signalWatchdog]
    split <;> exact ⟨rfl, fun _ => rfl⟩
  | iteration =>
    refine ⟨?_, fun other => absurd rfl other⟩
    simp only [step, watchdogThread]
    split <;> rfl

theorem running_before {w : Watchdog} {e : Event} (running : (w.step e).mWatchdogThreadRunning = true) :
    w.mWatchdogThreadRunning = true := by
  by_cases iteration : e = .iteration
  · subst iteration
    by_contra stopped
    rw [Bool.not_eq_true] at stopped
    rw [step, watchdogThread_stopped stopped, stopped] at running
    cases running
  · rwa [(step_frame w e).2 iteration] at running

theorem tracks_stateAt (n : Nat) (running : (stateAt step (start handle) events n).mWatchdogThreadRunning = true) :
    (stateAt step (start handle) events n).Tracks (events.take n).reverse := by
  induction n with
  | zero => exact fun _ => rfl
  | succ n ih =>
    cases found : events[n]? with
    | none =>
      rw [stateAt_end found] at running ⊢
      rw [List.take_add_one, found, Option.toList_none, List.append_nil]
      exact ih running
    | some e =>
      rw [stateAt_succ found] at running ⊢
      rw [List.take_add_one, found, Option.toList_some, List.reverse_concat]
      have before := running_before running
      exact tracks_step (ih before) before

/-- The thread runs as long as every iteration has found every promise kept. -/
theorem running_iff (n : Nat) :
    (stateAt step (start handle) events n).mWatchdogThreadRunning = true ↔ ∀ m < n, KeptAt events m := by
  induction n with
  | zero => exact iff_of_true rfl fun _ below => absurd below (Nat.not_lt_zero _)
  | succ n ih =>
    rw [Nat.forall_lt_succ_right, ← ih]
    unfold KeptAt
    cases found : events[n]? with
    | none =>
      rw [stateAt_end found]
      exact ⟨fun running => ⟨running, nofun⟩, And.left⟩
    | some e =>
      rw [stateAt_succ found]
      by_cases iteration : e = .iteration
      · subst iteration
        constructor
        · intro running
          have before := running_before running
          rw [step, watchdogThread_running before, tracks_kept (tracks_stateAt handle events n before)] at running
          exact ⟨before, fun _ => running⟩
        · intro given
          obtain ⟨before, kept⟩ := given
          rw [step, watchdogThread_running before, tracks_kept (tracks_stateAt handle events n before)]
          exact kept rfl
      · rw [(step_frame _ e).2 iteration]
        exact ⟨fun running => ⟨running, fun same => absurd (Option.some.inj same) iteration⟩, And.left⟩

theorem mWatchdogHandle_stateAt (n : Nat) : (stateAt step (start handle) events n).mWatchdogHandle = handle := by
  have keep : ∀ (w : Watchdog) (e : Event), w.mWatchdogHandle = handle → (w.step e).mWatchdogHandle = handle :=
    fun w e same => ((step_frame w e).1).trans same
  exact run_invariant keep rfl

/-- The keep-alive is sent in an iteration if the device is open and this and every earlier iteration
finds every promise kept; once a promise is broken, it is never sent again. -/
theorem keepsAlive_iff :
    (∀ n, KeepsAlive handle events n ↔
      0 < handle ∧ events[n]? = some .iteration ∧ ∀ m ≤ n, KeptAt events m) ∧
    ∀ m n, m ≤ n → ¬ KeptAt events m → ¬ KeepsAlive handle events n := by
  have sent : ∀ n, KeepsAlive handle events n ↔
      0 < handle ∧ events[n]? = some .iteration ∧ ∀ m ≤ n, KeptAt events m := by
    intro n
    have upTo : (∀ m ≤ n, KeptAt events m) ↔ ∀ m < n + 1, KeptAt events m := by
      simp only [Nat.lt_succ_iff]
    rw [upTo, ← running_iff handle, KeepsAlive, watchdogThread_keepAlive, mWatchdogHandle_stateAt]
    constructor
    · intro given
      obtain ⟨found, running, opened⟩ := given
      rw [stateAt_succ found]
      exact ⟨opened, found, running⟩
    · intro given
      obtain ⟨opened, found, running⟩ := given
      rw [stateAt_succ found] at running
      exact ⟨found, running, opened⟩
  refine ⟨sent, fun m n earlier broken alive => ?_⟩
  exact broken (((sent n).mp alive).2.2 m earlier)

end

end Watchdog

end RgbClock.Mainboard
