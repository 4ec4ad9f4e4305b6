import RgbClock.Mainboard.Watchdog

/-! The two threads of a keyboard under the watchdog. Both promise as the same feeder, the `Keyboard`:
the later promise replaces the earlier one, and only the read thread signals. -/

namespace RgbClock.Mainboard
open Runs

/-- The promise of `Keyboard::readThread`, in milliseconds. -/
def READ_PROMISE : Int := 500

/-- The promise of `Keyboard::keyboardWorkerThread`, in milliseconds. -/
def WORKER_PROMISE : Int := 5000

/-- The mainboard with the time since each thread's last step, in watchdog iterations. A thread that
has not made its promise yet has no such time. -/
structure Guard where
  mainboard : Watchdog
  readIdle : Option Nat := none
  workIdle : Option Nat := none

namespace Guard

inductive Event where
  | readThread
  | keyboardWorkerThread
  | watchdogThread
  deriving DecidableEq

section
variable (keyboard : Feeder)

/-- The first step of a keyboard thread is its promise; the worker never signals. -/
def step (g : Guard) : Event → Guard
  | .readThread =>
    match g.readIdle with
    | none => { g with mainboard := g.mainboard.promiseWatchdog keyboard READ_PROMISE, readIdle := some 0 }
    | some _ => { g with mainboard := g.mainboard.signalWatchdog keyboard, readIdle := some 0 }
  | .keyboardWorkerThread =>
    match g.workIdle with
    | none => { g with mainboard := g.mainboard.promiseWatchdog keyboard WORKER_PROMISE, workIdle := some 0 }
    | some _ => { g with workIdle := some 0 }
  | .watchdogThread =>
    { mainboard := g.mainboard.watchdogThread.1
      readIdle := g.readIdle.map (· + 1)
      workIdle := g.workIdle.map (· + 1) }

/-- The next iteration comes later after the thread's last step than it has promised. -/
def silent (promise : Int) (idle : Option Nat) : Bool :=
  idle.any fun n => decide (promise < (n + 1) * WATCHDOG_SLEEP)

def readSilent (g : Guard) : Bool := silent READ_PROMISE g.readIdle

def workSilent (g : Guard) : Bool := silent WORKER_PROMISE g.workIdle

/-- The keep-alive is withheld from a keyboard with a silent thread. -/
def Guarded (g : Guard) : Event → Prop
  | .watchdogThread => g.readSilent ∨ g.workSilent → g.mainboard.watchdogThread.2 = false
  | _ => True

instance instDecidableGuarded (g : Guard) : ∀ e, Decidable (g.Guarded e)
  | .watchdogThread =>
    inferInstanceAs (Decidable (g.readSilent ∨ g.workSilent → g.mainboard.watchdogThread.2 = false))
  | .readThread | .keyboardWorkerThread => isTrue trivial

/-- The promise that stands for the keyboard. -/
def standing (g : Guard) : Option Int := (g.mainboard.mWatchdogFeeders.lookup keyboard).map (·.mPromiseTimeout)

/-- While the watchdog runs, a silent read thread is held to its own promise, and a silent worker
has no read thread that signals for it. -/
def Covered (g : Guard) : Event → Prop
  | .watchdogThread => g.mainboard.mWatchdogThreadRunning →
      (g.readSilent → g.standing keyboard = some READ_PROMISE) ∧
        (g.workSilent → g.readIdle = none ∨ g.readSilent)
  | _ => True

/-- The keep-alives of a run, one entry for each iteration. -/
def keepAlives (g : Guard) : List Event → List Bool
  | [] => []
  | e :: rest =>
    let later := keepAlives (g.step keyboard e) rest
    if e = .watchdogThread then g.mainboard.watchdogThread.2 :: later else later

end

/-! ### One entry in the map -/

/-- The watchdog runs on an open device, and the keyboard's entry is the only one. -/
structure Holds (keyboard : Feeder) (w : Watchdog) (entry : Option FeederInfo) : Prop where
  opened : 0 < w.mWatchdogHandle
  running : w.mWatchdogThreadRunning = true
  lookup : ∀ feeder, w.mWatchdogFeeders.lookup feeder = if feeder = keyboard then entry else none

variable {keyboard : Feeder} {w : Watchdog} {entry : Option FeederInfo} {info : FeederInfo}

theorem Holds.found (holds : Holds keyboard w entry) : w.mWatchdogFeeders.lookup keyboard = entry := by
  rw [holds.lookup keyboard, if_pos rfl]

theorem Holds.insert (holds : Holds keyboard w entry) (info : FeederInfo) :
    Holds keyboard { w with mWatchdogFeeders := w.mWatchdogFeeders.insert keyboard info } (some info) := by
  refine ⟨holds.opened, holds.running, fun feeder => ?_⟩
  by_cases same : feeder = keyboard
  · subst same
    rw [if_pos rfl, AList.lookup_insert]
  · rw [if_neg same, AList.lookup_insert_ne same, holds.lookup feeder, if_neg same]

theorem Holds.promise (holds : Holds keyboard w entry) (timeout : Int) :
    Holds keyboard (w.promiseWatchdog keyboard timeout) (some ⟨timeout, timeout⟩) :=
  holds.insert _

theorem Holds.signal (holds : Holds keyboard w (some info)) :
    Holds keyboard (w.signalWatchdog keyboard) (some ⟨info.mPromiseTimeout, info.mPromiseTimeout⟩) := by
  simp only [Watchdog.signalWatchdog, holds.found]
  apply holds.insert

/-- The iteration goes on, and sends the keep-alive, if the entry has time left. -/
theorem Holds.goesOn (holds : Holds keyboard w entry) :
    w.watchdogThread.1.mWatchdogThreadRunning = true ↔ ∀ info ∈ entry, WATCHDOG_SLEEP ≤ info.mCurrentTimeout := by
  rw [Watchdog.watchdogThread_running holds.running]
  constructor
  · intro kept info member
    exact kept keyboard info (holds.found.trans member)
  · intro kept feeder info found
    rw [holds.lookup feeder] at found
    split at found
    · exact kept info found
    · cases found

theorem Holds.sends (holds : Holds keyboard w entry) :
    w.watchdogThread.2 = true ↔ ∀ info ∈ entry, WATCHDOG_SLEEP ≤ info.mCurrentTimeout := by
  rw [Watchdog.watchdogThread_keepAlive, ← holds.goesOn]
  exact and_iff_left holds.opened

theorem Holds.iterate (holds : Holds keyboard w entry) (running : w.watchdogThread.1.mWatchdogThreadRunning = true) :
    Holds keyboard w.watchdogThread.1
      (entry.map fun info => { info with mCurrentTimeout := info.mCurrentTimeout - WATCHDOG_SLEEP }) := by
  have counted : w.watchdogThread.1.mWatchdogFeeders = Watchdog.countDown w.mWatchdogFeeders := by
    simp [Watchdog.watchdogThread, holds.running]
  refine ⟨?_, running, fun feeder => ?_⟩
  · show 0 < (w.step .iteration).mWatchdogHandle
    rw [(Watchdog.step_frame w .iteration).1]
    exact holds.opened
  · rw [counted, Watchdog.lookup_countDown, holds.lookup feeder]
    split <;> rfl

/-! ### Whose promise stands -/

/-- What is left of a promise after some iterations. -/
def entryAfter (promise : Int) (n : Nat) : FeederInfo := ⟨promise, promise - n * WATCHDOG_SLEEP⟩

theorem entryAfter_zero (promise : Int) : entryAfter promise 0 = ⟨promise, promise⟩ := by
  simp [entryAfter]

theorem entryAfter_succ (promise : Int) (n : Nat) :
    { entryAfter promise n with mCurrentTimeout := (entryAfter promise n).mCurrentTimeout - WATCHDOG_SLEEP } =
      entryAfter promise (n + 1) := by
  simp only [entryAfter, WATCHDOG_SLEEP]
  congr 1
  omega

theorem silent_some (promise : Int) (n : Nat) :
    silent promise (some n) = true ↔ promise < (n + 1) * WATCHDOG_SLEEP := by
  simp [silent]

theorem sends_entryAfter {promise : Int} {n : Nat} (holds : Holds keyboard w (some (entryAfter promise n))) :
    w.watchdogThread.2 = true ↔ (n + 1) * WATCHDOG_SLEEP ≤ promise := by
  rw [holds.sends]
  simp only [Option.mem_some_iff, forall_eq', entryAfter, WATCHDOG_SLEEP]
  omega

theorem standing_entryAfter {g : Guard} {promise : Int} {n : Nat}
    (holds : Holds keyboard g.mainboard (some (entryAfter promise n))) : g.standing keyboard = some promise := by
  rw [standing, holds.found]
  rfl

theorem worker_ne_read : WORKER_PROMISE ≠ READ_PROMISE := by decide

/-- Whose promise the watchdog holds the keyboard to. The read thread's signals also feed the promise of
the worker. -/
inductive Standing (keyboard : Feeder) (g : Guard) : Prop where
  | stopped (stopped : g.mainboard.mWatchdogThreadRunning = false)
  | nobody (holds : Holds keyboard g.mainboard none) (reader : g.readIdle = none) (worker : g.workIdle = none)
  | reader (n : Nat) (holds : Holds keyboard g.mainboard (some (entryAfter READ_PROMISE n)))
      (reader : g.readIdle = some n) (recent : n ≤ 1)
  | worker (n k : Nat) (holds : Holds keyboard g.mainboard (some (entryAfter WORKER_PROMISE n)))
      (worker : g.workIdle = some k) (alone : g.readIdle = none → k ≤ n)
      (fed : ∀ r, g.readIdle = some r → n ≤ r ∧ r ≤ 1)

theorem signal_running (w : Watchdog) :
    (w.signalWatchdog keyboard).mWatchdogThreadRunning = w.mWatchdogThreadRunning :=
  (Watchdog.step_frame w (.signalWatchdog keyboard)).2 nofun

theorem readThread_standing {g : Guard} (standing : g.Standing keyboard) :
    (g.step keyboard .readThread).Standing keyboard := by
  cases begun : g.readIdle with
  | none =>
    simp only [step, begun]
    have promised : ∀ entry, Holds keyboard g.mainboard entry →
        Holds keyboard (g.mainboard.promiseWatchdog keyboard READ_PROMISE) (some (entryAfter READ_PROMISE 0)) := by
      intro entry holds
      rw [entryAfter_zero]
      apply holds.promise
    cases standing with
    | stopped stopped => exact .stopped stopped
    | nobody holds => exact .reader 0 (promised _ holds) rfl (Nat.zero_le 1)
    | reader n holds => exact .reader 0 (promised _ holds) rfl (Nat.zero_le 1)
    | worker n k holds => exact .reader 0 (promised _ holds) rfl (Nat.zero_le 1)
  | some r =>
    simp only [step, begun]
    cases standing with
    | stopped stopped => exact .stopped ((signal_running _).trans stopped)
    | nobody holds reader => rw [begun] at reader; cases reader
    | reader n holds =>
      have fed := holds.signal
      rw [← entryAfter_zero] at fed
      exact .reader 0 fed rfl (Nat.zero_le 1)
    | worker n k holds worker =>
      have fed := holds.signal
      rw [← entryAfter_zero] at fed
      refine .worker 0 k fed worker (fun none => by cases none) fun r same => ?_
      cases same
      exact ⟨Nat.le_refl 0, Nat.zero_le 1⟩

theorem keyboardWorkerThread_standing {g : Guard} (standing : g.Standing keyboard) :
    (g.step keyboard .keyboardWorkerThread).Standing keyboard := by
  cases begun : g.workIdle with
  | none =>
    simp only [step, begun]
    have promised : ∀ entry, Holds keyboard g.mainboard entry →
        Holds keyboard (g.mainboard.promiseWatchdog keyboard WORKER_PROMISE) (some (entryAfter WORKER_PROMISE 0)) := by
      intro entry holds
      rw [entryAfter_zero]
      apply holds.promise
    cases standing with
    | stopped stopped => exact .stopped stopped
    | nobody holds reader =>
      refine .worker 0 0 (promised _ holds) rfl (fun _ => Nat.le_refl 0) fun r same => ?_
      rw [reader] at same
      cases same
    | reader n holds reader recent =>
      refine .worker 0 0 (promised _ holds) rfl (fun _ => Nat.le_refl 0) fun r same => ?_
      rw [reader] at same
      cases same
      exact ⟨Nat.zero_le n, recent⟩
    | worker n k holds worker => rw [begun] at worker; cases worker
  | some k =>
    simp only [step, begun]
    cases standing with
    | stopped stopped => exact .stopped stopped
    | nobody holds reader worker => rw [begun] at worker; cases worker
    | reader n holds reader recent => exact .reader n holds reader recent
    | worker n k holds worker alone fed => exact .worker n 0 holds rfl (fun _ => Nat.zero_le n) fed

theorem watchdogThread_standing {g : Guard} (standing : g.Standing keyboard) (covered : g.Covered keyboard .watchdogThread) :
    (g.step keyboard .watchdogThread).Standing keyboard := by
  by_cases running : g.mainboard.watchdogThread.1.mWatchdogThreadRunning = true
  · cases standing with
    | stopped stopped =>
      rw [Watchdog.watchdogThread_stopped stopped, stopped] at running
      cases running
    | nobody holds reader worker =>
      exact .nobody (holds.iterate running) (by simp [step, reader]) (by simp [step, worker])
    | reader n holds reader recent =>
      have left := holds.goesOn.mp running (entryAfter READ_PROMISE n) rfl
      have kept := holds.iterate running
      rw [Option.map_some, entryAfter_succ] at kept
      refine .reader (n + 1) kept (by simp [step, reader]) ?_
      simp only [entryAfter, READ_PROMISE, WATCHDOG_SLEEP] at left
      omega
    | worker n k holds worker alone fed =>
      have kept := holds.iterate running
      rw [Option.map_some, entryAfter_succ] at kept
      have own := (covered holds.running).1
      refine .worker (n + 1) (k + 1) kept (by simp [step, worker]) (fun none => ?_) fun r same => ?_
      · exact Nat.succ_le_succ (alone (Option.map_eq_none_iff.mp none))
      · obtain ⟨r, reader, rfl⟩ := Option.map_eq_some_iff.mp same
        obtain ⟨older, -⟩ := fed r reader
        -- A silent reader is held to its own promise, which is not the one that stands.
        have spoken : ¬ READ_PROMISE < (r + 1) * WATCHDOG_SLEEP := by
          intro late
          have mine := own (by rw [readSilent, reader, silent_some]; exact late)
          rw [standing_entryAfter holds] at mine
          exact worker_ne_read (Option.some.inj mine)
        simp only [READ_PROMISE, WATCHDOG_SLEEP] at spoken
        omega
  · exact .stopped (Bool.not_eq_true _ ▸ running)

theorem step_standing (g : Guard) (e : Event) (standing : g.Standing keyboard) (covered : g.Covered keyboard e) :
    (g.step keyboard e).Standing keyboard := by
  cases e with
  | readThread => exact readThread_standing standing
  | keyboardWorkerThread => exact keyboardWorkerThread_standing standing
  | watchdogThread => exact watchdogThread_standing standing covered

/-- Where the promises stand as they do, the iterations that are covered are the guarded ones. -/
theorem guarded_iff_covered (g : Guard) (e : Event) (standing : g.Standing keyboard) :
    g.Covered keyboard e ↔ g.Guarded e := by
  cases e with
  | readThread | keyboardWorkerThread => exact Iff.rfl
  | watchdogThread =>
    simp only [Covered, Guarded, ← Bool.not_eq_true]
    cases standing with
    | stopped stopped => simp [stopped, Watchdog.watchdogThread_stopped stopped]
    | nobody holds reader worker => simp [readSilent, workSilent, silent, reader, worker]
    | reader n holds reader recent =>
      have late : g.readSilent = true ↔ READ_PROMISE < (n + 1) * WATCHDOG_SLEEP := by
        rw [readSilent, reader, silent_some]
      rw [sends_entryAfter holds, Int.not_le, ← late]
      simp only [holds.running, standing_entryAfter holds, reader]
      by_cases silent : g.readSilent = true <;> simp [silent]
    | worker n k holds worker alone fed =>
      have other : g.standing keyboard ≠ some READ_PROMISE := by
        rw [standing_entryAfter holds]
        exact fun same => worker_ne_read (Option.some.inj same)
      have late : g.workSilent = true ↔ WORKER_PROMISE < (k + 1) * WATCHDOG_SLEEP := by
        rw [workSilent, worker, silent_some]
      rw [sends_entryAfter holds]
      simp only [holds.running, other]
      cases reader : g.readIdle with
      | none =>
        have unseen : g.readSilent = false := by simp [readSilent, silent, reader]
        have older := alone reader
        simp only [unseen, late, WORKER_PROMISE, WATCHDOG_SLEEP]
        refine iff_of_true (by simp) fun silent => ?_
        simp only [Bool.false_eq_true, false_or] at silent
        omega
      | some r =>
        obtain ⟨older, recent⟩ := fed r reader
        have sent : (n + 1) * WATCHDOG_SLEEP ≤ WORKER_PROMISE := by
          simp only [WORKER_PROMISE, WATCHDOG_SLEEP]
          omega
        by_cases silent : g.readSilent = true <;> simp [silent, sent]

/-! ### The order of the promises -/

/-- The read thread has spoken in time. -/
def Spoken (g : Guard) : Event → Prop
  | .watchdogThread => g.readSilent = false
  | _ => True

/-- The two keyboards whose threads promised in different orders: the first is held to the promise of the
worker, the second to that of the reader. -/
structure Twins (keyboard : Feeder) (g t : Guard) (n r k : Nat) : Prop where
  first : Holds keyboard g.mainboard (some (entryAfter WORKER_PROMISE n))
  second : Holds keyboard t.mainboard (some (entryAfter READ_PROMISE r))
  reader : g.readIdle = some r ∧ t.readIdle = some r
  worker : g.workIdle = some k ∧ t.workIdle = some k
  fed : n ≤ r ∧ r ≤ 1

theorem keepAlives_twins {g t : Guard} {n r k : Nat} (twins : Twins keyboard g t n r k) (events : List Event) :
    g.keepAlives keyboard events = t.keepAlives keyboard events ↔ Meets (step keyboard) Spoken g events := by
  induction events generalizing g t n r k with
  | nil => exact iff_of_true rfl trivial
  | cons e rest ih =>
    obtain ⟨first, second, reader, worker, older, recent⟩ := twins
    cases e with
    | readThread =>
      have fedFirst := first.signal
      have fedSecond := second.signal
      rw [← entryAfter_zero] at fedFirst fedSecond
      have later : Twins keyboard (g.step keyboard .readThread) (t.step keyboard .readThread) 0 0 k := by
        simp only [step, reader]
        exact ⟨fedFirst, fedSecond, ⟨rfl, rfl⟩, worker, by omega⟩
      simpa [keepAlives, Meets, Spoken] using ih later
    | keyboardWorkerThread =>
      have later : Twins keyboard (g.step keyboard .keyboardWorkerThread) (t.step keyboard .keyboardWorkerThread) n r 0 := by
        simp only [step, worker]
        exact ⟨first, second, reader, ⟨rfl, rfl⟩, older, recent⟩
      simpa [keepAlives, Meets, Spoken] using ih later
    | watchdogThread =>
      have sent : g.mainboard.watchdogThread.2 = true := by
        rw [sends_entryAfter first]
        simp only [WORKER_PROMISE, WATCHDOG_SLEEP]
        omega
      have late : g.readSilent = true ↔ READ_PROMISE < (r + 1) * WATCHDOG_SLEEP := by
        rw [readSilent, reader.1, silent_some]
      by_cases silent : g.readSilent = true
      · have withheld : t.mainboard.watchdogThread.2 = false := by
          rw [← Bool.not_eq_true, sends_entryAfter second, Int.not_le]
          exact late.mp silent
        simp [keepAlives, Meets, Spoken, sent, withheld, silent]
      · have alive : t.mainboard.watchdogThread.2 = true := by
          rw [sends_entryAfter second, ← Int.not_lt]
          exact fun long => silent (late.mpr long)
        have fresh : r = 0 := by
          rw [late, READ_PROMISE, WATCHDOG_SLEEP] at silent
          omega
        have keptFirst := first.iterate ((Watchdog.watchdogThread_keepAlive _).mp sent).1
        have keptSecond := second.iterate ((Watchdog.watchdogThread_keepAlive _).mp alive).1
        rw [Option.map_some, entryAfter_succ] at keptFirst keptSecond
        have later : Twins keyboard (g.step keyboard .watchdogThread) (t.step keyboard .watchdogThread)
            (n + 1) (r + 1) (k + 1) :=
          ⟨keptFirst, keptSecond, by simp [step, reader], by simp [step, worker], by omega⟩
        simpa [keepAlives, Meets, Spoken, sent, alive, silent] using ih later

theorem keepAlives_append (g : Guard) (first second : List Event) :
    g.keepAlives keyboard (first ++ second) =
      g.keepAlives keyboard first ++ (run (step keyboard) g first).keepAlives keyboard second := by
  induction first generalizing g with
  | nil => rfl
  | cons e rest ih =>
    simp only [List.cons_append, keepAlives, ih, run_cons]
    split <;> rfl

/-- Nobody has promised anything, and the device is open. -/
def start (handle : Nat) : Guard := { mainboard := Watchdog.start (handle + 1) }

theorem start_holds (keyboard : Feeder) (handle : Nat) : Holds keyboard (start handle).mainboard none := by
  refine ⟨?_, rfl, fun feeder => ?_⟩
  · show (0 : Int) < (handle : Int) + 1
    omega
  · split <;> rfl

theorem start_waits (handle n : Nat) :
    run (step keyboard) (start handle) (List.replicate n .watchdogThread) = start handle := by
  induction n with
  | zero => rfl
  | succ n ih => exact ih

/-- The read thread promises before the worker, or after it. -/
def readFirst : List Event := [.readThread, .keyboardWorkerThread]

def workFirst : List Event := [.keyboardWorkerThread, .readThread]

theorem start_twins (handle : Nat) :
    Twins keyboard (run (step keyboard) (start handle) readFirst) (run (step keyboard) (start handle) workFirst) 0 0 0 := by
  have first := ((start_holds keyboard handle).promise READ_PROMISE).promise WORKER_PROMISE
  have second := ((start_holds keyboard handle).promise WORKER_PROMISE).promise READ_PROMISE
  rw [← entryAfter_zero] at first second
  exact ⟨first, second, ⟨rfl, rfl⟩, ⟨rfl, rfl⟩, by omega⟩

/-- The keep-alive is withheld from every keyboard with a silent thread exactly if a silent read thread is
held to its own promise and a silent worker has no read thread that signals; and the order of the two
promises does not matter exactly if the read thread is never silent. -/
theorem guarded_iff (keyboard : Feeder) (handle : Nat) :
    (∀ events, Meets (step keyboard) Guarded (start handle) events ↔
      Meets (step keyboard) (Covered keyboard) (start handle) events) ∧
    ∀ n events,
      (start handle).keepAlives keyboard (List.replicate n .watchdogThread ++ readFirst ++ events) =
          (start handle).keepAlives keyboard (List.replicate n .watchdogThread ++ workFirst ++ events) ↔
        Meets (step keyboard) Spoken (run (step keyboard) (start handle) readFirst) events := by
  refine ⟨fun events => ?_, fun n events => ?_⟩
  · have begun : (start handle).Standing keyboard := .nobody (start_holds keyboard handle) rfl rfl
    exact (meets_congr guarded_iff_covered step_standing begun).symm
  · rw [keepAlives_append, keepAlives_append, keepAlives_append, keepAlives_append, run_append, run_append, start_waits]
    have silently : (start handle).keepAlives keyboard readFirst = [] ∧ (start handle).keepAlives keyboard workFirst = [] :=
      ⟨rfl, rfl⟩
    rw [silently.1, silently.2, List.append_cancel_left_eq]
    exact keepAlives_twins (start_twins handle) events

/-- The reader promises, then the worker, and the reader hangs: two iterations later it is silent, and
the keep-alive is still sent. A worker that hangs while the reader signals is never noticed either. -/
theorem hung_threads_are_fed :
    ¬ Meets (step 1) Guarded (start 0) (readFirst ++ [.watchdogThread, .watchdogThread]) ∧
      ¬ Meets (step 1) Guarded (start 0)
        (workFirst ++ (List.replicate 11 [.readThread, .watchdogThread]).flatten) ∧
      (start 0).keepAlives 1 (readFirst ++ [.watchdogThread, .watchdogThread]) ≠
        (start 0).keepAlives 1 (workFirst ++ [.watchdogThread, .watchdogThread]) := by
  decide

end Guard

end RgbClock.Mainboard
