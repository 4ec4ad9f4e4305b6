import RgbClock.Dab.Receiver

/-! The DAB receiver seen by its callers and by its observers: a call that waits for the thread comes back, the observers
know the texts, and the receiver behaves as one whose calls are single steps. -/

namespace RgbClock.Dab
open Runs Devices

namespace Receiver

section
variable (settings : ReceiverSettings)

/-! ### The end of a call that waits -/

/-- How many steps of its own the thread is from its end, once it has been told to end. -/
def stepsLeft : ReadPc → Nat
  | .start | .status => 5
  | .tune | .data => 4
  | .search | .rssi => 3
  | .test => 2
  | .stop => 1
  | .finished | .outside => 0

theorem Follows.stepsLeft_lt {r : Receiver} (told : r.mReadThreadRunning = false) {pc next : ReadPc}
    (follows : Follows r pc next) : stepsLeft next ≤ stepsLeft pc - 1 := by
  cases pc with
  | test =>
    rw [Follows, told] at follows
    rw [follows]
    decide
  | start | tune | rssi =>
    rcases follows with rfl | rfl <;> decide
  | status | data =>
    rcases follows with rfl | rfl | rfl <;> decide
  | search | stop | finished | outside =>
    cases follows
    decide

/-- A step while a call waits: the call returns, or it goes on waiting and the thread is not further from its end. -/
theorem step_joining {r : Receiver} {pc : ReadPc} (there : r.mReadThread = some pc) (joining : r.joining = true)
    (told : r.mReadThreadRunning = false) (event : ReceiverEvent) :
    (r.step settings event).joining = false ∨
      ∃ next, (r.step settings event).mReadThread = some next ∧ (r.step settings event).joining = true ∧
        (r.step settings event).mReadThreadRunning = false ∧
        stepsLeft next ≤ stepsLeft pc - if event.isThread then 1 else 0 := by
  have waits {after : Receiver} (same : after = r) : ∃ next, after.mReadThread = some next ∧ after.joining = true ∧
      after.mReadThreadRunning = false ∧ stepsLeft next ≤ stepsLeft pc :=
    ⟨pc, same ▸ there, same ▸ joining, same ▸ told, le_rfl⟩
  cases event with
  | powerOn => exact .inr (waits (if_pos joining))
  | powerOff => exact .inr (waits (if_pos joining))
  | join =>
    have moved : r.step settings .join = r.join := if_pos joining
    rw [moved, Receiver.join]
    split
    · exact .inl rfl
    · exact .inr (waits rfl)
  | thread =>
    have moved : r.step settings .thread = r.readThread settings pc := by
      simp only [Receiver.step, there]
    have frame := readThread_frame settings r pc
    obtain ⟨next, after, follows⟩ := readThread_follows settings there
    rw [moved, frame.joining, frame.mReadThreadRunning]
    exact .inr ⟨next, after, joining, told, follows.stepsLeft_lt told⟩
  | registerRadioObserver observer => exact .inr ⟨pc, there, joining, told, le_rfl⟩
  | unRegisterRadioObserver observer => exact .inr ⟨pc, there, joining, told, le_rfl⟩

/-- The caller looks once more after the thread has made its last steps. -/
theorem returns_of_joining {r : Receiver} {pc : ReadPc} (there : r.mReadThread = some pc) (joining : r.joining = true)
    (told : r.mReadThreadRunning = false) {events : List ReceiverEvent}
    (enough : stepsLeft pc ≤ events.countP ReceiverEvent.isThread) :
    (∃ n, (stateAt (Receiver.step settings) r (events ++ [.join]) n).joining = false) ∨
      (run (Receiver.step settings) r (events ++ [.join])).mReadThread = some .outside := by
  induction events generalizing r pc with
  | nil =>
    have zero : stepsLeft pc = 0 := Nat.le_zero.mp enough
    have moved : run (Receiver.step settings) r [.join] = r.join := if_pos joining
    cases pc with
    | finished =>
      refine .inl ⟨1, ?_⟩
      show (run (Receiver.step settings) r [.join]).joining = false
      rw [moved, Receiver.join, if_pos there]
    | outside =>
      right
      rw [List.nil_append, moved, Receiver.join, if_neg (by rw [there]; decide)]
      exact there
    | _ => cases zero
  | cons event rest ih =>
    rcases step_joining settings there joining told event with returned | ⟨next, after, still, ended, closer⟩
    · exact .inl ⟨1, returned⟩
    · rw [List.countP_cons] at enough
      rcases ih after still ended (by omega) with ⟨n, returned⟩ | outside
      · exact .inl ⟨n + 1, returned⟩
      · exact .inr outside

/-- A call of `powerOff` that waits for the thread has returned when it looks after five more steps of the thread, whatever
the other parties do in between; unless the thread has copied a text from outside its packet and never comes to its end. -/
theorem powerOff_returns (info : DABInfo) (events later : List ReceiverEvent)
    (joining : (run (Receiver.step settings) { mDABInfo := info } events).joining = true)
    (enough : 5 ≤ later.countP ReceiverEvent.isThread) :
    let r := run (Receiver.step settings) { mDABInfo := info } events
    (∃ n, (stateAt (Receiver.step settings) r (later ++ [.join]) n).joining = false) ∨
      (run (Receiver.step settings) r (later ++ [.join])).mReadThread = some .outside := by
  intro r
  have sound : Sound settings r := run_invariant (fun _ event => Sound.step event) (sound_start settings info)
  obtain ⟨told, some, _⟩ := sound.joins joining
  obtain ⟨pc, there⟩ := Option.isSome_iff_exists.mp some
  refine returns_of_joining settings there joining told (Nat.le_trans ?_ enough)
  cases pc <;> decide

theorem powerOff_returns_chipless :
    let settings : ReceiverSettings := ⟨none, 0, 0, 0⟩
    let r := run (Receiver.step settings) { mDABInfo := ⟨[], [], 0⟩ } [.powerOn, .thread, .powerOff]
    r.joining = true ∧ ∃ n, (stateAt (Receiver.step settings) r
      ([.powerOn, .thread, .thread, .powerOff, .thread, .thread, .thread] ++ [.join]) n).joining = false :=
  ⟨rfl, (powerOff_returns ⟨none, 0, 0, 0⟩ ⟨[], [], 0⟩ [.powerOn, .thread, .powerOff]
    [.powerOn, .thread, .thread, .powerOff, .thread, .thread, .thread] rfl (by decide)).resolve_right (by decide)⟩

/-! ### What the observers have been told -/

/-- Who is not registered has been told nothing; every other observer knows the texts as they are, or nothing yet. -/
structure UpToDate (r : Receiver) : Prop where
  registered : ∀ observer, observer ∉ r.mRadioObservers → r.told observer = none
  texts : ∀ observer info, r.told observer = some info →
    info.StationName = r.mDABInfo.StationName ∧ info.Info = r.mDABInfo.Info

theorem UpToDate.goto {r : Receiver} (upToDate : UpToDate r) (pc : ReadPc) : UpToDate (r.goto pc) :=
  ⟨upToDate.1, upToDate.2⟩

theorem UpToDate.call {α : Type} {r : Receiver} (upToDate : UpToDate r) (driver : Driver α) : UpToDate (r.call driver).2 :=
  ⟨upToDate.1, upToDate.2⟩

/-- Whatever the texts were changed to, after a notification all who are registered know them. -/
theorem UpToDate.notifyObservers {r : Receiver}
    (registered : ∀ observer, observer ∉ r.mRadioObservers → r.told observer = none) : UpToDate r.notifyObservers := by
  constructor
  · intro observer away
    show (if observer ∈ r.mRadioObservers then some r.mDABInfo else r.told observer) = none
    exact (if_neg away).trans (registered observer away)
  · intro observer info told
    change (if observer ∈ r.mRadioObservers then some r.mDABInfo else r.told observer) = some info at told
    by_cases here : observer ∈ r.mRadioObservers
    · rw [if_pos here] at told
      cases told
      exact ⟨rfl, rfl⟩
    · rw [if_neg here, registered observer here] at told
      cases told

theorem UpToDate.announce {r : Receiver} (upToDate : UpToDate r) (StationName Info : String) :
    UpToDate (r.announce StationName Info) :=
  UpToDate.notifyObservers upToDate.registered

theorem UpToDate.readThread {r : Receiver} (upToDate : UpToDate r) (pc : ReadPc) : UpToDate (r.readThread settings pc) := by
  cases pc with
  | start => exact (upToDate.announce _ _).goto _
  | tune =>
    simp only [Receiver.readThread]
    split
    · exact upToDate.goto _
    · split
      · exact ((upToDate.call _).announce _ _).goto _
      · exact ((upToDate.call _).announce _ _).goto _
  | search =>
    simp only [Receiver.readThread]
    split
    · exact upToDate.goto _
    · split
      · exact ((upToDate.call _).announce _ _).goto _
      · exact ((upToDate.call _).announce _ _).goto _
  | test => exact upToDate.goto _
  | status =>
    simp only [Receiver.readThread]
    split
    · exact upToDate.goto _
    · exact (upToDate.call _).goto _
  | data =>
    simp only [Receiver.readThread]
    split
    · exact upToDate.goto _
    · split
      · exact (upToDate.call _).goto _
      · rename_i serviceData _
        split
        · exact (upToDate.call _).goto _
        · rename_i info read
          split
          · rename_i none
            -- a packet without a text leaves the texts as they are
            rw [readServiceData, none] at read
            cases read
            exact (upToDate.call _).goto _
          · refine (UpToDate.notifyObservers ?_).goto _
            exact upToDate.registered
  | rssi =>
    simp only [Receiver.readThread]
    split
    · exact upToDate.goto _
    · split
      · exact (upToDate.call _).goto _
      · exact ⟨upToDate.1, upToDate.2⟩
  | stop =>
    simp only [Receiver.readThread]
    split
    · exact upToDate.goto _
    · exact (upToDate.call _).goto _
  | finished => exact upToDate
  | outside => exact upToDate

theorem UpToDate.step {r : Receiver} (event : ReceiverEvent) (upToDate : UpToDate r) : UpToDate (r.step settings event) := by
  have kept {after : Receiver} (told : after.told = r.told) (observers : after.mRadioObservers = r.mRadioObservers)
      (info : after.mDABInfo = r.mDABInfo) : UpToDate after := by
    refine ⟨?_, ?_⟩
    · rw [told, observers]
      exact upToDate.registered
    · rw [told, info]
      exact upToDate.texts
  cases event with
  | powerOn =>
    simp only [Receiver.step, Receiver.powerOn]
    split
    · exact upToDate
    · split
      · exact kept rfl rfl rfl
      · exact kept rfl rfl rfl
  | powerOff =>
    simp only [Receiver.step, Receiver.powerOff, stopReadThread]
    split
    · exact upToDate
    · split
      · split
        · exact kept rfl rfl rfl
        · exact kept rfl rfl rfl
      · exact kept rfl rfl rfl
  | join =>
    simp only [Receiver.step, Receiver.join]
    split
    · split
      · exact kept rfl rfl rfl
      · exact upToDate
    · exact upToDate
  | thread =>
    simp only [Receiver.step]
    split
    · exact upToDate.readThread settings _
    · exact upToDate
  | registerRadioObserver observer =>
    refine ⟨?_, upToDate.texts⟩
    intro other away
    exact upToDate.registered other fun here => away (List.mem_insert_of_mem here)
  | unRegisterRadioObserver observer =>
    refine ⟨?_, ?_⟩
    · intro other away
      show (if other = observer then none else r.told other) = none
      by_cases same : other = observer
      · rw [if_pos same]
      · rw [if_neg same]
        exact upToDate.registered other fun here => away (List.mem_filter.mpr ⟨here, by simpa using same⟩)
    · intro other info told
      change (if other = observer then none else r.told other) = some info at told
      by_cases same : other = observer
      · rw [if_pos same] at told
        cases told
      · rw [if_neg same] at told
        exact upToDate.texts other info told

/-- At every moment, what an observer has been told last, since it registered, has the texts that the receiver holds. -/
theorem observers_know_the_texts (info : DABInfo) (events : List ReceiverEvent) (observer : DisplayId) :
    let r := run (Receiver.step settings) { mDABInfo := info } events
    r.told observer = none ∨ observer ∈ r.mRadioObservers ∧ ∃ told, r.told observer = some told ∧
      told.StationName = r.mDABInfo.StationName ∧ told.Info = r.mDABInfo.Info := by
  intro r
  have start : UpToDate { mDABInfo := info } := ⟨fun _ _ => rfl, fun _ _ told => by cases told⟩
  have upToDate : UpToDate r := run_invariant (fun _ event => UpToDate.step settings event) start
  cases last : r.told observer with
  | none => exact .inl rfl
  | some told =>
    refine .inr ⟨?_, told, rfl, upToDate.texts observer told last⟩
    by_contra away
    rw [upToDate.registered observer away] at last
    cases last

/-! ### The receiver as the radios see it -/

/-- A call that waits for the thread has already taken its reference away. -/
def atomic (r : Receiver) : DABReceiver where
  mPowerCounter := if r.joining then r.mPowerCounter - 1 else r.mPowerCounter
  mReadThreadRunning := r.mReadThreadRunning
  mRadioObservers := r.mRadioObservers

def applied (dab : DABReceiver) : ReceiverEvent → DABReceiver
  | .powerOn => dab.powerOn
  | .powerOff => dab.powerOff
  | .registerRadioObserver observer => dab.registerRadioObserver observer
  | .unRegisterRadioObserver observer => dab.unRegisterRadioObserver observer
  | .join | .thread => dab

theorem atomic_step {r : Receiver} {event : ReceiverEvent} (proceeds : r.waits event = false) :
    (r.step settings event).atomic = applied r.atomic event := by
  cases event with
  | powerOn =>
    have free : r.joining = false := proceeds
    by_cases zero : r.mPowerCounter = 0
    · simp [Receiver.step, Receiver.powerOn, startReadThread, atomic, applied, DABReceiver.powerOn, free, zero]
    · simp [Receiver.step, Receiver.powerOn, atomic, applied, DABReceiver.powerOn, free, zero]
  | powerOff =>
    have free : r.joining = false := proceeds
    by_cases last : r.mPowerCounter ≤ 1
    · cases there : r.mReadThread with
      | none =>
        simp [Receiver.step, Receiver.powerOff, stopReadThread, atomic, applied, DABReceiver.powerOff, free, last, there]
      | some pc =>
        simp [Receiver.step, Receiver.powerOff, stopReadThread, atomic, applied, DABReceiver.powerOff, free, last, there]
    · simp [Receiver.step, Receiver.powerOff, atomic, applied, DABReceiver.powerOff, free, last]
  | join =>
    simp only [Receiver.step, Receiver.join]
    split
    · rename_i joining
      split
      · simp [atomic, applied, joining]
      · rfl
    · rfl
  | thread =>
    simp only [Receiver.step]
    split
    · rename_i pc _
      have frame := readThread_frame settings r pc
      simp only [atomic, applied, frame.mPowerCounter, frame.mReadThreadRunning, frame.joining, frame.mRadioObservers]
    · rfl
  | registerRadioObserver observer => rfl
  | unRegisterRadioObserver observer => rfl

/-- With the thread and its end left out, a run is one of the receiver whose calls are single steps. -/
theorem atomic_run {r : Receiver} {events : List ReceiverEvent}
    (proceed : Meets (Receiver.step settings) (fun r event => r.waits event = false) r events) :
    (run (Receiver.step settings) r events).atomic = run applied r.atomic events := by
  induction events generalizing r with
  | nil => rfl
  | cons event rest ih =>
    rw [run_cons, run_cons, ih proceed.2, atomic_step settings proceed.1]

theorem atomic_run_on_and_off :
    let events : List ReceiverEvent :=
      [.registerRadioObserver 3, .powerOn, .thread, .powerOff, .thread, .thread, .join, .powerOn]
    let settings : ReceiverSettings := ⟨none, 0, 0, 0⟩
    (run (Receiver.step settings) { mDABInfo := ⟨[], [], 0⟩ } events).atomic =
      { mPowerCounter := 1, mReadThreadRunning := true, mRadioObservers := [3] } := by
  intro events settings
  rw [atomic_run settings (by decide)]
  rfl

end

end Receiver

end RgbClock.Dab
