import RgbClock.Dab.Startup
import RgbClock.Devices.Radio
import RgbClock.Lib.Run

/-! The DAB receiver with its read thread. Callers of `powerOn` and `powerOff` take turns; the one that takes the last
reference away waits, with the mutex, until the thread has come to its end. The thread tunes the chip, starts the
service, asks again and again for its texts, and stops the service before it ends. -/

namespace RgbClock.Dab
open Runs Devices

def SI468X_DAB_TUNE_FREQ : UInt8 := 0xB0
def SI468X_DAB_DIGRAD_STATUS : UInt8 := 0xB2
def SI468X_TEST_GET_RSSI : UInt8 := 0xE5
def WAIT_CTS_STC : UInt8 := 0x81

section
variable (chip : Chip)

def tuneFrequencyIndex (index : UInt8) : Driver (Option DABDigiradStatus) := do
  if ← statusError chip SI468X_DAB_TUNE_FREQ [0x00, index, 0x00, 0x00, 0x00] 4 WAIT_CTS_STC then
    return DABDigiradStatus.parse []
  let radStatus ← sendCommand chip SI468X_DAB_DIGRAD_STATUS [0x09] 40 WAIT_CTS
  return DABDigiradStatus.parse radStatus

def getRssi : Driver (Option DABRssiInfo) := do
  let result ← sendCommand chip SI468X_TEST_GET_RSSI [0x00] 6 WAIT_CTS
  return DABRssiInfo.parse result

end

def receiveLevel (RSSI_HIGH : UInt8) : Int := if RSSI_HIGH.toNat > 64 then 100 else (RSSI_HIGH.toNat * 100 / 64 : Nat)

inductive ReadPc where
  | start | tune | search | test | status | data | rssi | stop | finished
  /-- A text was copied from outside its packet. -/
  | outside
  deriving DecidableEq

structure Receiver where
  mPowerCounter : Int := 0
  mReadThreadRunning : Bool := false
  /-- The thread object, until it has been joined. -/
  mReadThread : Option ReadPc := none
  /-- A caller of `powerOff` waits for the end of the thread. -/
  joining : Bool := false
  /-- A thread object was replaced before it was joined, which ends the program. -/
  terminated : Bool := false
  mRadioObservers : List DisplayId := []
  mDABInfo : DABInfo
  /-- What each observer has been told last, since it registered. -/
  told : DisplayId → Option DABInfo := fun _ => none
  sent : List Exchange := []

inductive ReceiverEvent where
  | powerOn
  | powerOff
  /-- The caller that waits in `join` looks whether the thread has ended. -/
  | join
  | thread
  | registerRadioObserver (observer : DisplayId)
  | unRegisterRadioObserver (observer : DisplayId)

def ReceiverEvent.isThread : ReceiverEvent → Bool
  | thread => true
  | _ => false

/-- What a receiver is constructed with. The driver may be missing. -/
structure ReceiverSettings where
  mSiChip : Option Chip
  mFrequencyIndex : UInt8
  mServiceId : UInt32
  mComponentId : UInt32

namespace Receiver

def notifyObservers (r : Receiver) : Receiver :=
  { r with told := fun observer => if observer ∈ r.mRadioObservers then some r.mDABInfo else r.told observer }

def text (s : String) : List UInt8 := s.toUTF8.toList

def announce (r : Receiver) (StationName Info : String) : Receiver :=
  { r with mDABInfo := { r.mDABInfo with StationName := text StationName, Info := text Info } }.notifyObservers

def goto (r : Receiver) (pc : ReadPc) : Receiver := { r with mReadThread := some pc }

/-- A call of the driver, and the commands it has sent. -/
def call {α : Type} (r : Receiver) (driver : Driver α) : α × Receiver :=
  ((driver r.sent).1, { r with sent := (driver r.sent).2 })

/-- The first half of `powerOff`: the thread is told to end. -/
def stopReadThread (r : Receiver) : Receiver :=
  match r.mReadThread with
  | some _ => { r with mReadThreadRunning := false, joining := true }
  | none => { r with mReadThreadRunning := false, mPowerCounter := r.mPowerCounter - 1 }

def startReadThread (r : Receiver) : Receiver :=
  { r with mReadThreadRunning := true, mReadThread := some .start, terminated := r.terminated || r.mReadThread.isSome }

def powerOn (r : Receiver) : Receiver :=
  let r := if r.mPowerCounter = 0 then r.startReadThread else r
  { r with mPowerCounter := r.mPowerCounter + 1 }

def powerOff (r : Receiver) : Receiver :=
  if r.mPowerCounter ≤ 1 then r.stopReadThread else { r with mPowerCounter := r.mPowerCounter - 1 }

/-- The second half of `powerOff`. -/
def join (r : Receiver) : Receiver :=
  if r.mReadThread = some .finished then
    { r with joining := false, mReadThread := none, mPowerCounter := r.mPowerCounter - 1 }
  else r

section
variable (settings : ReceiverSettings)

/-- One step of `readThread`: at most one call of the driver. Without a driver only the start, the test of the flag and
the end are reached. -/
def readThread (r : Receiver) : ReadPc → Receiver
  | .start =>
    let r := r.announce "Tune..." "Set Frequency"
    r.goto (if settings.mSiChip.isSome then .tune else .test)
  | .tune =>
    match settings.mSiChip with
    | none => r.goto .test
    | some chip =>
      let (tuneResult, r) := r.call (tuneFrequencyIndex chip settings.mFrequencyIndex)
      if tuneResult.any DABDigiradStatus.VALID then (r.announce "Tune..." "Search Service").goto .search
      else (r.announce "" "Tune frequency failed !").goto .test
  | .search =>
    match settings.mSiChip with
    | none => r.goto .test
    | some chip =>
      let (started, r) := r.call (startService chip settings.mServiceId settings.mComponentId)
      if started then (r.announce "" "").goto .test else (r.announce "" "Service not found").goto .test
  | .test => r.goto (if r.mReadThreadRunning then .status else .stop)
  | .status =>
    match settings.mSiChip with
    | none => r.goto .test
    | some chip =>
      let (status, r) := r.call (getStatus chip)
      r.goto (if status.any DABStatus.DSRV_INT then .data else .rssi)
  | .data =>
    match settings.mSiChip with
    | none => r.goto .test
    | some chip =>
      let (serviceData, r) := r.call (getServiceData chip)
      match serviceData with
      | none => r.goto .outside
      | some serviceData =>
        match readServiceData r.mDABInfo serviceData with
        | none => r.goto .outside
        | some info =>
          -- the observers are called for each text that the packet has
          let r := { r with mDABInfo := info }
          (if textRanges serviceData = [] then r else r.notifyObservers).goto .rssi
  | .rssi =>
    match settings.mSiChip with
    | none => r.goto .test
    | some chip =>
      let (rssiInfo, r) := r.call (getRssi chip)
      match rssiInfo with
      | none => r.goto .outside
      | some rssiInfo =>
        { r with mDABInfo := { r.mDABInfo with ReceiveLevel := receiveLevel rssiInfo.RSSI_HIGH } }.goto .test
  | .stop =>
    match settings.mSiChip with
    | none => r.goto .finished
    | some chip => (r.call (stopService chip settings.mServiceId settings.mComponentId)).2.goto .finished
  | .finished => r
  | .outside => r

/-- The mutex of the counter is with a caller that waits. -/
def waits (r : Receiver) : ReceiverEvent → Bool
  | .powerOn | .powerOff => r.joining
  | _ => false

def step (r : Receiver) : ReceiverEvent → Receiver
  | .powerOn => if r.joining then r else r.powerOn
  | .powerOff => if r.joining then r else r.powerOff
  | .join => if r.joining then r.join else r
  | .thread =>
    match r.mReadThread with
    | some pc => r.readThread settings pc
    | none => r
  | .registerRadioObserver observer => { r with mRadioObservers := r.mRadioObservers.insert observer }
  | .unRegisterRadioObserver observer =>
    { r with
      mRadioObservers := r.mRadioObservers.filter (· ≠ observer)
      told := fun other => if other = observer then none else r.told other }

end

/-! ### Sessions with the chip -/

/-- What a command means for the service that the chip plays. -/
inductive Mark where
  | tune
  | valid
  | invalid
  | start (param : List UInt8)
  | poll
  | stop (param : List UInt8)

/-- Where a session stands. -/
inductive Phase where
  | idle | tuned | locked | unlocked
  | playing (param : List UInt8)

namespace Phase

/-- A service is started only on a frequency that was found valid, and once; the chip is polled from the start to the stop,
or after a tuning that found no valid frequency; the service that is stopped is the one that was started, and a frequency is
tuned only where no service is left from before. -/
def advance : Phase → Mark → Option Phase
  | idle, .tune => some tuned
  | tuned, .valid => some locked
  | tuned, .invalid => some unlocked
  | locked, .start param => some (playing param)
  | tuned, .poll | unlocked, .poll => some unlocked
  | playing param, .poll => some (playing param)
  | tuned, .stop _ | unlocked, .stop _ => some idle
  | playing param, .stop other => if other = param then some idle else none
  | _, _ => none

/-- The tuning and the start of this service are over. -/
def Begun (param : List UInt8) (p : Phase) : Prop := p = tuned ∨ p = unlocked ∨ p = playing param

theorem advance_poll {param : List UInt8} {p : Phase} (begun : p.Begun param) :
    ∃ q, p.advance .poll = some q ∧ q.Begun param := by
  obtain rfl | rfl | rfl := begun
  · exact ⟨unlocked, rfl, .inr (.inl rfl)⟩
  · exact ⟨unlocked, rfl, .inr (.inl rfl)⟩
  · exact ⟨playing param, rfl, .inr (.inr rfl)⟩

theorem advance_stop {param : List UInt8} {p : Phase} (begun : p.Begun param) :
    p.advance (.stop param) = some idle := by
  obtain rfl | rfl | rfl := begun
  · rfl
  · rfl
  · exact if_pos rfl

end Phase

/-- Every command that belongs neither to the tuning nor to a service is a poll. -/
def mark (x : Exchange) : Mark :=
  if x.sent.command = SI468X_DAB_TUNE_FREQ then .tune
  else if x.sent.command = SI468X_DAB_DIGRAD_STATUS then
    if (DABDigiradStatus.parse x.reply).any DABDigiradStatus.VALID then .valid else .invalid
  else if x.sent.command = SI468X_START_DIGITAL_SERVICE then .start x.sent.param
  else if x.sent.command = SI468X_STOP_DIGITAL_SERVICE then .stop x.sent.param
  else .poll

/-- The phase after the commands, if they are in order. -/
def phase (sent : List Exchange) : Option Phase := (sent.map mark).foldlM Phase.advance .idle

theorem phase_concat (sent : List Exchange) (x : Exchange) :
    phase (sent ++ [x]) = (phase sent).bind fun p => p.advance (mark x) := by
  unfold phase
  rw [List.map_append, List.foldlM_append]
  cases (sent.map mark).foldlM Phase.advance .idle with
  | none => rfl
  | some p =>
    show (p.advance (mark x) >>= fun p => some p) = p.advance (mark x)
    cases p.advance (mark x) <;> rfl

section
variable (settings : ReceiverSettings)

def Begun (p : Phase) : Prop :=
  if settings.mSiChip.isSome then p.Begun (serviceParams settings.mServiceId settings.mComponentId) else p = .idle

/-- The phases in which the thread may stand at a step. -/
def Allows : Option ReadPc → Phase → Prop
  | none, p | some .start, p | some .tune, p | some .finished, p => p = .idle
  | some .search, p => if settings.mSiChip.isSome then p = .locked else p = .idle
  | some .outside, _ => True
  | some .test, p | some .status, p | some .data, p | some .rssi, p | some .stop, p => Begun settings p

/-- The steps that may follow a step of the thread. -/
def Follows (r : Receiver) : ReadPc → ReadPc → Prop
  | .start, next => next = .tune ∨ next = .test
  | .tune, next => next = .search ∨ next = .test
  | .search, next => next = .test
  | .test, next => next = if r.mReadThreadRunning then .status else .stop
  | .status, next => next = .data ∨ next = .rssi ∨ next = .test
  | .data, next => next = .rssi ∨ next = .test ∨ next = .outside
  | .rssi, next => next = .test ∨ next = .outside
  | .stop, next | .finished, next => next = .finished
  | .outside, next => next = .outside

end

structure Frame (r after : Receiver) : Prop where
  mPowerCounter : after.mPowerCounter = r.mPowerCounter
  mReadThreadRunning : after.mReadThreadRunning = r.mReadThreadRunning
  joining : after.joining = r.joining
  terminated : after.terminated = r.terminated
  mRadioObservers : after.mRadioObservers = r.mRadioObservers

theorem Frame.refl (r : Receiver) : Frame r r := ⟨rfl, rfl, rfl, rfl, rfl⟩

theorem Frame.goto {r after : Receiver} (frame : Frame r after) (pc : ReadPc) : Frame r (after.goto pc) :=
  ⟨frame.1, frame.2, frame.3, frame.4, frame.5⟩

theorem Frame.told {r after : Receiver} (frame : Frame r after) (info : DABInfo) :
    Frame r { after with mDABInfo := info } :=
  ⟨frame.1, frame.2, frame.3, frame.4, frame.5⟩

theorem Frame.notifyObservers {r after : Receiver} (frame : Frame r after) : Frame r after.notifyObservers :=
  ⟨frame.1, frame.2, frame.3, frame.4, frame.5⟩

theorem Frame.announce {r after : Receiver} (frame : Frame r after) (StationName Info : String) :
    Frame r (after.announce StationName Info) :=
  (frame.told _).notifyObservers

theorem Frame.call {α : Type} {r after : Receiver} (frame : Frame r after) (driver : Driver α) :
    Frame r (after.call driver).2 :=
  ⟨frame.1, frame.2, frame.3, frame.4, frame.5⟩

section
variable (settings : ReceiverSettings)

theorem readThread_frame (r : Receiver) (pc : ReadPc) : Frame r (r.readThread settings pc) := by
  have same := Frame.refl r
  cases pc with
  | start => exact (same.announce _ _).goto _
  | tune =>
    simp only [readThread]
    split
    · exact same.goto _
    · split
      · exact ((same.call _).announce _ _).goto _
      · exact ((same.call _).announce _ _).goto _
  | search =>
    simp only [readThread]
    split
    · exact same.goto _
    · split
      · exact ((same.call _).announce _ _).goto _
      · exact ((same.call _).announce _ _).goto _
  | test => exact same.goto _
  | status =>
    simp only [readThread]
    split
    · exact same.goto _
    · exact (same.call _).goto _
  | data =>
    simp only [readThread]
    split
    · exact same.goto _
    · split
      · exact (same.call _).goto _
      · split
        · exact (same.call _).goto _
        · split
          · exact ((same.call _).told _).goto _
          · exact (((same.call _).told _).notifyObservers).goto _
  | rssi =>
    simp only [readThread]
    split
    · exact same.goto _
    · split
      · exact (same.call _).goto _
      · exact ((same.call _).told _).goto _
  | stop =>
    simp only [readThread]
    split
    · exact same.goto _
    · exact (same.call _).goto _
  | finished => exact same
  | outside => exact same

theorem goto_mReadThread (r : Receiver) (pc : ReadPc) : (r.goto pc).mReadThread = some pc := rfl

theorem readThread_follows {r : Receiver} {pc : ReadPc} (there : r.mReadThread = some pc) :
    ∃ next, (r.readThread settings pc).mReadThread = some next ∧ Follows r pc next := by
  cases pc with
  | start =>
    refine ⟨_, goto_mReadThread _ _, ?_⟩
    cases settings.mSiChip.isSome <;> simp [Follows]
  | tune =>
    simp only [readThread]
    split
    · exact ⟨_, goto_mReadThread _ _, .inr rfl⟩
    · split
      · exact ⟨_, goto_mReadThread _ _, .inl rfl⟩
      · exact ⟨_, goto_mReadThread _ _, .inr rfl⟩
  | search =>
    simp only [readThread]
    split
    · exact ⟨_, goto_mReadThread _ _, rfl⟩
    · split
      · exact ⟨_, goto_mReadThread _ _, rfl⟩
      · exact ⟨_, goto_mReadThread _ _, rfl⟩
  | test => exact ⟨_, goto_mReadThread _ _, rfl⟩
  | status =>
    simp only [readThread]
    split
    · exact ⟨_, goto_mReadThread _ _, .inr (.inr rfl)⟩
    · refine ⟨_, goto_mReadThread _ _, ?_⟩
      split
      · exact .inl rfl
      · exact .inr (.inl rfl)
  | data =>
    simp only [readThread]
    split
    · exact ⟨_, goto_mReadThread _ _, .inr (.inl rfl)⟩
    · split
      · exact ⟨_, goto_mReadThread _ _, .inr (.inr rfl)⟩
      · split
        · exact ⟨_, goto_mReadThread _ _, .inr (.inr rfl)⟩
        · exact ⟨_, goto_mReadThread _ _, .inl rfl⟩
  | rssi =>
    simp only [readThread]
    split
    · exact ⟨_, goto_mReadThread _ _, .inl rfl⟩
    · split
      · exact ⟨_, goto_mReadThread _ _, .inr rfl⟩
      · exact ⟨_, goto_mReadThread _ _, .inl rfl⟩
  | stop =>
    simp only [readThread]
    split
    · exact ⟨_, goto_mReadThread _ _, rfl⟩
    · exact ⟨_, goto_mReadThread _ _, rfl⟩
  | finished => exact ⟨_, there, rfl⟩
  | outside => exact ⟨_, there, rfl⟩

/-! ### What the calls of the driver do to a session -/

section
variable (chip : Chip) {sent : List Exchange}

def tuneCommand (index : UInt8) : Command :=
  ⟨SI468X_DAB_TUNE_FREQ, [0x00, index, 0x00, 0x00, 0x00], 4, WAIT_CTS_STC⟩

def digradCommand : Command := ⟨SI468X_DAB_DIGRAD_STATUS, [0x09], 40, WAIT_CTS⟩

theorem tuneFrequencyIndex_eq (index : UInt8) (sent : List Exchange) :
    tuneFrequencyIndex chip index sent =
      if chip.error sent.length (tuneCommand index) then
        (DABDigiradStatus.parse [], sent ++ [chip.exchange sent.length (tuneCommand index)])
      else
        (DABDigiradStatus.parse (chip.exchange (sent.length + 1) digradCommand).reply,
          (sent ++ [chip.exchange sent.length (tuneCommand index)]) ++ [chip.exchange (sent.length + 1) digradCommand]) := by
  have next : (sent ++ [chip.exchange sent.length (tuneCommand index)]).length = sent.length + 1 := by simp
  rw [← next]
  show (if chip.error sent.length (tuneCommand index) = true then _ else _ : Driver (Option DABDigiradStatus))
    (sent ++ [chip.exchange sent.length (tuneCommand index)]) = _
  split <;> rfl

theorem phase_tune (idle : phase sent = some .idle) (index : UInt8) :
    ∃ p, phase (tuneFrequencyIndex chip index sent).2 = some p ∧
      if (tuneFrequencyIndex chip index sent).1.any DABDigiradStatus.VALID then p = .locked
      else p = .tuned ∨ p = .unlocked := by
  have tuned : phase (sent ++ [chip.exchange sent.length (tuneCommand index)]) = some .tuned := by
    rw [phase_concat, idle]
    rfl
  rw [tuneFrequencyIndex_eq]
  split
  · exact ⟨.tuned, tuned, .inl rfl⟩
  · have marked : mark (chip.exchange (sent.length + 1) digradCommand) =
        if (DABDigiradStatus.parse (chip.exchange (sent.length + 1) digradCommand).reply).any DABDigiradStatus.VALID
        then .valid else .invalid := rfl
    rw [phase_concat, tuned, marked]
    split
    · exact ⟨.locked, rfl, rfl⟩
    · exact ⟨.unlocked, rfl, .inr rfl⟩

theorem phase_start (locked : phase sent = some .locked) (serviceId componentId : UInt32) :
    phase (startService chip serviceId componentId sent).2 = some (.playing (serviceParams serviceId componentId)) := by
  show phase (sent ++ [_]) = _
  rw [phase_concat, locked]
  rfl

theorem phase_poll {param : List UInt8} (now : ∃ p, phase sent = some p ∧ p.Begun param) {x : Exchange}
    (polls : mark x = .poll) : ∃ p, phase (sent ++ [x]) = some p ∧ p.Begun param := by
  obtain ⟨p, now, begun⟩ := now
  rw [phase_concat, now, polls]
  exact Phase.advance_poll begun

section
variable {param : List UInt8} (now : ∃ p, phase sent = some p ∧ p.Begun param)
include now

theorem phase_getStatus : ∃ p, phase (getStatus chip sent).2 = some p ∧ p.Begun param := phase_poll now rfl

theorem phase_getServiceData : ∃ p, phase (getServiceData chip sent).2 = some p ∧ p.Begun param := by
  unfold getServiceData
  rw [driver_bind, sendCommand_eq]
  generalize DigitalServiceData.parse _ = size
  cases size with
  | some serviceDataSize => exact phase_poll (phase_poll now rfl) rfl
  | none => exact phase_poll now rfl

theorem phase_getRssi : ∃ p, phase (getRssi chip sent).2 = some p ∧ p.Begun param := phase_poll now rfl

end

theorem phase_stop {p : Phase} (now : phase sent = some p) (serviceId componentId : UInt32)
    (begun : p.Begun (serviceParams serviceId componentId)) :
    phase (stopService chip serviceId componentId sent).2 = some .idle := by
  show phase (sent ++ [_]) = _
  rw [phase_concat, now]
  exact Phase.advance_stop begun

end

/-! ### What a step of the thread does to a session -/

/-- The commands are in order, and the thread stands where it may in their phase. -/
def InSession (r : Receiver) : Prop := ∃ p, phase r.sent = some p ∧ Allows settings r.mReadThread p

theorem begun_some {chip : Chip} (there : settings.mSiChip = some chip) {p : Phase} :
    Begun settings p ↔ p.Begun (serviceParams settings.mServiceId settings.mComponentId) := by
  rw [Begun, there]
  exact Iff.rfl

theorem readThread_session_none (missing : settings.mSiChip = none) {r : Receiver} {pc : ReadPc}
    (there : r.mReadThread = some pc) (session : InSession settings r) : InSession settings (r.readThread settings pc) := by
  obtain ⟨p, now, allowed⟩ := session
  rw [there] at allowed
  have idle {t : Option ReadPc} : Allows settings t .idle := by
    cases t with
    | none => rfl
    | some pc => cases pc <;> simp [Allows, Begun, missing]
  have same : (r.readThread settings pc).sent = r.sent := by
    cases pc with
    | start | test | finished | outside => rfl
    | tune | search | status | data | rssi | stop =>
      simp only [readThread, missing]
      rfl
  by_cases away : pc = .outside
  · subst away
    exact ⟨p, now, by rw [show (r.readThread settings .outside).mReadThread = some .outside from there]; trivial⟩
  · have stays : p = .idle := by
      cases pc <;> simp_all [Allows, Begun]
    exact ⟨.idle, by rw [same, now, stays], idle⟩

theorem readThread_session {r : Receiver} {pc : ReadPc} (there : r.mReadThread = some pc)
    (session : InSession settings r) : InSession settings (r.readThread settings pc) := by
  cases chosen : settings.mSiChip with
  | none => exact readThread_session_none settings chosen there session
  | some chip =>
    obtain ⟨p, now, allowed⟩ := session
    rw [there] at allowed
    have begun {p : Phase} := begun_some settings chosen (p := p)
    cases pc with
    | start =>
      cases allowed
      refine ⟨.idle, now, ?_⟩
      show Allows settings (some (if settings.mSiChip.isSome then .tune else .test)) _
      rw [chosen]
      rfl
    | tune =>
      cases allowed
      obtain ⟨q, after, reached⟩ := phase_tune chip now settings.mFrequencyIndex
      simp only [readThread, chosen]
      split
      · rename_i valid
        change (tuneFrequencyIndex chip settings.mFrequencyIndex r.sent).1.any _ = true at valid
        rw [if_pos valid] at reached
        refine ⟨q, after, ?_⟩
        show if settings.mSiChip.isSome then _ else _
        rw [chosen]
        exact reached
      · rename_i invalid
        change ¬ (tuneFrequencyIndex chip settings.mFrequencyIndex r.sent).1.any _ = true at invalid
        rw [if_neg invalid] at reached
        exact ⟨q, after, begun.mpr (reached.imp_right .inl)⟩
    | search =>
      have locked : p = .locked := by
        simp only [Allows, chosen] at allowed
        exact allowed
      subst locked
      have after := phase_start chip now settings.mServiceId settings.mComponentId
      simp only [readThread, chosen]
      split
      · exact ⟨_, after, begun.mpr (.inr (.inr rfl))⟩
      · exact ⟨_, after, begun.mpr (.inr (.inr rfl))⟩
    | test =>
      refine ⟨p, now, ?_⟩
      show Allows settings (some (if r.mReadThreadRunning then .status else .stop)) p
      cases r.mReadThreadRunning with
      | true => exact allowed
      | false => exact allowed
    | status =>
      obtain ⟨q, after, still⟩ := phase_getStatus chip ⟨p, now, begun.mp allowed⟩
      simp only [readThread, chosen]
      refine ⟨q, after, ?_⟩
      show Allows settings (some (if _ then .data else .rssi)) q
      split
      · exact begun.mpr still
      · exact begun.mpr still
    | data =>
      obtain ⟨q, after, still⟩ := phase_getServiceData chip ⟨p, now, begun.mp allowed⟩
      simp only [readThread, chosen]
      split
      · exact ⟨q, after, trivial⟩
      · split
        · exact ⟨q, after, trivial⟩
        · split
          · exact ⟨q, after, begun.mpr still⟩
          · exact ⟨q, after, begun.mpr still⟩
    | rssi =>
      obtain ⟨q, after, still⟩ := phase_getRssi chip ⟨p, now, begun.mp allowed⟩
      simp only [readThread, chosen]
      split
      · exact ⟨q, after, trivial⟩
      · exact ⟨q, after, begun.mpr still⟩
    | stop =>
      simp only [readThread, chosen]
      exact ⟨.idle, phase_stop chip now _ _ (begun.mp allowed), rfl⟩
    | finished => exact ⟨p, now, by rw [show (r.readThread settings .finished).mReadThread = some .finished from there]; exact allowed⟩
    | outside => exact ⟨p, now, by rw [show (r.readThread settings .outside).mReadThread = some .outside from there]; trivial⟩

/-! ### Every order of the steps -/

/-- There is a thread exactly while the counter is positive, and no thread object is lost. -/
structure Sound (r : Receiver) : Prop where
  alive : r.terminated = false
  counted : r.mReadThread.isSome = true ↔ 1 ≤ r.mPowerCounter
  runs : r.joining = false → r.mReadThreadRunning = r.mReadThread.isSome
  joins : r.joining = true → r.mReadThreadRunning = false ∧ r.mReadThread.isSome = true ∧ r.mPowerCounter ≤ 1
  session : InSession settings r

variable {settings}

theorem Sound.mReadThread_none {r : Receiver} (sound : Sound settings r) (off : r.mPowerCounter ≤ 0) : r.mReadThread = none := by
  cases there : r.mReadThread with
  | none => rfl
  | some pc =>
    have positive := sound.counted.mp (by rw [there]; rfl)
    omega

theorem Sound.powerOn {r : Receiver} (sound : Sound settings r) (free : r.joining = false) : Sound settings r.powerOn := by
  have runs := sound.runs free
  unfold Receiver.powerOn
  by_cases zero : r.mPowerCounter = 0
  · have none := sound.mReadThread_none (Int.le_of_eq zero)
    rw [if_pos zero]
    refine ⟨?_, ?_, fun _ => rfl, ?_, ?_⟩
    · simp [startReadThread, sound.alive, none]
    · simp [startReadThread, zero]
    · intro joining
      exact absurd (free.symm.trans joining) Bool.false_ne_true
    · obtain ⟨p, now, allowed⟩ := sound.session
      rw [none] at allowed
      exact ⟨p, now, allowed⟩
  · rw [if_neg zero]
    refine ⟨sound.alive, ?_, fun _ => runs, ?_, sound.session⟩
    · show r.mReadThread.isSome = true ↔ 1 ≤ r.mPowerCounter + 1
      rw [sound.counted]
      omega
    · intro joining
      exact absurd (free.symm.trans joining) Bool.false_ne_true

theorem Sound.powerOff {r : Receiver} (sound : Sound settings r) (free : r.joining = false) : Sound settings r.powerOff := by
  have counted := sound.counted
  unfold Receiver.powerOff
  split
  · rename_i last
    unfold stopReadThread
    split
    · rename_i pc there
      have some : r.mReadThread.isSome = true := by rw [there]; rfl
      exact ⟨sound.alive, counted, fun free => absurd free.symm Bool.false_ne_true, fun _ => ⟨rfl, some, last⟩,
        sound.session⟩
    · rename_i none
      have off : ¬ 1 ≤ r.mPowerCounter := by
        rw [← counted, none]
        exact Bool.false_ne_true
      refine ⟨sound.alive, ?_, ?_, ?_, sound.session⟩
      · show r.mReadThread.isSome = true ↔ 1 ≤ r.mPowerCounter - 1
        rw [counted]
        omega
      · intro _
        show false = r.mReadThread.isSome
        rw [none]
        rfl
      · intro joining
        exact absurd (free.symm.trans joining) Bool.false_ne_true
  · rename_i more
    refine ⟨sound.alive, ?_, fun _ => sound.runs free, ?_, sound.session⟩
    · show r.mReadThread.isSome = true ↔ 1 ≤ r.mPowerCounter - 1
      rw [counted]
      omega
    · intro joining
      exact absurd (free.symm.trans joining) Bool.false_ne_true

theorem Sound.join {r : Receiver} (sound : Sound settings r) (joining : r.joining = true) : Sound settings r.join := by
  unfold Receiver.join
  split
  · rename_i ended
    obtain ⟨still, _, last⟩ := sound.joins joining
    refine ⟨sound.alive, ?_, fun _ => still, ?_, ?_⟩
    · show false = true ↔ 1 ≤ r.mPowerCounter - 1
      simp only [Bool.false_eq_true, false_iff]
      omega
    · intro again
      cases again
    · obtain ⟨p, now, allowed⟩ := sound.session
      rw [ended] at allowed
      exact ⟨p, now, allowed⟩
  · exact sound

theorem Sound.thread {r : Receiver} (sound : Sound settings r) {pc : ReadPc} (there : r.mReadThread = some pc) :
    Sound settings (r.readThread settings pc) := by
  have frame := readThread_frame settings r pc
  obtain ⟨next, after, _⟩ := readThread_follows settings there
  have some : (r.readThread settings pc).mReadThread.isSome = r.mReadThread.isSome := by
    rw [after, there]
    rfl
  refine ⟨?_, ?_, ?_, ?_, readThread_session settings there sound.session⟩
  · rw [frame.terminated]
    exact sound.alive
  · rw [some, frame.mPowerCounter]
    exact sound.counted
  · rw [frame.joining, frame.mReadThreadRunning, some]
    exact sound.runs
  · rw [frame.joining, frame.mReadThreadRunning, some, frame.mPowerCounter]
    exact sound.joins

theorem Sound.step {r : Receiver} (event : ReceiverEvent) (sound : Sound settings r) : Sound settings (r.step settings event) := by
  cases event with
  | powerOn =>
    simp only [Receiver.step]
    split
    · exact sound
    · rename_i free
      exact sound.powerOn ((Bool.not_eq_true _).mp free)
  | powerOff =>
    simp only [Receiver.step]
    split
    · exact sound
    · rename_i free
      exact sound.powerOff ((Bool.not_eq_true _).mp free)
  | join =>
    simp only [Receiver.step]
    split
    · rename_i joining
      exact sound.join joining
    · exact sound
  | thread =>
    simp only [Receiver.step]
    split
    · rename_i there
      exact sound.thread there
    · exact sound
  | registerRadioObserver observer => exact ⟨sound.1, sound.2, sound.3, sound.4, sound.5⟩
  | unRegisterRadioObserver observer => exact ⟨sound.1, sound.2, sound.3, sound.4, sound.5⟩

theorem sound_start (settings : ReceiverSettings) (info : DABInfo) : Sound settings { mDABInfo := info } :=
  ⟨rfl, iff_of_false Bool.false_ne_true (show ¬ (1 : Int) ≤ 0 by decide), fun _ => rfl, fun joining => absurd joining Bool.false_ne_true,
    .idle, rfl, rfl⟩

variable (settings)

end

end Receiver

end RgbClock.Dab
