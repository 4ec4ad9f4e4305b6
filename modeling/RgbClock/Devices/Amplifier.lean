import Mathlib.Data.Rat.Floor
import RgbClock.Devices.Volume

/-! The radio with what it sends: the calls on the receiver, the registers of its amplifier, and the news for its
observers. `writeRegisters` stands at every place at which the volume or the state has changed. -/

namespace RgbClock.Devices
open Keys Runs

/-- What leaves a radio. A write to the amplifier is the attenuation, four times, and the two other registers; a value
that does not fit a byte has none. -/
inductive RadioOutput where
  | powerOn
  | powerOff
  | writeData (attenuation : Option UInt8) (mMaskRegister mControlRegister : UInt8)
  | radioStateUpdate (observer : DisplayId) (mVolume : UInt8) (mState : RadioState)
  deriving DecidableEq

def POWER_UP : UInt8 := 0b00010000
def SHUTDOWN : UInt8 := 0b00010001

/-- The quotients are taken in `double`; where the result is an integer they are exact. -/
def attenuation (mCurrentVolume : UInt8) : Option UInt8 :=
  let att := ⌈64 - (mCurrentVolume.toNat : ℚ) / 100 * 64⌉
  if 0 ≤ att ∧ att < 256 then some (.ofNat att.toNat) else none

structure PlayingRadio where
  mRadio : Radio := {}
  mDabReceiver : DABReceiver := {}
  mMaskRegister : UInt8 := 0
  mControlRegister : UInt8 := 0
  sent : List RadioOutput := []

namespace PlayingRadio

def send (s : PlayingRadio) (output : RadioOutput) : PlayingRadio := { s with sent := s.sent ++ [output] }

def notifyObservers (s : PlayingRadio) : PlayingRadio :=
  s.mRadio.mRadioObservers.foldl
    (fun s observer => s.send (.radioStateUpdate observer s.mRadio.mCurrentVolume s.mRadio.mState)) s

def writeRegisters (s : PlayingRadio) : PlayingRadio :=
  (s.send (.writeData (attenuation s.mRadio.mCurrentVolume) s.mMaskRegister s.mControlRegister)).notifyObservers

/-- The constructor, which shuts the amplifier down twice, and the registration of its observers after it. -/
def construct (mDabReceiver : DABReceiver) (observers : List DisplayId) : PlayingRadio :=
  let s := { mDabReceiver, mControlRegister := SHUTDOWN : PlayingRadio }
  let s := s.writeRegisters.writeRegisters
  { s with mRadio := observers.foldl Radio.registerRadioObserver s.mRadio }

def setVolume (s : PlayingRadio) (smooth : Bool) (volume : Int) : PlayingRadio :=
  let s := { s with mRadio := s.mRadio.setVolume smooth volume }
  if volume > 0 ∧ smooth then s else s.writeRegisters

def pwrOn (s : PlayingRadio) (smooth : Bool) (volume : Int) : PlayingRadio :=
  let s := { s with mDabReceiver := (s.mRadio.registerFMReceiver s.mDabReceiver).powerOn }.send .powerOn
  let s := { s with
    mRadio := { s.mRadio with
      mState := .PwrOn, mCurrentVolume := SLOW_VOLUME_START_VOLUME, powerRefs := s.mRadio.powerRefs + 1 }
    mControlRegister := POWER_UP }
  let s := s.writeRegisters.setVolume smooth volume
  { s with mRadio := { s.mRadio with mAutoPowerOffTimer := .startAutoPowerOff AUTO_OFF_MINUTES } }

def pwrOff (s : PlayingRadio) : PlayingRadio :=
  let s := { s with
    mRadio := { s.mRadio with
      mAutoPowerOffTimer := s.mRadio.mAutoPowerOffTimer.cancelAutoPowerOff
      mUpDownTimer := s.mRadio.mUpDownTimer.cancelDimmer
      mStoredVolume := s.mRadio.mCurrentVolume
      mState := .PwrOff
      powerRefs := s.mRadio.powerRefs - 1 }
    mControlRegister := SHUTDOWN }
  let s := s.writeRegisters
  { s with mDabReceiver := s.mRadio.unRegisterFMReceiver s.mDabReceiver.powerOff }.send .powerOff

def up (s : PlayingRadio) : PlayingRadio :=
  if s.mRadio.mCurrentVolume < 99 then { s with mRadio := s.mRadio.up }.writeRegisters else s

def down (s : PlayingRadio) : PlayingRadio :=
  if s.mRadio.mCurrentVolume > 1 then { s with mRadio := s.mRadio.down }.writeRegisters else s

def cancelDimmer (s : PlayingRadio) : PlayingRadio :=
  { s with mRadio := { s.mRadio with mUpDownTimer := s.mRadio.mUpDownTimer.cancelDimmer } }

def volumeKeys (s : PlayingRadio) (keyboardInfo : KeyboardInfo) : PlayingRadio :=
  let upKey := (keyboardInfo.mKeyInfo KEY_UP).mShortPressed || (keyboardInfo.mKeyInfo KEY_UP).mLongPress
  let downKey := (keyboardInfo.mKeyInfo KEY_DOWN).mShortPressed || (keyboardInfo.mKeyInfo KEY_DOWN).mLongPress
  if (keyboardInfo.mState = .stNormal ∨ keyboardInfo.mState = .stAlarmActive) ∧ s.mRadio.mState = .PwrOn then
    let s := if upKey then s.up.cancelDimmer else s
    if downKey then s.down.cancelDimmer else s
  else s

def powerKey (s : PlayingRadio) (keyboardInfo : KeyboardInfo) : PlayingRadio :=
  if keyboardInfo.mState = .stNormal ∧ (keyboardInfo.mKeyInfo KEY_LEFT).mShortPressed = true then
    match s.mRadio.mState with
    | .PwrOff => s.pwrOn false 0
    | .PwrOn => s.pwrOff
  else s

def dimmerThread (s : PlayingRadio) : PlayingRadio :=
  let (timer, dimming) := s.mRadio.mUpDownTimer.dimmerThread
  let s := { s with mRadio := { s.mRadio with mUpDownTimer := timer } }
  match dimming with
  | some (.up _) => s.up
  | some (.down _) => s.down
  | none => s

def autoOffThread (s : PlayingRadio) : PlayingRadio :=
  let (timer, expired) := s.mRadio.mAutoPowerOffTimer.autoOffThread
  let s := { s with mRadio := { s.mRadio with mAutoPowerOffTimer := timer } }
  if expired then s.pwrOff else s

def step (s : PlayingRadio) : Radio.Event → PlayingRadio
  | .pwrOn smooth volume => s.pwrOn smooth volume
  | .pwrOff => s.pwrOff
  | .keyboardPressed info => (s.volumeKeys info).powerKey info
  | .dimmerThread => s.dimmerThread
  | .autoOffThread => s.autoOffThread
  | .receiver dab => { s with mDabReceiver := dab }

/-! ### What `writeRegisters` sends -/

def report (s : PlayingRadio) : List RadioOutput :=
  .writeData (attenuation s.mRadio.mCurrentVolume) s.mMaskRegister s.mControlRegister ::
    s.mRadio.mRadioObservers.map fun observer => .radioStateUpdate observer s.mRadio.mCurrentVolume s.mRadio.mState

variable {s : PlayingRadio}

theorem notify_eq (observers : List DisplayId) (s : PlayingRadio) :
    observers.foldl (fun s observer => s.send (.radioStateUpdate observer s.mRadio.mCurrentVolume s.mRadio.mState)) s =
      { s with
        sent := s.sent ++ observers.map fun observer =>
          .radioStateUpdate observer s.mRadio.mCurrentVolume s.mRadio.mState } := by
  induction observers generalizing s with
  | nil => simp
  | cons observer rest ih =>
    rw [List.foldl_cons, ih]
    simp [send]

theorem writeRegisters_eq (s : PlayingRadio) : s.writeRegisters = { s with sent := s.sent ++ s.report } := by
  unfold writeRegisters notifyObservers
  rw [notify_eq]
  simp [send, report]

@[simp] theorem writeRegisters_mRadio : s.writeRegisters.mRadio = s.mRadio := by rw [writeRegisters_eq]

@[simp] theorem writeRegisters_mDabReceiver : s.writeRegisters.mDabReceiver = s.mDabReceiver := by rw [writeRegisters_eq]

@[simp] theorem send_mRadio (output : RadioOutput) : (s.send output).mRadio = s.mRadio := rfl

@[simp] theorem send_mDabReceiver (output : RadioOutput) : (s.send output).mDabReceiver = s.mDabReceiver := rfl

/-! ### The radio of the other modules -/

def quiet (s : PlayingRadio) : Radio × DABReceiver := (s.mRadio, s.mDabReceiver)

theorem setVolume_mRadio (smooth : Bool) (volume : Int) :
    (s.setVolume smooth volume).mRadio = s.mRadio.setVolume smooth volume ∧
      (s.setVolume smooth volume).mDabReceiver = s.mDabReceiver := by
  unfold setVolume
  dsimp only
  split
  · exact ⟨rfl, rfl⟩
  · simp

theorem pwrOn_quiet (smooth : Bool) (volume : Int) :
    (s.pwrOn smooth volume).quiet = s.mRadio.pwrOn s.mDabReceiver smooth volume := by
  simp [quiet, pwrOn, Radio.pwrOn, setVolume_mRadio]

theorem pwrOff_quiet : s.pwrOff.quiet = s.mRadio.pwrOff s.mDabReceiver := by
  simp [quiet, pwrOff, Radio.pwrOff, Radio.unRegisterFMReceiver]

theorem up_quiet : s.up.quiet = (s.mRadio.up, s.mDabReceiver) := by
  unfold up
  split
  · simp [quiet]
  · rename_i loud
    rw [Radio.up, if_neg loud]
    rfl

theorem down_quiet : s.down.quiet = (s.mRadio.down, s.mDabReceiver) := by
  unfold down
  split
  · simp [quiet]
  · rename_i low
    rw [Radio.down, if_neg low]
    rfl

theorem up_cancelDimmer_quiet : s.up.cancelDimmer.quiet =
    ({ s.mRadio.up with mUpDownTimer := s.mRadio.mUpDownTimer.cancelDimmer }, s.mDabReceiver) := by
  have radio : s.up.mRadio = s.mRadio.up := congrArg Prod.fst up_quiet
  have receiver : s.up.mDabReceiver = s.mDabReceiver := congrArg Prod.snd up_quiet
  rw [quiet, cancelDimmer, radio, receiver, Radio.up_mUpDownTimer]

theorem down_cancelDimmer_quiet : s.down.cancelDimmer.quiet =
    ({ s.mRadio.down with mUpDownTimer := s.mRadio.mUpDownTimer.cancelDimmer }, s.mDabReceiver) := by
  have radio : s.down.mRadio = s.mRadio.down := congrArg Prod.fst down_quiet
  have receiver : s.down.mDabReceiver = s.mDabReceiver := congrArg Prod.snd down_quiet
  have timer : s.mRadio.down.mUpDownTimer = s.mRadio.mUpDownTimer := by
    unfold Radio.down
    split <;> rfl
  rw [quiet, cancelDimmer, radio, receiver, timer]

theorem volumeKeys_quiet (info : KeyboardInfo) :
    (s.volumeKeys info).quiet = (s.mRadio.volumeKeys info, s.mDabReceiver) := by
  have raise (key : Bool) : (if key then s.up.cancelDimmer else s).quiet =
      (if key then { s.mRadio.up with mUpDownTimer := s.mRadio.mUpDownTimer.cancelDimmer } else s.mRadio, s.mDabReceiver) := by
    cases key
    · rfl
    · exact up_cancelDimmer_quiet
  have lower (key : Bool) (s : PlayingRadio) : (if key then s.down.cancelDimmer else s).quiet =
      (if key then { s.mRadio.down with mUpDownTimer := s.mRadio.mUpDownTimer.cancelDimmer } else s.mRadio,
        s.mDabReceiver) := by
    cases key
    · rfl
    · exact down_cancelDimmer_quiet
  unfold volumeKeys Radio.volumeKeys
  dsimp only
  split
  · obtain ⟨radio, receiver⟩ := Prod.mk.inj (raise
      ((info.mKeyInfo KEY_UP).mShortPressed || (info.mKeyInfo KEY_UP).mLongPress))
    rw [lower, radio, receiver]
  · rfl

theorem powerKey_quiet (info : KeyboardInfo) :
    (s.powerKey info).quiet = s.mRadio.powerKey s.mDabReceiver info := by
  unfold powerKey Radio.powerKey
  split
  · cases s.mRadio.mState with
    | PwrOff => exact pwrOn_quiet false 0
    | PwrOn => exact pwrOff_quiet
  · rfl

theorem dimmerThread_quiet : s.dimmerThread.quiet = (s.mRadio.dimmerThread, s.mDabReceiver) := by
  unfold dimmerThread Radio.dimmerThread
  dsimp only
  cases s.mRadio.mUpDownTimer.dimmerThread.2 with
  | none => rfl
  | some dimming =>
    cases dimming with
    | up => exact up_quiet
    | down => exact down_quiet

theorem autoOffThread_quiet : s.autoOffThread.quiet = s.mRadio.autoOffThread s.mDabReceiver := by
  unfold autoOffThread Radio.autoOffThread
  dsimp only
  split
  · exact pwrOff_quiet
  · rfl

theorem step_quiet (s : PlayingRadio) (event : Radio.Event) : (s.step event).quiet = Radio.step s.quiet event := by
  cases event with
  | pwrOn smooth volume => exact pwrOn_quiet smooth volume
  | pwrOff => exact pwrOff_quiet
  | keyboardPressed info =>
    obtain ⟨radio, receiver⟩ := Prod.mk.inj (@volumeKeys_quiet s info)
    simp only [step, Radio.step, Radio.keyboardPressed, powerKey_quiet, radio, receiver]
    rfl
  | dimmerThread => exact dimmerThread_quiet
  | autoOffThread => exact autoOffThread_quiet
  | receiver dab => rfl

/-! ### What every event keeps -/

/-- A condition that the methods keep, and that the timers and the receiver do not touch. -/
structure Kept (P : PlayingRadio → Prop) : Prop where
  pwrOn : ∀ {s} smooth volume, P s → P (s.pwrOn smooth volume)
  pwrOff : ∀ {s}, P s → P s.pwrOff
  up : ∀ {s}, P s → P s.up
  down : ∀ {s}, P s → P s.down
  timers : ∀ {s} upDown autoPowerOff, P s →
    P { s with mRadio := { s.mRadio with mUpDownTimer := upDown, mAutoPowerOffTimer := autoPowerOff } }
  receiver : ∀ {s} dab, P s → P { s with mDabReceiver := dab }

theorem Kept.volumeKeys {P : PlayingRadio → Prop} (kept : Kept P) (info : KeyboardInfo) (holds : P s) :
    P (s.volumeKeys info) := by
  have cancel {s : PlayingRadio} (holds : P s) : P s.cancelDimmer := kept.timers _ _ holds
  unfold PlayingRadio.volumeKeys
  dsimp only
  split
  · have raised : P (if ((info.mKeyInfo KEY_UP).mShortPressed || (info.mKeyInfo KEY_UP).mLongPress) = true
        then s.up.cancelDimmer else s) := by
      split
      · exact cancel (kept.up holds)
      · exact holds
    split
    · exact cancel (kept.down raised)
    · exact raised
  · exact holds

theorem Kept.step {P : PlayingRadio → Prop} (kept : Kept P) (event : Radio.Event) (holds : P s) : P (s.step event) := by
  cases event with
  | pwrOn smooth volume => exact kept.pwrOn smooth volume holds
  | pwrOff => exact kept.pwrOff holds
  | keyboardPressed info =>
    have turned := kept.volumeKeys info holds
    simp only [PlayingRadio.step, PlayingRadio.powerKey]
    split
    · split
      · exact kept.pwrOn false 0 turned
      · exact kept.pwrOff turned
    · exact turned
  | dimmerThread =>
    have counted := kept.timers s.mRadio.mUpDownTimer.dimmerThread.1 s.mRadio.mAutoPowerOffTimer holds
    simp only [PlayingRadio.step, PlayingRadio.dimmerThread]
    split
    · exact kept.up counted
    · exact kept.down counted
    · exact counted
  | autoOffThread =>
    have counted := kept.timers s.mRadio.mUpDownTimer s.mRadio.mAutoPowerOffTimer.autoOffThread.1 holds
    simp only [PlayingRadio.step, PlayingRadio.autoOffThread]
    split
    · exact kept.pwrOff counted
    · exact counted
  | receiver dab => exact kept.receiver dab holds

theorem Kept.run {P : PlayingRadio → Prop} (kept : Kept P) (events : List Radio.Event) (start : P s) :
    P (run PlayingRadio.step s events) :=
  @run_invariant _ _ _ P (fun _ event holds => kept.step event holds) _ events start

/-! ### The amplifier and the observers -/

/-- The registers that the amplifier has got, one write after the other. -/
def registers (sent : List RadioOutput) : List (Option UInt8 × UInt8 × UInt8) :=
  sent.filterMap fun
    | .writeData attenuation mask control => some (attenuation, mask, control)
    | _ => none

def news (observer : DisplayId) (sent : List RadioOutput) : List (UInt8 × RadioState) :=
  sent.filterMap fun
    | .radioStateUpdate other volume state => if other = observer then some (volume, state) else none
    | _ => none

def registersFor (info : UInt8 × RadioState) : Option UInt8 × UInt8 × UInt8 :=
  (attenuation info.1, 0, if info.2 = .PwrOn then POWER_UP else SHUTDOWN)

/-- Whatever stands in the registers of the radio fits its state. Since the two writes of the constructor, its observers, and
nobody else, have been told of each write. -/
structure Ready (s : PlayingRadio) : Prop where
  mask : s.mMaskRegister = 0
  control : s.mControlRegister = if s.mRadio.mState = .PwrOn then POWER_UP else SHUTDOWN
  distinct : s.mRadio.mRadioObservers.Nodup
  begun : 2 ≤ (registers s.sent).length
  told : ∀ observer ∈ s.mRadio.mRadioObservers, (news observer s.sent).map registersFor = (registers s.sent).drop 2
  others : ∀ observer, observer ∉ s.mRadio.mRadioObservers → news observer s.sent = []

/-- The amplifier and the observers know the volume and the state of the radio. -/
structure Informed (s : PlayingRadio) : Prop extends Ready s where
  written : (registers s.sent).getLast? = some (registersFor (s.mRadio.mCurrentVolume, s.mRadio.mState))
  last : ∀ observer info, (news observer s.sent).getLast? = some info → info = (s.mRadio.mCurrentVolume, s.mRadio.mState)

theorem registers_report (sent : List RadioOutput) (s : PlayingRadio) : registers (sent ++ s.report) =
    registers sent ++ [(attenuation s.mRadio.mCurrentVolume, s.mMaskRegister, s.mControlRegister)] := by
  simp [registers, report, List.filterMap_append, List.filterMap_map]

theorem news_among (observer : DisplayId) (info : UInt8 × RadioState) {observers : List DisplayId}
    (distinct : observers.Nodup) :
    (observers.filterMap fun other => if other = observer then some info else none) =
      if observer ∈ observers then [info] else [] := by
  induction observers with
  | nil => rfl
  | cons other rest ih =>
    obtain ⟨fresh, distinct⟩ := List.nodup_cons.mp distinct
    by_cases same : other = observer
    · subst same
      rw [List.filterMap_cons, if_pos rfl, ih distinct, if_neg fresh, if_pos List.mem_cons_self]
    · rw [List.filterMap_cons, if_neg same, ih distinct]
      simp [Ne.symm same]

theorem news_report (observer : DisplayId) (sent : List RadioOutput) (distinct : s.mRadio.mRadioObservers.Nodup) :
    news observer (sent ++ s.report) = news observer sent ++
      if observer ∈ s.mRadio.mRadioObservers then [(s.mRadio.mCurrentVolume, s.mRadio.mState)] else [] := by
  unfold news report
  rw [List.filterMap_append, List.filterMap_cons_none rfl, List.filterMap_map]
  simp only [Function.comp_def, news_among _ _ distinct]

theorem Ready.writeRegisters (ready : Ready s) : Informed s.writeRegisters := by
  have stand : (attenuation s.mRadio.mCurrentVolume, s.mMaskRegister, s.mControlRegister) =
      registersFor (s.mRadio.mCurrentVolume, s.mRadio.mState) := by
    rw [ready.mask, ready.control]
    rfl
  have written := registers_report s.sent s
  rw [stand] at written
  rw [writeRegisters_eq]
  refine ⟨⟨ready.mask, ready.control, ready.distinct, ?_, fun observer present => ?_, fun observer absent => ?_⟩, ?_,
    fun observer info last => ?_⟩
  · rw [written, List.length_append]
    exact Nat.le_add_right_of_le ready.begun
  · rw [news_report observer s.sent ready.distinct, if_pos present, written, List.map_append, ready.told observer present,
      List.drop_append_of_le_length ready.begun]
    rfl
  · rw [news_report observer s.sent ready.distinct, if_neg absent, ready.others observer absent, List.append_nil]
  · rw [written, List.getLast?_concat]
  · rw [news_report observer s.sent ready.distinct] at last
    by_cases present : observer ∈ s.mRadio.mRadioObservers
    · rw [if_pos present, List.getLast?_concat] at last
      exact (Option.some.inj last).symm
    · rw [if_neg present, ready.others observer present] at last
      cases last

/-- Neither the amplifier nor an observer hears of the receiver. -/
theorem sent_call {output : RadioOutput} (call : output = .powerOn ∨ output = .powerOff) (sent : List RadioOutput) :
    registers (sent ++ [output]) = registers sent ∧ ∀ observer, news observer (sent ++ [output]) = news observer sent := by
  rcases call with rfl | rfl <;> simp [registers, news, List.filterMap_append]

theorem Ready.call (ready : Ready s) (dab : DABReceiver) {output : RadioOutput}
    (call : output = .powerOn ∨ output = .powerOff) : Ready ({ s with mDabReceiver := dab }.send output) := by
  obtain ⟨writes, unheard⟩ := sent_call call s.sent
  refine ⟨ready.mask, ready.control, ready.distinct, ?_, fun observer present => ?_, fun observer absent => ?_⟩
  · show 2 ≤ (registers (s.sent ++ [output])).length
    rw [writes]
    exact ready.begun
  · show (news observer (s.sent ++ [output])).map registersFor = (registers (s.sent ++ [output])).drop 2
    rw [writes, unheard]
    exact ready.told observer present
  · exact (unheard observer).trans (ready.others observer absent)

theorem Informed.call (informed : Informed s) (dab : DABReceiver) {output : RadioOutput}
    (call : output = .powerOn ∨ output = .powerOff) : Informed ({ s with mDabReceiver := dab }.send output) := by
  obtain ⟨writes, unheard⟩ := sent_call call s.sent
  refine ⟨informed.toReady.call dab call, (congrArg List.getLast? writes).trans informed.written, fun observer info last => ?_⟩
  exact informed.last observer info ((congrArg List.getLast? (unheard observer)).symm.trans last)

theorem Ready.radio (ready : Ready s) {radio : Radio} (state : radio.mState = s.mRadio.mState)
    (observers : radio.mRadioObservers = s.mRadio.mRadioObservers) : Ready { s with mRadio := radio } :=
  ⟨ready.mask, state ▸ ready.control, observers ▸ ready.distinct, ready.begun,
    fun observer present => ready.told observer (observers ▸ present),
    fun observer absent => ready.others observer (observers ▸ absent)⟩

theorem Informed.radio (informed : Informed s) {radio : Radio} (volume : radio.mCurrentVolume = s.mRadio.mCurrentVolume)
    (state : radio.mState = s.mRadio.mState) (observers : radio.mRadioObservers = s.mRadio.mRadioObservers) :
    Informed { s with mRadio := radio } := by
  refine ⟨informed.toReady.radio state observers, ?_, fun observer info last => ?_⟩
  · show (registers s.sent).getLast? = some (registersFor (radio.mCurrentVolume, radio.mState))
    rw [volume, state]
    exact informed.written
  · show info = (radio.mCurrentVolume, radio.mState)
    rw [volume, state]
    exact informed.last observer info last

theorem Informed.up (informed : Informed s) : Informed s.up := by
  unfold PlayingRadio.up
  split
  · refine Ready.writeRegisters (informed.toReady.radio ?_ ?_)
    all_goals
      unfold Radio.up
      split <;> rfl
  · exact informed

theorem Informed.down (informed : Informed s) : Informed s.down := by
  unfold PlayingRadio.down
  split
  · refine Ready.writeRegisters (informed.toReady.radio ?_ ?_)
    all_goals
      unfold Radio.down
      split <;> rfl
  · exact informed

theorem Informed.pwrOff (informed : Informed s) : Informed s.pwrOff := by
  unfold PlayingRadio.pwrOff
  refine Informed.call (Ready.writeRegisters ?_) _ (.inr rfl)
  exact ⟨informed.mask, rfl, informed.distinct, informed.begun, informed.told, informed.others⟩

theorem Informed.setVolume (informed : Informed s) (smooth : Bool) (volume : Int) :
    Informed (s.setVolume smooth volume) := by
  unfold PlayingRadio.setVolume Radio.setVolume
  dsimp only
  by_cases asked : volume > 0
  · cases smooth with
    | true =>
      rw [if_pos asked, if_pos rfl, if_pos ⟨asked, rfl⟩]
      exact informed.radio rfl rfl rfl
    | false =>
      rw [if_pos asked, if_neg Bool.false_ne_true, if_neg fun both => Bool.false_ne_true both.2]
      exact Ready.writeRegisters (informed.toReady.radio rfl rfl)
  · rw [if_neg asked, if_neg fun both => asked both.1]
    exact Ready.writeRegisters (informed.toReady.radio rfl rfl)

theorem Informed.pwrOn (informed : Informed s) (smooth : Bool) (volume : Int) : Informed (s.pwrOn smooth volume) := by
  have called := informed.toReady.call ((s.mRadio.registerFMReceiver s.mDabReceiver).powerOn) (.inl rfl)
  unfold PlayingRadio.pwrOn
  refine Informed.radio (Informed.setVolume (Ready.writeRegisters ?_) smooth volume) rfl rfl rfl
  exact ⟨called.mask, rfl, called.distinct, called.begun, called.told, called.others⟩

theorem Informed.receiver (informed : Informed s) (dab : DABReceiver) : Informed { s with mDabReceiver := dab } := by
  obtain ⟨⟨mask, control, distinct, begun, told, others⟩, written, last⟩ := informed
  exact ⟨⟨mask, control, distinct, begun, told, others⟩, written, last⟩

theorem kept_informed : Kept Informed where
  pwrOn smooth volume informed := informed.pwrOn smooth volume
  pwrOff informed := informed.pwrOff
  up informed := informed.up
  down informed := informed.down
  timers _ _ informed := informed.radio rfl rfl rfl
  receiver dab informed := informed.receiver dab

theorem registered_same {observers : List DisplayId} {radio : Radio} (distinct : radio.mRadioObservers.Nodup) :
    (observers.foldl Radio.registerRadioObserver radio).mCurrentVolume = radio.mCurrentVolume ∧
      (observers.foldl Radio.registerRadioObserver radio).mState = radio.mState ∧
      (observers.foldl Radio.registerRadioObserver radio).mRadioObservers.Nodup := by
  induction observers generalizing radio with
  | nil => exact ⟨rfl, rfl, distinct⟩
  | cons observer rest ih => exact @ih (radio.registerRadioObserver observer) distinct.insert

theorem construct_informed (mDabReceiver : DABReceiver) (observers : List DisplayId) :
    Informed (construct mDabReceiver observers) := by
  obtain ⟨volume, state, distinct⟩ := @registered_same observers {} List.nodup_nil
  have radio : (construct mDabReceiver observers).mRadio = observers.foldl Radio.registerRadioObserver {} := by
    simp [construct]
  have sent : (construct mDabReceiver observers).sent = [.writeData (attenuation STARTUP_VOLUME) 0 SHUTDOWN,
      .writeData (attenuation STARTUP_VOLUME) 0 SHUTDOWN] := by
    simp [construct, writeRegisters_eq, report]
  have mask : (construct mDabReceiver observers).mMaskRegister = 0 := by simp [construct, writeRegisters_eq]
  have control : (construct mDabReceiver observers).mControlRegister = SHUTDOWN := by simp [construct, writeRegisters_eq]
  refine ⟨⟨mask, ?_, ?_, ?_, fun observer _ => ?_, fun observer _ => ?_⟩, ?_, fun observer info last => ?_⟩
  · rw [control, radio, state]
    rfl
  · rw [radio]
    exact distinct
  · rw [sent]
    rfl
  · rw [sent]
    rfl
  · rw [sent]
    rfl
  · rw [sent, radio, volume, state]
    rfl
  · rw [sent] at last
    cases last

theorem construct_registered (mDabReceiver : DABReceiver) {observers : List DisplayId} {observer : DisplayId}
    (present : observer ∈ observers) : observer ∈ (construct mDabReceiver observers).mRadio.mRadioObservers := by
  have kept (later : List DisplayId) (radio : Radio) (already : observer ∈ radio.mRadioObservers) :
      observer ∈ (later.foldl Radio.registerRadioObserver radio).mRadioObservers := by
    induction later generalizing radio with
    | nil => exact already
    | cons other rest ih => exact ih _ (List.mem_insert_of_mem already)
  obtain ⟨before, after, rfl⟩ := List.append_of_mem present
  simp only [construct, List.foldl_append, List.foldl_cons]
  exact kept after _ List.mem_insert_self

theorem kept_observers (observers : List DisplayId) : Kept fun s => s.mRadio.mRadioObservers = observers where
  pwrOn {s} smooth volume same := by
    have set (later : PlayingRadio) : (later.setVolume smooth volume).mRadio.mRadioObservers = later.mRadio.mRadioObservers := by
      rw [(setVolume_mRadio smooth volume).1]
      unfold Radio.setVolume
      repeat' split
      all_goals rfl
    simp only [PlayingRadio.pwrOn, set, writeRegisters_mRadio, send_mRadio, same]
  pwrOff same := by simp [PlayingRadio.pwrOff, same]
  up {s} same := by
    rw [show s.up.mRadio = s.mRadio.up from congrArg Prod.fst up_quiet, ← same]
    unfold Radio.up
    split <;> rfl
  down {s} same := by
    rw [show s.down.mRadio = s.mRadio.down from congrArg Prod.fst down_quiet, ← same]
    unfold Radio.down
    split <;> rfl
  timers _ _ same := same
  receiver _ same := same

/-- After every run of events, the amplifier has the attenuation of the radio's volume and is shut down unless the radio
is on. Each observer has been told of every write of these registers since it was registered, in their order, and the volume
and the state it was told last are the radio's; the radio itself is the one of the other modules. -/
theorem amplifier_informed (mDabReceiver : DABReceiver) (observers : List DisplayId) (events : List Radio.Event) :
    let s := run step (construct mDabReceiver observers) events
    s.quiet = run Radio.step (construct mDabReceiver observers).quiet events ∧
      (registers s.sent).getLast? = some (registersFor (s.mRadio.mCurrentVolume, s.mRadio.mState)) ∧
      ∀ observer ∈ observers,
        (news observer s.sent).map registersFor = (registers s.sent).drop 2 ∧
          ∀ info, (news observer s.sent).getLast? = some info → info = (s.mRadio.mCurrentVolume, s.mRadio.mState) := by
  intro s
  have informed : Informed s := kept_informed.run events (construct_informed mDabReceiver observers)
  have registered : s.mRadio.mRadioObservers = _ := (kept_observers _).run events rfl
  have known : ∀ observer ∈ observers, observer ∈ s.mRadio.mRadioObservers := by
    intro observer present
    rw [registered]
    exact construct_registered mDabReceiver present
  refine ⟨?_, informed.written, fun observer present =>
    ⟨informed.told observer (known observer present), informed.last observer⟩⟩
  exact @run_simulates _ _ step _ Radio.step (fun first second => first.quiet = second)
    (fun first _ event related => related ▸ step_quiet first event) _ _ rfl events

/-- The display is told of the start volume, of the volume that is asked for, and of the end. -/
example :
    let s := run step (construct {} [3]) [.pwrOn false 30, .dimmerThread, .pwrOff]
    news 3 s.sent = [(SLOW_VOLUME_START_VOLUME, .PwrOn), (30, .PwrOn), (30, .PwrOff)] := by
  decide

/-! ### The order of what is sent -/

/-- What someone knows who hears all that the radio sends. -/
structure Heard where
  powered : Bool := false
  receiving : Bool := false

def hear (heard : Heard) : RadioOutput → Heard
  | .powerOn => { heard with receiving := true }
  | .powerOff => { heard with receiving := false }
  | .writeData _ _ control => { heard with powered := decide (control = POWER_UP) }
  | .radioStateUpdate _ _ _ => heard

/-- The amplifier is powered only after the receiver has been called. -/
def Clean (heard : Heard) : Prop := heard.powered = true → heard.receiving = true

/-- All that was sent is clean, and so is what the registers would make the amplifier. -/
structure Ordered (s : PlayingRadio) : Prop where
  clean : Meets hear (fun heard output => Clean (hear heard output)) {} s.sent
  ready : s.mControlRegister = POWER_UP → (run hear {} s.sent).receiving = true

theorem hear_report (heard : Heard) (s : PlayingRadio) :
    run hear heard s.report = { heard with powered := decide (s.mControlRegister = POWER_UP) } := by
  have told (heard : Heard) (observers : List DisplayId) : run hear heard (observers.map fun observer =>
      .radioStateUpdate observer s.mRadio.mCurrentVolume s.mRadio.mState) = heard := by
    induction observers with
    | nil => rfl
    | cons observer rest ih => exact ih
  exact told _ _

theorem clean_report {heard : Heard} (receiving : s.mControlRegister = POWER_UP → heard.receiving = true) :
    Meets hear (fun heard output => Clean (hear heard output)) heard s.report := by
  have written : Clean (hear heard (.writeData (attenuation s.mRadio.mCurrentVolume) s.mMaskRegister s.mControlRegister)) :=
    fun powered => receiving (of_decide_eq_true powered)
  refine ⟨written, ?_⟩
  generalize hear heard _ = later at written
  induction s.mRadio.mRadioObservers with
  | nil => trivial
  | cons observer rest ih => exact ⟨written, ih⟩

theorem Ordered.writeRegisters (ordered : Ordered s) : Ordered s.writeRegisters := by
  have later : run hear {} (s.sent ++ s.report) =
      { run hear {} s.sent with powered := decide (s.mControlRegister = POWER_UP) } := by
    rw [run_append, hear_report]
  rw [writeRegisters_eq]
  refine ⟨meets_append.mpr ⟨ordered.clean, clean_report ordered.ready⟩, ?_⟩
  show s.mControlRegister = POWER_UP → (run hear {} (s.sent ++ s.report)).receiving = true
  rw [later]
  exact ordered.ready

theorem Ordered.inside (ordered : Ordered s) (radio : Radio) (dab : DABReceiver) :
    Ordered { s with mRadio := radio, mDabReceiver := dab } :=
  ⟨ordered.clean, ordered.ready⟩

theorem Ordered.up (ordered : Ordered s) : Ordered s.up := by
  unfold PlayingRadio.up
  split
  · exact Ordered.writeRegisters (ordered.inside s.mRadio.up s.mDabReceiver)
  · exact ordered

theorem Ordered.down (ordered : Ordered s) : Ordered s.down := by
  unfold PlayingRadio.down
  split
  · exact Ordered.writeRegisters (ordered.inside s.mRadio.down s.mDabReceiver)
  · exact ordered

/-- The amplifier is shut down before the receiver is let go. -/
theorem Ordered.pwrOff (ordered : Ordered s) : Ordered s.pwrOff := by
  have off : SHUTDOWN ≠ POWER_UP := by decide
  have shut (radio : Radio) : Ordered ({ s with mRadio := radio, mControlRegister := SHUTDOWN } : PlayingRadio) :=
    ⟨ordered.clean, fun powered => absurd powered off⟩
  have silent (radio : Radio) :
      (run hear {} (PlayingRadio.writeRegisters
        { s with mRadio := radio, mControlRegister := SHUTDOWN }).sent).powered = false := by
    rw [writeRegisters_eq, run_append, hear_report]
    exact decide_eq_false off
  have released (later : PlayingRadio) (control : later.mControlRegister = SHUTDOWN)
      (powered : (run hear {} later.sent).powered = false) (shut : Ordered later) (dab : DABReceiver) :
      Ordered ({ later with mDabReceiver := dab }.send .powerOff) := by
    have clean : Clean (hear (run hear {} later.sent) .powerOff) :=
      fun still => absurd (powered.symm.trans still) Bool.false_ne_true
    exact ⟨meets_concat.mpr ⟨shut.clean, clean⟩, fun up => absurd (control.symm.trans up) off⟩
  unfold PlayingRadio.pwrOff
  refine released _ ?_ (silent _) (Ordered.writeRegisters (shut _)) _
  rw [writeRegisters_eq]

/-- The receiver is called before the amplifier is powered. -/
theorem Ordered.pwrOn (ordered : Ordered s) (smooth : Bool) (volume : Int) : Ordered (s.pwrOn smooth volume) := by
  have called (radio : Radio) (dab : DABReceiver) : Ordered { s with
      mRadio := radio, mDabReceiver := dab, mControlRegister := POWER_UP, sent := s.sent ++ [.powerOn] } := by
    refine ⟨meets_concat.mpr ⟨ordered.clean, fun _ => rfl⟩, fun _ => ?_⟩
    show (run hear {} (s.sent ++ [.powerOn])).receiving = true
    rw [run_concat]
    rfl
  have set (later : PlayingRadio) (ordered : Ordered later) : Ordered (later.setVolume smooth volume) := by
    unfold PlayingRadio.setVolume
    dsimp only
    split
    · exact ordered.inside _ _
    · exact Ordered.writeRegisters (ordered.inside _ _)
  unfold PlayingRadio.pwrOn
  exact (set _ (Ordered.writeRegisters (called _ _))).inside _ _

theorem kept_ordered : Kept Ordered where
  pwrOn smooth volume ordered := ordered.pwrOn smooth volume
  pwrOff ordered := ordered.pwrOff
  up ordered := ordered.up
  down ordered := ordered.down
  timers _ _ ordered := ordered.inside _ _
  receiver _ ordered := ordered.inside _ _

theorem construct_ordered (mDabReceiver : DABReceiver) (observers : List DisplayId) :
    Ordered (construct mDabReceiver observers) := by
  have off : SHUTDOWN ≠ POWER_UP := by decide
  have start : Ordered { mDabReceiver, mControlRegister := SHUTDOWN } :=
    ⟨trivial, fun powered => absurd powered off⟩
  exact start.writeRegisters.writeRegisters.inside _ _

/-- At no moment of a run does the amplifier play while the last call on the receiver was to power it off: the receiver is
called before the amplifier is powered, and the amplifier is shut down before the receiver is let go. -/
theorem amplifier_plays_received (mDabReceiver : DABReceiver) (observers : List DisplayId) (events : List Radio.Event)
    (n : Nat) : Clean (stateAt hear {} (run step (construct mDabReceiver observers) events).sent n) := by
  have ordered : Ordered (run step (construct mDabReceiver observers) events) :=
    kept_ordered.run events (construct_ordered mDabReceiver observers)
  induction n with
  | zero => exact nofun
  | succ n ih =>
    cases found : (run step (construct mDabReceiver observers) events).sent[n]? with
    | some output =>
      rw [stateAt_succ found]
      exact ordered.clean.at found
    | none =>
      rw [stateAt_end found]
      exact ih

end PlayingRadio

end RgbClock.Devices
