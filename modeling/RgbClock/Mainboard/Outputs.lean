import RgbClock.Bus.Expander
import RgbClock.Keys.Keyboard

/-! The outputs of the mainboard: the relays on one port of its expander, and on the other the lines that mute the
audio, connect its two inputs, reset the tuner and pulse the hardware watchdog. The calls come from several threads.
Those that use the second port hold `mBusMutex` from their first write to their last, so each is one step. The keyboards
report to `keyboardPressed` without a lock, and its statements are steps that the others may come between. -/

namespace RgbClock.Mainboard
open Bus Runs Keys

def RL_U17 : Nat := 0
def RL_U16 : Nat := 1
def RL_U15 : Nat := 2
def RL_U14 : Nat := 3

def MUTE : Nat := 0
def RADIO_IN : Nat := 1
def AUX_IN : Nat := 2
def RADIO_RST : Nat := 3
def WATCHDOG : Nat := 4

inductive InputSelection where
  | RadioIn | Auxin
  deriving DecidableEq

/-- Where a call of `keyboardPressed` stands: before some of its assignments, or with the byte that it writes. -/
inductive Pressing where
  | assign (left : List (Nat × Bool))
  | send (byte : UInt8)
  deriving DecidableEq

structure Outputs where
  mIO : IOExpander
  mHwRevision : UInt8
  mRelaisBus : BitVec 8 := 0
  mMainBus : BitVec 8 := 0
  /-- The calls of `keyboardPressed` that have not come to their end. -/
  pressing : List Pressing := []

namespace Outputs

section
variable (writes : Nat → Bool) (o : Outputs)

def writeRelais : Outputs := { o with mIO := o.mIO.writeA writes ⟨o.mRelaisBus⟩ }

def writeMain : Outputs := { o with mIO := o.mIO.writeB writes ⟨o.mMainBus⟩ }

def setMain (bit : Nat) (value : Bool) : Outputs := { o with mMainBus := assign o.mMainBus bit value }

def setRelais (bit : Nat) (value : Bool) : Outputs := { o with mRelaisBus := assign o.mRelaisBus bit value }

def init : Outputs :=
  let o := { o with mIO := (o.mIO.directionA writes .dirOut).directionB writes .dirOut }
  let o := o.writeRelais writes
  ((((o.setMain MUTE false).setMain RADIO_IN false).setMain AUX_IN false).setMain RADIO_RST true).writeMain writes

def mainboardControl (hwrevision : UInt8) : Outputs :=
  init writes { mIO := ({} : IOExpander).init writes, mHwRevision := hwrevision }

def keyboardPressed (keyboardInfo : KeyboardInfo) : Outputs :=
  if o.mHwRevision = 1 then o
  else
    { o with
      pressing := o.pressing ++
        [.assign
          [(RL_U17, (keyboardInfo.mKeyInfo KEY_REL1).mPressed), (RL_U16, (keyboardInfo.mKeyInfo KEY_REL2).mPressed),
            (RL_U15, (keyboardInfo.mKeyInfo KEY_REL3).mPressed), (RL_U14, (keyboardInfo.mKeyInfo KEY_REL4).mPressed)]] }

/-- The next step of one of these calls. -/
def proceed (call : Nat) : Outputs :=
  match o.pressing[call]? with
  | some (.assign ((bit, value) :: left)) =>
    { o.setRelais bit value with pressing := o.pressing.set call (.assign left) }
  | some (.assign []) => { o with pressing := o.pressing.set call (.send ⟨o.mRelaisBus⟩) }
  | some (.send byte) => { o with mIO := o.mIO.writeA writes byte, pressing := o.pressing.eraseIdx call }
  | none => o

def mute (mute : Bool) : Outputs :=
  if o.mHwRevision = 1 then o else (o.setMain MUTE !mute).writeMain writes

def resetTuner : Outputs :=
  let o := (o.setMain RADIO_RST false).writeMain writes
  (o.setMain RADIO_RST true).writeMain writes

def selectInput (input : InputSelection) : Outputs :=
  if o.mHwRevision = 1 then o
  else
    let o := o.mute writes true
    -- all are disabled first
    let o := ((o.setMain RADIO_IN true).setMain AUX_IN true).writeMain writes
    let o := match input with
      | .RadioIn => (o.setMain RADIO_IN false).setMain AUX_IN true
      | .Auxin => (o.setMain RADIO_IN true).setMain AUX_IN false
    (o.writeMain writes).mute writes false

/-- The end of an iteration of the watchdog thread. -/
def watchdogPulse : Outputs :=
  let o := (o.setMain WATCHDOG false).writeMain writes
  (o.setMain WATCHDOG true).writeMain writes

end

inductive Event where
  | keyboardPressed (keyboardInfo : KeyboardInfo)
  | proceed (call : Nat)
  | mute (mute : Bool)
  | resetTuner
  | selectInput (input : InputSelection)
  | watchdogPulse

def Event.unmutes : Event → Bool
  | .mute muted => !muted
  | _ => false

def step (writes : Nat → Bool) (o : Outputs) : Outputs.Event → Outputs
  | .keyboardPressed keyboardInfo => o.keyboardPressed keyboardInfo
  | .proceed call => o.proceed writes call
  | .mute muted => o.mute writes muted
  | .resetTuner => o.resetTuner writes
  | .selectInput input => o.selectInput writes input
  | .watchdogPulse => o.watchdogPulse writes

end Outputs

/-! ### What is asked for -/

/-- The audio path as the calls so far want it, whatever pulses came in between, and the relays as the keys were when
they were last reported. -/
structure Wanted where
  muted : Bool := true
  /-- Before the first selection both inputs are connected. -/
  input : Option InputSelection := none
  relays : Fin 4 → Bool := fun _ => false
  /-- The line to the hardware watchdog rests high after its first pulse. -/
  pulsed : Bool := false

namespace Wanted
open Outputs

def step (hwrevision : UInt8) (w : Wanted) : Outputs.Event → Wanted
  | .keyboardPressed info =>
    if hwrevision = 1 then w
    else { w with relays := fun relay => (info.mKeyInfo (⟨5 + relay.val, Nat.add_lt_add_left relay.isLt 5⟩)).mPressed }
  | .proceed _ => w
  | .mute muted => if hwrevision = 1 then w else { w with muted }
  | .resetTuner => w
  | .selectInput input => if hwrevision = 1 then w else { w with muted := false, input := some input }
  | .watchdogPulse => { w with pulsed := true }

/-- The lines of the second port; an input is connected by a low line. -/
def mainLines (w : Wanted) : BitVec 8 :=
  lines (!w.muted) (w.input = some .Auxin) (w.input = some .RadioIn) true w.pulsed

def relayLines (w : Wanted) : BitVec 8 := lines (w.relays 0) (w.relays 1) (w.relays 2) (w.relays 3) false

end Wanted

/-! ### The lines -/

def unmuted (byte : UInt8) : Bool := byte.toBitVec.getLsbD MUTE

def radioOff (byte : UInt8) : Bool := byte.toBitVec.getLsbD RADIO_IN

def auxOff (byte : UInt8) : Bool := byte.toBitVec.getLsbD AUX_IN

/-- Two bytes that follow each other on the second port. The inputs change while the audio is muted, before and
after; and a byte that resets the tuner is followed by the one that ends the reset and changes nothing else. -/
def Adjacent (byte next : UInt8) : Prop :=
  ((radioOff byte = radioOff next ∧ auxOff byte = auxOff next) ∨ (unmuted byte = false ∧ unmuted next = false)) ∧
    (byte.toBitVec.getLsbD RADIO_RST = true ∨ next.toBitVec = assign byte.toBitVec RADIO_RST true)

instance instDecidableAdjacent (byte next : UInt8) : Decidable (Adjacent byte next) :=
  inferInstanceAs (Decidable (_ ∧ _))

theorem adjacent_lines (u r a t p u' r' a' t' p' : Bool) :
    Adjacent ⟨lines u r a t p⟩ ⟨lines u' r' a' t' p'⟩ ↔
      ((r = r' ∧ a = a') ∨ (u = false ∧ u' = false)) ∧
        (t = true ∨ (t' = true ∧ u = u' ∧ r = r' ∧ a = a' ∧ p = p')) := by
  revert u r a t p u' r' a' t' p'
  decide +kernel

def oneInput (byte : UInt8) : Prop := radioOff byte ≠ auxOff byte

instance instDecidableOneInput (byte : UInt8) : Decidable (oneInput byte) := inferInstanceAs (Decidable (_ ≠ _))

theorem unmuted_lines (u r a t p : Bool) : unmuted ⟨lines u r a t p⟩ = u := by
  revert u r a t p
  decide

theorem oneInput_lines (u r a t p : Bool) : oneInput ⟨lines u r a t p⟩ ↔ r ≠ a := by
  revert u r a t p
  decide

/-! ### One call -/

namespace Outputs

section
variable {writes : Nat → Bool} {o : Outputs} {early : Prop}

/-- A call that writes to no register but that of the second port. -/
structure Beside (o next : Outputs) : Prop where
  revision : next.mHwRevision = o.mHwRevision
  relais : next.mRelaisBus = o.mRelaisBus
  pressing : next.pressing = o.pressing
  other : ∀ reg, GPIOB ≠ reg → next.mIO.bytesTo reg = o.mIO.bytesTo reg

theorem Beside.refl (o : Outputs) : Beside o o := ⟨rfl, rfl, rfl, fun _ _ => rfl⟩

theorem Beside.trans {o next last : Outputs} (first : Beside o next) (second : Beside next last) : Beside o last :=
  ⟨second.revision.trans first.revision, second.relais.trans first.relais, second.pressing.trans first.pressing,
    fun reg apart => (second.other reg apart).trans (first.other reg apart)⟩

theorem beside_writeMain (writes : Nat → Bool) (o : Outputs) (bus : BitVec 8) :
    Beside o (({ o with mMainBus := bus } : Outputs).writeMain writes) :=
  ⟨rfl, rfl, rfl, fun _ apart => IOExpander.bytesTo_writeB apart⟩

theorem beside_mute (writes : Nat → Bool) (o : Outputs) (muted : Bool) : Beside o (o.mute writes muted) := by
  unfold Outputs.mute
  split
  · exact Beside.refl o
  · exact beside_writeMain writes o _

theorem beside_resetTuner (writes : Nat → Bool) (o : Outputs) : Beside o (o.resetTuner writes) :=
  (beside_writeMain writes o _).trans (beside_writeMain writes _ _)

theorem beside_watchdogPulse (writes : Nat → Bool) (o : Outputs) : Beside o (o.watchdogPulse writes) :=
  (beside_writeMain writes o _).trans (beside_writeMain writes _ _)

theorem beside_selectInput (writes : Nat → Bool) (o : Outputs) (input : InputSelection) :
    Beside o (o.selectInput writes input) := by
  unfold Outputs.selectInput
  split
  · exact Beside.refl o
  · have none := (beside_mute writes o true).trans (beside_writeMain writes (o.mute writes true)
      (assign (assign (o.mute writes true).mMainBus RADIO_IN true) AUX_IN true))
    cases input with
    | RadioIn => exact (none.trans (beside_writeMain writes _ _)).trans (beside_mute writes _ _)
    | Auxin => exact (none.trans (beside_writeMain writes _ _)).trans (beside_mute writes _ _)

/-- Between two calls the last byte on the second port is the bus, and the bytes follow each other as they should.
Unless the audio was unmuted too `early`, no byte lets more or less than one input be heard. -/
structure Written (early : Prop) (o : Outputs) : Prop where
  last : (o.mIO.bytesTo GPIOB).getLast? = some ⟨o.mMainBus⟩
  chain : (o.mIO.bytesTo GPIOB).IsChain Adjacent
  heard : ∀ byte ∈ o.mIO.bytesTo GPIOB, unmuted byte = true → early ∨ oneInput byte

theorem Written.writeMain (written : o.Written early) {bus : BitVec 8} (adjacent : Adjacent ⟨o.mMainBus⟩ ⟨bus⟩)
    (heard : unmuted ⟨bus⟩ = true → early ∨ oneInput ⟨bus⟩) :
    Written early (({ o with mMainBus := bus } : Outputs).writeMain writes) := by
  constructor
  · simp [Outputs.writeMain]
  · show ((o.mIO.writeB writes ⟨bus⟩).bytesTo GPIOB).IsChain Adjacent
    rw [IOExpander.bytesTo_writeB_B]
    refine List.IsChain.append written.chain (List.IsChain.singleton _) ?_
    intro before isLast next isFirst
    rw [written.last] at isLast
    cases isLast
    cases isFirst
    exact adjacent
  · show ∀ byte ∈ (o.mIO.writeB writes ⟨bus⟩).bytesTo GPIOB, _
    rw [IOExpander.bytesTo_writeB_B]
    intro byte member
    rcases List.mem_append.mp member with earlier | now
    · exact written.heard byte earlier
    · rw [List.mem_singleton.mp now]
      exact heard

/-- The bus has these lines, and the port has been told. -/
structure Shows (early : Prop) (o : Outputs) (l0 l1 l2 l3 l4 : Bool) : Prop where
  bus : o.mMainBus = lines l0 l1 l2 l3 l4
  written : o.Written early

variable {u r a t p : Bool}

theorem Shows.writeMain (writes : Nat → Bool) (shows : o.Shows early u r a t p) {u' r' a' t' p' : Bool}
    (inputs : (r = r' ∧ a = a') ∨ (u = false ∧ u' = false))
    (reset : t = true ∨ (t' = true ∧ u = u' ∧ r = r' ∧ a = a' ∧ p = p')) (heard : u' = true → early ∨ r' ≠ a') :
    Shows early (({ o with mMainBus := lines u' r' a' t' p' } : Outputs).writeMain writes) u' r' a' t' p' := by
  refine ⟨rfl, shows.written.writeMain ?_ ?_⟩
  · rw [shows.bus]
    exact (adjacent_lines ..).mpr ⟨inputs, reset⟩
  · rw [unmuted_lines, oneInput_lines]
    exact heard

theorem Shows.heard (shows : o.Shows early u r a t p) : u = true → early ∨ r ≠ a := by
  have last := shows.written.heard ⟨o.mMainBus⟩ (List.mem_of_getLast? shows.written.last)
  rwa [shows.bus, unmuted_lines, oneInput_lines] at last

theorem Shows.mute (shows : o.Shows early u r a true p) (revision : o.mHwRevision ≠ 1) {muted : Bool}
    (heard : muted = false → early ∨ r ≠ a) : (o.mute writes muted).Shows early (!muted) r a true p := by
  have written : Shows early _ (!muted) r a true p :=
    shows.writeMain writes (.inl ⟨rfl, rfl⟩) (.inl rfl) (by simpa using heard)
  unfold Outputs.mute setMain
  rw [if_neg revision, shows.bus]
  simpa [MUTE] using written

theorem Shows.resetTuner (shows : o.Shows early u r a true p) : (o.resetTuner writes).Shows early u r a true p := by
  have falls : Shows early _ u r a false p := shows.writeMain writes (.inl ⟨rfl, rfl⟩) (.inl rfl) shows.heard
  have rises : Shows early _ u r a true p :=
    falls.writeMain writes (.inl ⟨rfl, rfl⟩) (.inr ⟨rfl, rfl, rfl, rfl, rfl⟩) shows.heard
  unfold Outputs.resetTuner setMain
  rw [shows.bus]
  simpa [RADIO_RST, Outputs.writeMain] using rises

theorem Shows.watchdogPulse (shows : o.Shows early u r a true p) :
    (o.watchdogPulse writes).Shows early u r a true true := by
  have falls : Shows early _ u r a true false := shows.writeMain writes (.inl ⟨rfl, rfl⟩) (.inl rfl) shows.heard
  have rises : Shows early _ u r a true true := falls.writeMain writes (.inl ⟨rfl, rfl⟩) (.inl rfl) shows.heard
  unfold Outputs.watchdogPulse setMain
  rw [shows.bus]
  simpa [WATCHDOG, Outputs.writeMain] using rises

/-- The audio is muted, both inputs are taken away, one is given back, and the audio is heard again. -/
theorem Shows.selectInput (shows : o.Shows early u r a true p) (revision : o.mHwRevision ≠ 1) (input : InputSelection) :
    (o.selectInput writes input).Shows early true (input = .Auxin) (input = .RadioIn) true p := by
  have silent {c : Prop} : false = true → c := fun absurdity => nomatch absurdity
  have muted : (o.mute writes true).Shows early false r a true p := shows.mute revision fun loud => nomatch loud
  have none : Shows early _ false true true true p := muted.writeMain writes (.inr ⟨rfl, rfl⟩) (.inl rfl) silent
  have one : Shows early _ false (input = .Auxin) (input = .RadioIn) true p :=
    none.writeMain writes (.inr ⟨rfl, rfl⟩) (.inl rfl) silent
  have apart : decide (input = .Auxin) ≠ decide (input = .RadioIn) := by cases input <;> decide
  have still : (o.mute writes true).mHwRevision ≠ 1 := by
    rw [(beside_mute writes o true).revision]
    exact revision
  have loud : Shows early (Outputs.mute writes _ false) true (input = .Auxin) (input = .RadioIn) true p :=
    one.mute still fun _ => Or.inr apart
  unfold Outputs.selectInput setMain
  rw [if_neg revision]
  cases input with
  | RadioIn => simpa [muted.bus, RADIO_IN, AUX_IN, Outputs.writeMain] using loud
  | Auxin => simpa [muted.bus, RADIO_IN, AUX_IN, Outputs.writeMain] using loud

/-! ### The relays -/

/-- What the statements of one call of `keyboardPressed` have done so far, where no other call comes between them. -/
def Relayed (o : Outputs) (w : Wanted) : Prop :=
  match o.pressing with
  | [] => o.mRelaisBus = w.relayLines ∧ (o.mIO.bytesTo GPIOA).getLast? = some ⟨o.mRelaisBus⟩
  | [.assign left] => left.foldl (fun bus (bit, value) => assign bus bit value) o.mRelaisBus = w.relayLines
  | [.send byte] => o.mRelaisBus = w.relayLines ∧ byte = ⟨o.mRelaisBus⟩
  | _ => False

theorem Relayed.beside {w w' : Wanted} {next : Outputs} (relayed : o.Relayed w) (beside : Beside o next)
    (relays : w'.relays = w.relays) : next.Relayed w' := by
  have lines : w'.relayLines = w.relayLines := by rw [Wanted.relayLines, Wanted.relayLines, relays]
  unfold Relayed at relayed ⊢
  rw [beside.pressing, beside.relais, beside.other GPIOA (by decide), lines]
  exact relayed

/-- No keyboard reports while another one does. -/
def OneAtATime (o : Outputs) : Outputs.Event → Prop
  | .keyboardPressed _ => o.pressing = []
  | _ => True

instance instDecidableOneAtATime (o : Outputs) : (event : Outputs.Event) → Decidable (o.OneAtATime event)
  | .keyboardPressed _ => inferInstanceAs (Decidable (_ = _))
  | .proceed _ | .mute _ | .resetTuner | .selectInput _ | .watchdogPulse => .isTrue trivial

theorem Relayed.proceed {w : Wanted} (relayed : o.Relayed w) (call : Nat) : (o.proceed writes call).Relayed w := by
  unfold Outputs.proceed
  unfold Relayed at relayed
  cases inside : o.pressing with
  | nil =>
    rw [inside] at relayed
    simpa [Relayed, inside] using relayed
  | cons first others =>
    rw [inside] at relayed
    cases others with
    | cons second rest => cases first <;> exact relayed.elim
    | nil =>
      cases call with
      | succ call => cases first <;> simpa [Relayed, inside] using relayed
      | zero =>
        cases first with
        | send byte =>
          obtain ⟨bus, sent⟩ := relayed
          simp [Relayed, bus, sent]
        | assign left =>
          cases left with
          | nil => exact ⟨relayed, rfl⟩
          | cons next left => exact relayed

theorem Relayed.keyboardPressed {w : Wanted} (relayed : o.Relayed w) (alone : o.pressing = []) (info : KeyboardInfo)
    {hwrevision : UInt8} (revision : o.mHwRevision = hwrevision) :
    (o.keyboardPressed info).Relayed (w.step hwrevision (.keyboardPressed info)) := by
  subst revision
  unfold Outputs.keyboardPressed Wanted.step
  dsimp only
  split
  · exact relayed
  · unfold Relayed at relayed ⊢
    rw [alone] at relayed
    simp [alone, relayed.1, Wanted.relayLines, RL_U17, RL_U16, RL_U15, RL_U14, KEY_REL1, KEY_REL2, KEY_REL3, KEY_REL4]

theorem Relayed.step {w : Wanted} {hwrevision : UInt8} (relayed : o.Relayed w) (revision : o.mHwRevision = hwrevision)
    {event : Outputs.Event} (alone : o.OneAtATime event) : (o.step writes event).Relayed (w.step hwrevision event) := by
  have kept {w' : Wanted} (same : w'.relays = w.relays) : (if hwrevision = 1 then w else w').relays = w.relays := by
    split
    · rfl
    · exact same
  cases event with
  | keyboardPressed info => exact relayed.keyboardPressed alone info revision
  | proceed call => exact relayed.proceed call
  | mute muted => exact relayed.beside (beside_mute writes o muted) (kept rfl)
  | resetTuner => exact relayed.beside (beside_resetTuner writes o) rfl
  | selectInput input => exact relayed.beside (beside_selectInput writes o input) (kept rfl)
  | watchdogPulse => exact relayed.beside (beside_watchdogPulse writes o) rfl

/-! ### Every run -/

/-- The bus of the second port is as the calls so far want it, and the port has been told. -/
structure Follows (early : Prop) (hwrevision : UInt8) (o : Outputs) (w : Wanted) : Prop where
  revision : o.mHwRevision = hwrevision
  main : o.Shows early (!w.muted) (w.input = some .Auxin) (w.input = some .RadioIn) true w.pulsed

/-- Both ports have been made outputs and are never made anything else. -/
structure Directed (o : Outputs) : Prop where
  first : o.mIO.bytesTo DIRA = [0, 0]
  second : o.mIO.bytesTo DIRB = [0, 0]

theorem directed_mainboardControl (hwrevision : UInt8) : Directed (mainboardControl writes hwrevision) := by
  constructor <;>
    simp [mainboardControl, Outputs.init, setMain, writeMain, writeRelais, IOExpander.writeA, IOExpander.writeB,
      IOExpander.init, IOExpander.directionA, IOExpander.directionB, IOExpander.direction, IOExpander.bytesTo_writeData,
      IOCON, DIRA, DIRB, GPPUA, GPPUB, GPIOA, GPIOB] <;> rfl

theorem Directed.beside {next : Outputs} (directed : Directed o) (beside : Beside o next) : Directed next :=
  ⟨(beside.other DIRA (by decide)).trans directed.first, (beside.other DIRB (by decide)).trans directed.second⟩

theorem Directed.step (directed : Directed o) (event : Outputs.Event) : Directed (o.step writes event) := by
  cases event with
  | keyboardPressed info =>
    show Directed (o.keyboardPressed info)
    unfold Outputs.keyboardPressed
    split
    · exact directed
    · exact ⟨directed.first, directed.second⟩
  | proceed call =>
    show Directed (o.proceed writes call)
    unfold Outputs.proceed
    split
    · exact ⟨directed.first, directed.second⟩
    · exact ⟨directed.first, directed.second⟩
    · exact ⟨(IOExpander.bytesTo_writeA (by decide)).trans directed.first,
        (IOExpander.bytesTo_writeA (by decide)).trans directed.second⟩
    · exact directed
  | mute muted => exact directed.beside (beside_mute writes o muted)
  | resetTuner => exact directed.beside (beside_resetTuner writes o)
  | selectInput input => exact directed.beside (beside_selectInput writes o input)
  | watchdogPulse => exact directed.beside (beside_watchdogPulse writes o)

theorem Follows.elsewhere {hwrevision : UInt8} {w : Wanted} {next : Outputs} (follows : Follows early hwrevision o w)
    (revision : next.mHwRevision = o.mHwRevision) (bus : next.mMainBus = o.mMainBus)
    (port : next.mIO.bytesTo GPIOB = o.mIO.bytesTo GPIOB) {relays : Fin 4 → Bool} :
    Follows early hwrevision next { w with relays } := by
  obtain ⟨last, chain, heard⟩ := follows.main.written
  refine ⟨revision.trans follows.revision, bus.trans follows.main.bus, ⟨?_, ?_, ?_⟩⟩
  · rw [port, bus]
    exact last
  · rw [port]
    exact chain
  · rw [port]
    exact heard

theorem outputs_mainboardControl (hwrevision : UInt8) :
    Follows early hwrevision (mainboardControl writes hwrevision) {} ∧ (mainboardControl writes hwrevision).Relayed {} := by
  have low : (0 : BitVec 8) = lines false false false false false := by decide
  have silent (reg : UInt8) (port : reg = GPIOA ∨ reg = GPIOB) :
      (((({} : IOExpander).init writes).directionA writes .dirOut).directionB writes .dirOut).bytesTo reg = [] := by
    unfold IOExpander.directionA IOExpander.directionB
    have apart : (DIRA ≠ reg ∧ GPPUA ≠ reg) ∧ (DIRB ≠ reg ∧ GPPUB ≠ reg) := by
      rcases port with rfl | rfl
      · decide
      · decide
    rw [IOExpander.bytesTo_direction _ apart.2, IOExpander.bytesTo_direction _ apart.1, IOExpander.bytesTo_init port]
    rfl
  have bus : (mainboardControl writes hwrevision).mMainBus = lines false false false true false := by
    simp [mainboardControl, Outputs.init, setMain, writeMain, writeRelais, MUTE, RADIO_IN, AUX_IN, RADIO_RST, low]
  have main : IOExpander.bytesTo ( mIO (mainboardControl writes hwrevision)) GPIOB = [⟨lines false false false true false⟩] := by
    simp [mainboardControl, Outputs.init, setMain, writeMain, writeRelais, MUTE, RADIO_IN, AUX_IN, RADIO_RST, low,
      silent GPIOB (.inr rfl)]
  have relais : IOExpander.bytesTo ( mIO (mainboardControl writes hwrevision)) GPIOA = [⟨lines false false false false false⟩] := by
    simp [mainboardControl, Outputs.init, setMain, writeMain, writeRelais, low, silent GPIOA (.inl rfl)]
  refine ⟨⟨rfl, bus, ?_, ?_, ?_⟩, low, ?_⟩
  · rw [main, bus]
    rfl
  · rw [main]
    exact List.IsChain.singleton _
  · rw [main]
    intro byte only loud
    rw [List.mem_singleton.mp only] at loud
    exact absurd loud (by decide)
  · rw [relais]
    exact congrArg some (congrArg UInt8.ofBitVec low.symm)

/-- A call that unmutes the audio comes after an input is selected, or is one that does nothing. -/
def Careful (hwrevision : UInt8) (w : Wanted) (event : Outputs.Event) : Prop :=
  event.unmutes = true → hwrevision = 1 ∨ w.input.isSome = true

instance instDecidableCareful (hwrevision : UInt8) (w : Wanted) (event : Outputs.Event) :
    Decidable (Careful hwrevision w event) := inferInstanceAs (Decidable (_ → _))

theorem step_follows {hwrevision : UInt8} {w : Wanted} (follows : Follows early hwrevision o w) {event : Outputs.Event}
    (careful : early ∨ Careful hwrevision w event) :
    Follows early hwrevision (o.step writes event) (w.step hwrevision event) := by
  have revision := follows.revision
  cases event with
  | keyboardPressed info =>
    show Follows early hwrevision (o.keyboardPressed info) (if hwrevision = 1 then w else _)
    unfold Outputs.keyboardPressed
    by_cases first : hwrevision = 1
    · rw [if_pos (revision.trans first), if_pos first]
      exact follows
    · rw [if_neg fun one => first (revision.symm.trans one), if_neg first]
      refine follows.elsewhere ?_ ?_ ?_ <;> rfl
  | proceed call =>
    show Follows early hwrevision (o.proceed writes call) { w with relays := w.relays }
    unfold Outputs.proceed
    split
    · refine follows.elsewhere ?_ ?_ ?_ <;> rfl
    · refine follows.elsewhere ?_ ?_ ?_ <;> rfl
    · refine follows.elsewhere ?_ ?_ IOExpander.bytesTo_writeA_B <;> rfl
    · exact follows
  | mute muted =>
    show Follows early hwrevision (o.mute writes muted) (if hwrevision = 1 then w else _)
    by_cases first : hwrevision = 1
    · rw [Outputs.mute, if_pos (revision.trans first), if_pos first]
      exact follows
    · rw [if_neg first]
      have other : o.mHwRevision ≠ 1 := fun one => first (revision.symm.trans one)
      have heard : muted = false → early ∨ decide (w.input = some .Auxin) ≠ decide (w.input = some .RadioIn) := by
        rintro rfl
        rcases careful with soon | late
        · exact Or.inl soon
        · obtain ⟨input, selected⟩ := Option.isSome_iff_exists.mp ((late rfl).resolve_left first)
          refine Or.inr ?_
          rw [selected]
          cases input <;> decide
      exact ⟨(beside_mute writes o muted).revision.trans revision, follows.main.mute other heard⟩
  | resetTuner => exact ⟨revision, follows.main.resetTuner⟩
  | selectInput input =>
    show Follows early hwrevision (o.selectInput writes input) (if hwrevision = 1 then w else _)
    by_cases first : hwrevision = 1
    · rw [Outputs.selectInput, if_pos (revision.trans first), if_pos first]
      exact follows
    · rw [if_neg first]
      have other : o.mHwRevision ≠ 1 := fun one => first (revision.symm.trans one)
      have main : (o.selectInput writes input).Shows early _ _ _ _ _ := follows.main.selectInput other input
      refine ⟨(beside_selectInput writes o input).revision.trans revision, ?_⟩
      simpa using main
  | watchdogPulse => exact ⟨revision, follows.main.watchdogPulse⟩

theorem run_follows (hwrevision : UInt8) (events : List Outputs.Event)
    (careful : early ∨ Meets (Wanted.step hwrevision) (Careful hwrevision) {} events) :
    Follows early hwrevision (run (step writes) (mainboardControl writes hwrevision) events)
      (run (Wanted.step hwrevision) {} events) := by
  induction events using List.reverseRecOn with
  | nil => exact (outputs_mainboardControl hwrevision).1
  | append_singleton events event ih =>
    rw [meets_concat] at careful
    rw [run_concat, run_concat]
    exact step_follows (ih (careful.imp_right And.left)) (careful.imp_right And.right)

theorem run_relayed (hwrevision : UInt8) (events : List Outputs.Event)
    (alone : Meets (step writes) OneAtATime (mainboardControl writes hwrevision) events) :
    (run (step writes) (mainboardControl writes hwrevision) events).Relayed (run (Wanted.step hwrevision) {} events) := by
  induction events using List.reverseRecOn with
  | nil => exact (@outputs_mainboardControl writes True hwrevision).2
  | append_singleton events event ih =>
    rw [meets_concat] at alone
    rw [run_concat, run_concat]
    exact (ih alone.1).step (@run_follows writes True hwrevision events (Or.inl trivial)).revision alone.2

theorem run_directed (hwrevision : UInt8) (events : List Outputs.Event) :
    Directed (run (step writes) (mainboardControl writes hwrevision) events) := by
  have keep : ∀ (o : Outputs) (event : Outputs.Event), Directed o → Directed (o.step writes event) :=
    fun _ event directed => directed.step event
  exact run_invariant keep (directed_mainboardControl hwrevision)

theorem Directed.pins_eq (directed : Directed o) (before : UInt8 → UInt8) (outside : UInt8) :
    (o.mIO.reached DIRB = true → o.mIO.pins before outside DIRB GPIOB = o.mIO.port before GPIOB) ∧
      (o.mIO.reached DIRA = true → o.mIO.pins before outside DIRA GPIOA = o.mIO.port before GPIOA) := by
  constructor
  · refine IOExpander.pins_output ?_
    rw [directed.second]
    simp
  · refine IOExpander.pins_output ?_
    rw [directed.first]
    simp

end

/-- Whatever writes are lost, and whatever pulses of the watchdog and resets of the tuner come in between: where a port has
been made an output and the last byte for it has arrived, its lines are what the calls want. On the second port that is
muted or not, and the input that was selected last, in every interleaving; on the first port the relays as the keys were
when last reported, where no keyboard reports while another one does, and between two reports. -/
theorem ports_show_wanted (writes : Nat → Bool) (hwrevision : UInt8) (before : UInt8 → UInt8) (outside : UInt8)
    (events : List Outputs.Event) :
    let o := run (step writes) (mainboardControl writes hwrevision) events
    let w := run (Wanted.step hwrevision) {} events
    (o.mIO.reached DIRB = true → o.mIO.lastArrived GPIOB = true → o.mIO.pins before outside DIRB GPIOB = ⟨w.mainLines⟩) ∧
      (Meets (step writes) OneAtATime (mainboardControl writes hwrevision) events → o.pressing = [] →
        o.mIO.reached DIRA = true → o.mIO.lastArrived GPIOA = true → o.mIO.pins before outside DIRA GPIOA = ⟨w.relayLines⟩) := by
  intro o w
  have follows : Follows True hwrevision o w := run_follows hwrevision events (Or.inl trivial)
  obtain ⟨second, first⟩ := (@run_directed writes hwrevision events).pins_eq before outside
  constructor
  · intro directed arrived
    rw [second directed, IOExpander.port_last follows.main.written.last arrived, follows.main.bus]
    rfl
  · intro alone ended directed arrived
    have relayed := run_relayed hwrevision events alone
    unfold Relayed at relayed
    rw [ended] at relayed
    rw [first directed, IOExpander.port_last relayed.2 arrived, relayed.1]

/-- Of the first thirteen writes every other one is lost, then the bus comes back. -/
theorem ports_show_wanted_late :
    let writes := fun n => n % 2 == 1 || decide (13 ≤ n)
    let o := run (step writes) (mainboardControl writes 2) [.selectInput .Auxin, .watchdogPulse]
    o.mIO.pins (fun _ => 0xFF) 0 DIRB GPIOB = 0b00011011 :=
  (ports_show_wanted (fun n => n % 2 == 1 || decide (13 ≤ n)) 2 (fun _ => 0xFF) 0 [.selectInput .Auxin, .watchdogPulse]).1
    (by decide) (by decide)

/-- Two keyboards report, the second one while the first has not written its byte: the relays show neither of the reports. -/
example :
    let keys (pressed : Key → Bool) : KeyboardInfo := ⟨fun key => { mPressed := pressed key }, .stNormal⟩
    let steps (call n : Nat) : List Outputs.Event := List.replicate n (.proceed call)
    let o := run (step fun _ => true) (mainboardControl (fun _ => true) 2)
      ([.keyboardPressed (keys (· = KEY_REL1))] ++ steps 0 2 ++ [.keyboardPressed (keys (· = KEY_REL4))] ++ steps 1 4 ++
        steps 0 2 ++ steps 1 2 ++ steps 0 2)
    o.pressing = [] ∧ o.mIO.port (fun _ => 0) GPIOA = 0 := by
  decide

/-- Every byte that follows another on the second port changes the inputs only under mute, and a reset of the tuner
is over with the next byte, in every interleaving of the calls. -/
theorem port_bytes_adjacent (writes : Nat → Bool) (hwrevision : UInt8) (events : List Outputs.Event) :
    let o := run (step writes) (mainboardControl writes hwrevision) events
    (o.mIO.bytesTo GPIOB).IsChain Adjacent :=
  (@run_follows writes True hwrevision events (Or.inl trivial)).main.written.chain

/-- Whatever writes are lost, once the expander has taken a byte for its second port the audio is muted or exactly one
input is heard, if nothing unmutes the audio before an input is selected; and the lines of the port are that byte once its
direction has arrived. -/
theorem port_one_input (writes : Nat → Bool) (hwrevision : UInt8) (before : UInt8 → UInt8) (events : List Outputs.Event)
    (careful : Meets (Wanted.step hwrevision) (Careful hwrevision) {} events) :
    let o := run (step writes) (mainboardControl writes hwrevision) events
    let byte := o.mIO.port before GPIOB
    (byte = before GPIOB ∨ (unmuted byte = true → oneInput byte)) ∧
      (o.mIO.reached DIRB = true → ∀ outside, o.mIO.pins before outside DIRB GPIOB = byte) := by
  intro o byte
  have follows : Follows False hwrevision o _ := run_follows hwrevision events (Or.inr careful)
  have directed : Directed o := run_directed hwrevision events
  refine ⟨?_, fun arrived outside => (directed.pins_eq before outside).1 arrived⟩
  rcases IOExpander.port_written o.mIO before GPIOB with untouched | written
  · exact Or.inl untouched
  · exact Or.inr fun loud => (follows.main.written.heard _ written loud).resolve_left id

theorem port_one_input_of_radio :
    let events : List Outputs.Event := [.selectInput .RadioIn, .resetTuner, .mute true, .watchdogPulse, .mute false]
    let o := run (step fun n => n % 3 != 0) (mainboardControl (fun n => n % 3 != 0) 2) events
    let byte := o.mIO.port (fun _ => 0) GPIOB
    byte = 0 ∨ (unmuted byte = true → oneInput byte) :=
  (port_one_input _ 2 _ [.selectInput .RadioIn, .resetTuner, .mute true, .watchdogPulse, .mute false] (by decide)).1

end Outputs

end RgbClock.Mainboard
