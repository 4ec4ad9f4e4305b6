import RgbClock.House.Editing

/-! What a unit leaves behind when it is destroyed. -/

open RgbClock.Keys RgbClock.Alarms RgbClock.Devices RgbClock.Units Slots Runs

namespace RgbClock

/-! ### The displays at the receiver -/

theorem mem_registerFMReceiver (r : Radio) (dab : DABReceiver) (display : DisplayId) :
    display ∈ (r.registerFMReceiver dab).mRadioObservers ↔
      display ∈ r.mRadioObservers ∨ display ∈ dab.mRadioObservers := by
  unfold Radio.registerFMReceiver
  induction r.mRadioObservers generalizing dab with
  | nil => simp
  | cons first rest ih =>
    rw [List.foldl_cons, ih, DABReceiver.registerRadioObserver, List.mem_insert_iff, List.mem_cons]
    tauto

theorem mem_unRegisterFMReceiver (r : Radio) (dab : DABReceiver) (display : DisplayId) :
    display ∈ (r.unRegisterFMReceiver dab).mRadioObservers ↔
      display ∉ r.mRadioObservers ∧ display ∈ dab.mRadioObservers := by
  unfold Radio.unRegisterFMReceiver
  induction r.mRadioObservers generalizing dab with
  | nil => simp
  | cons first rest ih =>
    rw [List.foldl_cons, ih, DABReceiver.unRegisterRadioObserver, List.mem_filter, List.mem_cons,
      decide_eq_true_eq]
    tauto

section
variable {r r' : Radio} {dab dab' : DABReceiver}

/-- A radio that is turned on brings its displays to the receiver, and one more power reference. -/
theorem turnedOn_receiver (on : TurnedOn r r' dab dab') :
    (∀ display, display ∈ dab'.mRadioObservers ↔ display ∈ r.mRadioObservers ∨ display ∈ dab.mRadioObservers) ∧
      dab'.mPowerCounter = dab.mPowerCounter + 1 := by
  rw [on.receiver]
  exact ⟨mem_registerFMReceiver r dab, congrArg (· + 1) (registerFMReceiver_samePower r dab).1⟩

theorem turnedOff_receiver (off : TurnedOff r r' dab dab') :
    (∀ display, display ∈ dab'.mRadioObservers ↔ display ∉ r.mRadioObservers ∧ display ∈ dab.mRadioObservers) ∧
      dab'.mPowerCounter = dab.mPowerCounter - 1 := by
  rw [off.receiver]
  exact ⟨mem_unRegisterFMReceiver r dab.powerOff, (unRegisterFMReceiver_samePower r dab.powerOff).1⟩

end

def refs (units : List AlarmClock) : Int := (units.map fun c => c.mRadio.powerRefs).sum

theorem refs_eraseIdx {units : List AlarmClock} {k : Nat} {c : AlarmClock} (found : units[k]? = some c) :
    refs units = refs (units.eraseIdx k) + c.mRadio.powerRefs := by
  induction units generalizing k with
  | nil => cases found
  | cons first rest ih =>
    cases k with
    | zero =>
      obtain rfl := Option.some.inj found
      simp only [refs, List.map_cons, List.sum_cons, List.eraseIdx_zero, List.tail_cons]
      omega
    | succ k =>
      have later := ih found
      simp only [refs, List.map_cons, List.sum_cons, List.eraseIdx_cons_succ] at later ⊢
      omega

theorem refs_set {units : List AlarmClock} {k : Nat} {c : AlarmClock} (found : units[k]? = some c) (c' : AlarmClock) :
    refs (units.set k c') = refs units - c.mRadio.powerRefs + c'.mRadio.powerRefs := by
  have inside := (List.getElem?_eq_some_iff.mp found).1
  rw [refs_eraseIdx found, refs_eraseIdx (List.getElem?_set_self inside), List.eraseIdx_set_eq]
  omega

structure Connected (k : Nat) (c : AlarmClock) (dab : DABReceiver) : Prop where
  id : c.id = k
  observers : c.mRadio.mRadioObservers = if c.alive then [k] else []
  shown : c.alive = true → (k ∈ dab.mRadioObservers ↔ c.mRadio.mState = .PwrOn)
  thread : c.mAlarmMaintenanceThreadRunning = true ↔ c.mClockState ≠ .clkNormal

structure Wired (h : Home) : Prop where
  connected : ∀ (k : Nat) (c : AlarmClock), h.units[k]? = some c → Connected k c h.mDabReceiver
  unknown : ∀ k, h.units.length ≤ k → k ∉ h.mDabReceiver.mRadioObservers
  counted : h.mDabReceiver.mPowerCounter = refs h.units

/-- A handler moves at most its own display in or out of the receiver. -/
theorem handle_dab {k : Nat} {c : AlarmClock} {dab : DABReceiver} (connected : Connected k c dab) (handler : Handler) :
    (∀ j, j ≠ k → (j ∈ (c.handle dab handler).2.mRadioObservers ↔ j ∈ dab.mRadioObservers)) ∧
    (c.alive = true →
      (k ∈ (c.handle dab handler).2.mRadioObservers ↔ (c.handle dab handler).1.mRadio.mState = .PwrOn)) ∧
    (c.handle dab handler).1.mRadio.mRadioObservers = c.mRadio.mRadioObservers ∧
    (c.handle dab handler).2.mPowerCounter - dab.mPowerCounter =
      (c.handle dab handler).1.mRadio.powerRefs - c.mRadio.powerRefs := by
  have mine : ∀ j, j ∈ c.mRadio.mRadioObservers → j = k := by
    intro j member
    rw [connected.observers] at member
    split at member
    · exact List.mem_singleton.mp member
    · cases member
  have shows : c.alive = true → k ∈ c.mRadio.mRadioObservers := by
    intro alive
    simp [connected.observers, alive]
  rcases c.handle_radio dab handler with ⟨-, on⟩ | ⟨-, off⟩ | ⟨-, -, kept⟩
  · obtain ⟨members, counter⟩ := turnedOn_receiver on
    refine ⟨fun j other => ?_, fun alive => ?_, on.observers, ?_⟩
    · rw [members]
      exact or_iff_right fun member => other (mine j member)
    · exact iff_of_true ((members k).mpr (Or.inl (shows alive))) on.state
    · rw [counter, on.refs]
      omega
  · obtain ⟨members, counter⟩ := turnedOff_receiver off
    refine ⟨fun j other => ?_, fun alive => ?_, off.observers, ?_⟩
    · rw [members]
      exact and_iff_right fun member => other (mine j member)
    · rw [members, off.state]
      exact iff_of_false (fun member => member.1 (shows alive)) (by decide)
    · rw [counter, off.refs]
      omega
  · rw [kept.receiver, kept.state, kept.refs]
    exact ⟨fun _ _ => Iff.rfl, connected.shown, kept.observers, by omega⟩

theorem alarmMaintenanceThread_thread {c : AlarmClock} (running : c.mAlarmMaintenanceThreadRunning = true)
    (busy : c.mClockState ≠ .clkNormal) (dab : DABReceiver) :
    (c.alarmMaintenanceThread dab).1.mAlarmMaintenanceThreadRunning = true ↔
      (c.alarmMaintenanceThread dab).1.mClockState ≠ .clkNormal := by
  unfold AlarmClock.alarmMaintenanceThread
  cases state : c.mClockState with
  | clkNormal => exact absurd state busy
  | clkAlarm =>
    simp only [reduceCtorEq, and_false, if_false]
    split
    · simp [AlarmClock.endAlarm]
    · simp [running]
  | clkSnooze =>
    cases off : c.mAlarmOff with
    | true =>
      simp only [and_self, if_true, or_true]
      simp [AlarmClock.endAlarm]
    | false =>
      simp only [Bool.false_eq_true, false_and, if_false]
      split
      · simp [AlarmClock.startAlarm, running]
      · simp [running]

theorem handle_thread {c : AlarmClock} (dab : DABReceiver) (handler : Handler)
    (thread : c.mAlarmMaintenanceThreadRunning = true ↔ c.mClockState ≠ .clkNormal) :
    (c.handle dab handler).1.mAlarmMaintenanceThreadRunning = true ↔
      (c.handle dab handler).1.mClockState ≠ .clkNormal := by
  cases handler with
  | alarmNotify volume smooth =>
    rw [AlarmClock.handle, AlarmClock.alarmNotify_eq]
    simp [AlarmClock.startAlarm]
  | alarmSnooze =>
    simp only [AlarmClock.handle, AlarmClock.alarmSnooze]
    split
    · rename_i ringing
      have running := thread.mpr (by rw [ringing]; decide)
      simp [running]
    · exact thread
  | maintenance =>
    simp only [AlarmClock.handle, AlarmClock.tick]
    split
    · rename_i running
      exact alarmMaintenanceThread_thread running (thread.mp running) dab
    · exact thread
  | alarmOff | radioKeys | radioAutoOff | radioDimmer | lightKeys | lightAutoOff | lightDimmer => exact thread

theorem Connected.handle {k : Nat} {c : AlarmClock} {dab : DABReceiver} (connected : Connected k c dab)
    (handler : Handler) : Connected k (c.handle dab handler).1 (c.handle dab handler).2 := by
  have same := handle_sameDesk c dab handler
  obtain ⟨-, shown, observers, -⟩ := handle_dab connected handler
  refine ⟨same.id.trans connected.id, ?_, fun alive => shown (same.alive ▸ alive), ?_⟩
  · rw [observers, connected.observers, same.alive]
  · exact handle_thread dab handler connected.thread

theorem Connected.other {k : Nat} {c : AlarmClock} {dab dab' : DABReceiver} (connected : Connected k c dab)
    (same : k ∈ dab'.mRadioObservers ↔ k ∈ dab.mRadioObservers) : Connected k c dab' :=
  ⟨connected.id, connected.observers, fun alive => same.trans (connected.shown alive), connected.thread⟩

/-- The observer is taken from the radio before the radio is turned off, so it stays at the receiver. -/
theorem destroy_radio {k : Nat} {c : AlarmClock} {dab : DABReceiver} (connected : Connected k c dab)
    (alive : c.alive = true) (m : AlarmManager) :
    (c.destroy m dab).1.mRadio.mRadioObservers = [] ∧
    (c.destroy m dab).2.2.mRadioObservers = dab.mRadioObservers ∧
    (c.destroy m dab).1.mRadio.powerRefs = c.mRadio.powerRefs - (if c.mRadio.mState = .PwrOn then 1 else 0) ∧
    (c.destroy m dab).2.2.mPowerCounter = dab.mPowerCounter - (if c.mRadio.mState = .PwrOn then 1 else 0) := by
  have observers := connected.observers
  rw [alive, if_pos rfl] at observers
  unfold AlarmClock.destroy Radio.destroy
  cases state : c.mRadio.mState <;>
    simp [Radio.unRegisterRadioObserver, Radio.pwrOff, Radio.unRegisterFMReceiver, DABReceiver.powerOff, observers,
      connected.id, state]

namespace Wired
variable {h : Home}

theorem set (wired : Wired h) {k : Nat} {c c' : AlarmClock} {dab : DABReceiver} (found : h.units[k]? = some c)
    (connected : Connected k c' dab)
    (others : ∀ j, j ≠ k → (j ∈ dab.mRadioObservers ↔ j ∈ h.mDabReceiver.mRadioObservers))
    (counter : dab.mPowerCounter - h.mDabReceiver.mPowerCounter = c'.mRadio.powerRefs - c.mRadio.powerRefs) :
    Wired { units := h.units.set k c', mDabReceiver := dab } where
  connected j d present := by
    rcases set_cases present with ⟨rfl, rfl⟩ | ⟨other, before⟩
    · exact connected
    · exact (wired.connected j d before).other (others j other)
  unknown j outside := by
    have inside := (List.getElem?_eq_some_iff.mp found).1
    rw [List.length_set] at outside
    have other : j ≠ k := by omega
    intro member
    exact wired.unknown j outside ((others j other).mp member)
  counted := by
    have before := wired.counted
    have after := refs_set found c'
    dsimp only
    omega

theorem handle (wired : Wired h) (step : Step) : Wired (h.handle step) := by
  unfold Home.handle
  cases found : h.units[step.unit]? with
  | none => exact wired
  | some c =>
    have connected := wired.connected step.unit c found
    obtain ⟨others, -, -, counter⟩ := handle_dab connected step.handler
    exact wired.set found (connected.handle step.handler) others counter

theorem handles (wired : Wired h) (steps : List Step) : Wired (steps.foldl Home.handle h) := by
  induction steps generalizing h with
  | nil => exact wired
  | cons step rest ih => exact ih (wired.handle step)

structure Aside (c c' : AlarmClock) : Prop where
  id : c'.id = c.id
  alive : c'.alive = c.alive
  radio : c'.mRadio = c.mRadio
  state : c'.mClockState = c.mClockState
  thread : c'.mAlarmMaintenanceThreadRunning = c.mAlarmMaintenanceThreadRunning

theorem aside (wired : Wired h) {k : Nat} {c c' : AlarmClock} (found : h.units[k]? = some c) (aside : Aside c c') :
    Wired { h with units := h.units.set k c' } := by
  obtain ⟨id, alive, radio, state, thread⟩ := aside
  have connected := wired.connected k c found
  refine wired.set found ⟨id.trans connected.id, ?_, ?_, ?_⟩ (fun _ _ => Iff.rfl) (by rw [radio]; omega)
  · rw [radio, alive]
    exact connected.observers
  · rw [radio, alive]
    exact connected.shown
  · rw [thread, state]
    exact connected.thread

theorem concat (wired : Wired h) (unitName : String) :
    Wired { h with units := h.units ++ [.create h.units.length unitName] } where
  connected k c found := by
    rcases concat_cases found with before | ⟨rfl, rfl⟩
    · exact wired.connected k c before
    · have absent := wired.unknown h.units.length le_rfl
      have off : (AlarmClock.create h.units.length unitName).mRadio.mState ≠ .PwrOn := nofun
      exact ⟨rfl, rfl, fun _ => iff_of_false absent off, iff_of_false nofun fun busy => busy rfl⟩
  unknown k outside := wired.unknown k (by simp at outside; omega)
  counted := by
    rw [wired.counted]
    simp [refs, AlarmClock.create, Radio.registerRadioObserver]

variable {h : House}

theorem onDesk (wired : Wired h.toHome) (k : Nat) (step : Desk → Desk) : Wired (h.onDesk k step).toHome := by
  unfold House.onDesk
  cases live : h.live k with
  | none => exact wired
  | some c => exact wired.aside (House.live_eq_some.mp live).1 ⟨rfl, rfl, rfl, rfl, rfl⟩

theorem changeUnit (wired : Wired h.toHome) (k : Nat) {change : AlarmClock → AlarmClock} (same : ∀ c, Aside c (change c)) :
    Wired (h.changeUnit k change).toHome := by
  unfold House.changeUnit
  cases live : h.live k with
  | none => exact wired
  | some c => exact wired.aside (House.live_eq_some.mp live).1 (same c)

theorem detach (wired : Wired h.toHome) (k : Nat) : Wired (h.detach k).toHome := by
  unfold House.detach
  cases live : h.live k with
  | none => exact wired
  | some c =>
    obtain ⟨found, alive⟩ := House.live_eq_some.mp live
    have connected := wired.connected k c found
    obtain ⟨observers, receiver, held, counter⟩ := destroy_radio connected alive h.mAlarmManager
    have dead : (c.destroy h.mAlarmManager h.mDabReceiver).1.alive ≠ true := Bool.false_ne_true
    refine wired.set found ⟨connected.id, observers, fun still => absurd still dead, connected.thread⟩
      (fun j _ => ?_) ?_
    · rw [receiver]
    · rw [counter, held]
      omega

theorem step (wired : Wired h.toHome) (e : Event) : Wired (h.step e).toHome := by
  cases e with
  | attach unitName place =>
    simp only [House.step, House.attach]
    split
    · exact wired
    · exact wired.concat unitName
  | detach k => exact wired.detach k
  | registerLight k l => exact wired.changeUnit k fun _ => ⟨rfl, rfl, rfl, rfl, rfl⟩
  | unRegisterLight k => exact wired.changeUnit k fun _ => ⟨rfl, rfl, rfl, rfl, rfl⟩
  | clockKeys k info =>
    simp only [House.step, House.clockKeys]
    split <;> exact wired
  | displayKeys k info => exact wired.onDesk k _
  | refresh k => exact wired.onDesk k _
  | own step =>
    simp only [House.step, House.own]
    split
    · split
      · exact wired.handle step
      · exact wired
    · exact wired
  | iterate reads => exact wired.handles _

end Wired

/-! ### The editor of a unit that is there -/

/-- A unit with a name whose display shows the editor is the editor. -/
structure Holding (h : House) : Prop where
  distinct : ∀ (j k : Nat) (c d : AlarmClock), h.live j = some c → h.live k = some d → c.name = d.name → j = k
  held : ∀ (k : Nat) (c : AlarmClock), h.live k = some c → c.name ≠ "" →
    c.mDisplay.mDisplayState = .stEditAlarms → h.mAlarmManager.mCurrentEditor = c.name

namespace Holding
variable {h h' : House}

theorem aside (holding : Holding h) (units : Each SameDesk h.units h'.units)
    (editor : h'.mAlarmManager.mCurrentEditor = h.mAlarmManager.mCurrentEditor) : Holding h' := by
  have entry : ∀ (k : Nat) (c' : AlarmClock), h'.live k = some c' → ∃ c, h.live k = some c ∧ SameDesk c c' := by
    intro k c' live
    obtain ⟨found, alive⟩ := House.live_eq_some.mp live
    obtain ⟨c, before, same⟩ := units.back found
    exact ⟨c, House.live_eq_some.mpr ⟨before, same.alive.symm.trans alive⟩, same⟩
  constructor
  · intro j k c' d' liveJ liveK names
    obtain ⟨c, beforeJ, sameC⟩ := entry j c' liveJ
    obtain ⟨d, beforeK, sameD⟩ := entry k d' liveK
    exact holding.distinct j k c d beforeJ beforeK (sameC.name.symm.trans (names.trans sameD.name))
  · intro k c' live nonempty editing
    obtain ⟨c, before, same⟩ := entry k c' live
    rw [same.name] at nonempty ⊢
    rw [editor]
    exact holding.held k c before nonempty (same.state.symm.trans editing)

theorem moved (holding : Holding h) {k : Nat} {c c' : AlarmClock} (live : h.live k = some c)
    (units : h'.units = h.units.set k c') (name : c'.name = c.name) (moved : Moved h h' c c') : Holding h' := by
  have entry : ∀ (j : Nat) (d : AlarmClock), h'.live j = some d → j = k ∧ d = c' ∨ j ≠ k ∧ h.live j = some d := by
    intro j d present
    obtain ⟨found, alive⟩ := House.live_eq_some.mp present
    rw [units] at found
    rcases set_cases found with mine | ⟨other, old⟩
    · exact Or.inl mine
    · exact Or.inr ⟨other, House.live_eq_some.mpr ⟨old, alive⟩⟩
  constructor
  · intro i j d d' liveI liveJ names
    rcases entry i d liveI with ⟨rfl, rfl⟩ | ⟨-, oldI⟩ <;> rcases entry j d' liveJ with ⟨rfl, rfl⟩ | ⟨-, oldJ⟩
    · rfl
    · exact holding.distinct i j c d' live oldJ (name.symm.trans names)
    · exact holding.distinct i j d c oldI live (names.trans name)
    · exact holding.distinct i j d d' oldI oldJ names
  · intro j d present nonempty editing
    rcases entry j d present with ⟨rfl, rfl⟩ | ⟨other, old⟩
    · rw [name] at nonempty ⊢
      cases moved with
      | idle same editor =>
        rw [editor]
        exact holding.held j c live nonempty (same.mp editing)
      | edits _ _ editor => exact editor
      | closes _ closed _ => exact absurd editing closed
      | leaves _ closed _ => exact absurd editing closed
    · -- the other unit holds the editor, so this one neither edits nor closes it
      have theirs := holding.held j d old nonempty editing
      have taken : ¬ (h.mAlarmManager.mCurrentEditor = "" ∨ h.mAlarmManager.mCurrentEditor = c.name) := by
        intro given
        obtain empty | mine := given
        · exact nonempty (theirs.symm.trans empty)
        · exact other (holding.distinct j k d c old live (theirs.symm.trans mine))
      cases moved with
      | idle _ editor => exact editor.trans theirs
      | leaves _ _ editor => exact editor.trans theirs
      | edits free _ _ => exact absurd free taken
      | closes free _ _ => exact absurd free taken

theorem attached (holding : Holding h) {unitName : String} (unknown : h.named unitName = false)
    (units : h'.units = h.units ++ [.create h.units.length unitName])
    (editor : h'.mAlarmManager.mCurrentEditor = h.mAlarmManager.mCurrentEditor) : Holding h' := by
  have entry : ∀ (k : Nat) (c : AlarmClock), h'.live k = some c →
      h.live k = some c ∨ k = h.units.length ∧ c = .create h.units.length unitName := by
    intro k c live
    obtain ⟨found, alive⟩ := House.live_eq_some.mp live
    rw [units] at found
    exact (concat_cases found).imp_left fun old => House.live_eq_some.mpr ⟨old, alive⟩
  constructor
  · intro i j c d liveI liveJ names
    rcases entry i c liveI with oldI | ⟨rfl, rfl⟩ <;> rcases entry j d liveJ with oldJ | ⟨rfl, rfl⟩
    · exact holding.distinct i j c d oldI oldJ names
    · exact absurd names (House.name_ne_of_unknown unknown oldI)
    · exact absurd names.symm (House.name_ne_of_unknown unknown oldJ)
    · rfl
  · intro k c live nonempty editing
    rcases entry k c live with old | ⟨rfl, rfl⟩
    · rw [editor]
      exact holding.held k c old nonempty editing
    · cases editing

theorem step (holding : Holding h) (e : Event) : Holding (h.step e) := by
  cases h.step_displays e with
  | aside units editor => exact holding.aside units editor
  | attached _ _ _ unknown units editor => exact holding.attached unknown units editor
  | moved _ _ _ live units name _ moved => exact holding.moved live units name moved

end Holding

/-! ### Destroying a unit -/

structure NoResidue (h : House) (k : Nat) (unitName : String) : Prop where
  editor : h.mAlarmManager.mCurrentEditor ≠ unitName
  /-- No thread of the unit can take a step. -/
  thread : ∀ step : Step, step.unit = k → h.own step = h
  /-- The receiver counts the references of the other units only. -/
  power : h.mDabReceiver.mPowerCounter = refs (h.units.eraseIdx k)
  receiver : k ∉ h.mDabReceiver.mRadioObservers
  keyboard : ∀ c : AlarmClock, h.units[k]? = some c → .display ∉ c.mKeyboard.mKeyboardObservers
  alarms : ∀ observer ∈ h.mAlarmManager.mAlarmObservers.inOrder, observer.id ≠ k

/-- The unit is idle: no alarm, radio off and its switching balanced, and it is not the editor or
the last pass of its refresh thread ends the editing. -/
structure Idle (m : AlarmManager) (c : AlarmClock) : Prop where
  editor : m.mCurrentEditor ≠ c.name ∨
    c.name ≠ "" ∧ c.mDisplay.mDisplayState = .stEditAlarms ∧ c.mDisplay.mEditAlarmsTimer ≤ THREAD_INTERVAL_MS
  alarm : c.mClockState = .clkNormal
  radio : c.mRadio.mState = .PwrOff
  balanced : c.mRadio.powerRefs = 0

theorem tick_ne {c : AlarmClock} (running : c.mAlarmMaintenanceThreadRunning = true) (dab : DABReceiver) :
    (c.tick dab).1 ≠ c := by
  intro same
  have counters := congrArg AlarmClock.mAlarmCounter same
  have states := congrArg AlarmClock.mClockState same
  simp only [AlarmClock.tick, running, if_true, AlarmClock.alarmMaintenanceThread] at counters states
  cases state : c.mClockState with
  | clkNormal => simp [state] at counters
  | clkAlarm =>
    simp only [state, reduceCtorEq, and_false, if_false] at counters states
    split at counters <;> simp [AlarmClock.endAlarm] at counters
  | clkSnooze =>
    cases off : c.mAlarmOff with
    | true => simp [state, off, AlarmClock.endAlarm] at states
    | false =>
      simp only [state, off, Bool.false_eq_true, false_and, if_false] at counters states
      split at states
      · simp [AlarmClock.startAlarm] at states
      · rename_i waiting
        simp [waiting] at counters

namespace House
variable {h : House} {k : Nat} {c : AlarmClock}

theorem detach_unit (live : h.live k = some c) :
    (h.detach k).units[k]? = some (c.destroy h.mAlarmManager h.mDabReceiver).1 := by
  rw [detach_eq live]
  exact List.getElem?_set_self (List.getElem?_eq_some_iff.mp (live_eq_some.mp live).1).1

theorem detach_editor (holding : Holding h) (live : h.live k = some c) :
    (h.detach k).mAlarmManager.mCurrentEditor ≠ c.name ↔
      h.mAlarmManager.mCurrentEditor ≠ c.name ∨ c.name ≠ "" ∧
        c.mDisplay.mDisplayState = .stEditAlarms ∧ c.mDisplay.mEditAlarmsTimer ≤ THREAD_INTERVAL_MS := by
  rw [detach_eq live]
  exact Desk.refreshThread_editor ⟨c.mDisplay, _, h.mAlarmManager.unRegisterAlarmObserver c.id⟩ (holding.held k c live)

theorem detach_thread (live : h.live k = some c) :
    (∀ step : Step, step.unit = k → (h.detach k).own step = h.detach k) ↔
      c.mAlarmMaintenanceThreadRunning = false := by
  have gone := detach_unit live
  have running : (c.destroy h.mAlarmManager h.mDabReceiver).1.mAlarmMaintenanceThreadRunning =
      c.mAlarmMaintenanceThreadRunning := rfl
  have dead : (c.destroy h.mAlarmManager h.mDabReceiver).1.alive = false := rfl
  constructor
  · intro still
    by_contra alive
    rw [Bool.not_eq_false] at alive
    have inside := (List.getElem?_eq_some_iff.mp gone).1
    have maintained := congrArg (fun h : House => h.units[k]?) (still ⟨k, .maintenance⟩ rfl)
    simp only [own, Home.handle, gone, dead, running, alive, Handler.maintains, Handler.called, Bool.and_self,
      Bool.or_true, Bool.not_false, if_true, AlarmClock.handle, List.getElem?_set_self inside] at maintained
    exact tick_ne (running.trans alive) _ (Option.some.inj maintained)
  · rintro stopped step rfl
    unfold own
    rw [gone]
    simp [dead, running, stopped]

theorem detach_power (wired : Wired h.toHome) (live : h.live k = some c) :
    ((h.detach k).mDabReceiver.mPowerCounter = refs ((h.detach k).units.eraseIdx k) ∧
      k ∉ (h.detach k).mDabReceiver.mRadioObservers) ↔ c.mRadio.mState = .PwrOff ∧ c.mRadio.powerRefs = 0 := by
  obtain ⟨found, alive⟩ := live_eq_some.mp live
  have connected := wired.connected k c found
  obtain ⟨-, receiver, held, -⟩ := destroy_radio connected alive h.mAlarmManager
  have counted := (wired.step (.detach k)).counted
  rw [House.step, refs_eraseIdx (detach_unit live), held] at counted
  have shown : k ∈ (h.detach k).mDabReceiver.mRadioObservers ↔ c.mRadio.mState = .PwrOn := by
    rw [detach_eq live, receiver]
    exact connected.shown alive
  rw [counted, shown]
  cases state : c.mRadio.mState with
  | PwrOff => simp
  | PwrOn => simp

theorem detach_keyboard (live : h.live k = some c) (gone : AlarmClock) (found : (h.detach k).units[k]? = some gone) :
    .display ∉ gone.mKeyboard.mKeyboardObservers := by
  rw [detach_unit live] at found
  obtain rfl := Option.some.inj found
  apply Desk.destroyDisplay_keyboard

theorem detach_observers (live : h.live k = some c) :
    ∀ observer ∈ (h.detach k).mAlarmManager.mAlarmObservers.inOrder, observer.id ≠ c.id := by
  intro observer member
  rw [detach_mAlarmObservers live] at member
  exact of_decide_eq_true (List.mem_filter.mp member).2

theorem wired_run (mUnitList : List String) (alarms : List Alarm) (file : Option XMLDocument) (events : List Event) :
    Wired (run House.step (boot mUnitList alarms file) events).toHome := by
  have keep : ∀ (h : House) (e : Event), Wired h.toHome → Wired (h.step e).toHome := fun _ e wired => wired.step e
  have start : Wired (boot mUnitList alarms file).toHome :=
    ⟨fun _ _ found => (by cases found), fun _ _ member => (by cases member), rfl⟩
  exact run_invariant keep start

theorem holding_run (mUnitList : List String) (alarms : List Alarm) (file : Option XMLDocument) (events : List Event) :
    Holding (run House.step (boot mUnitList alarms file) events) := by
  have keep : ∀ (h : House) (e : Event), Holding h → Holding (h.step e) := fun _ e holding => holding.step e
  have start : Holding (boot mUnitList alarms file) :=
    ⟨fun _ _ _ _ live => (by cases live), fun _ _ live => (by cases live)⟩
  exact run_invariant keep start

/-- Destroying a unit leaves nothing behind exactly when the unit is idle. -/
theorem detach_leaves_no_residue (mUnitList : List String) (alarms : List Alarm) (file : Option XMLDocument)
    (events : List Event) (k : Nat) (c : AlarmClock)
    (live : (run House.step (boot mUnitList alarms file) events).live k = some c) :
    NoResidue ((run House.step (boot mUnitList alarms file) events).detach k) k c.name ↔
      Idle (run House.step (boot mUnitList alarms file) events).mAlarmManager c := by
  have wired := wired_run mUnitList alarms file events
  have holding := holding_run mUnitList alarms file events
  generalize run House.step (boot mUnitList alarms file) events = h at live wired holding ⊢
  have connected := wired.connected k c (live_eq_some.mp live).1
  have quiet : c.mAlarmMaintenanceThreadRunning = false ↔ c.mClockState = .clkNormal := by
    rw [← Bool.not_eq_true, connected.thread, not_not]
  constructor
  · intro clean
    have radio := (detach_power wired live).mp ⟨clean.power, clean.receiver⟩
    exact ⟨(detach_editor holding live).mp clean.editor, quiet.mp ((detach_thread live).mp clean.thread), radio.1, radio.2⟩
  · intro idle
    have released := (detach_power wired live).mpr ⟨idle.radio, idle.balanced⟩
    refine ⟨(detach_editor holding live).mpr idle.editor, (detach_thread live).mpr (quiet.mpr idle.alarm), released.1,
      released.2, detach_keyboard live, fun observer member => ?_⟩
    have other := detach_observers live observer member
    rwa [connected.id] at other

/-- The kitchen has used its radio and its editor; the bedroom still plays. -/
def kitchenUsed : List Event :=
  [.attach "kitchen" 0, .attach "bedroom" 0, .own ⟨1, .radioKeys (shortPress KEY_LEFT .stNormal)⟩,
    .own ⟨0, .radioKeys (shortPress KEY_LEFT .stNormal)⟩, .displayKeys 0 (longPress KEY_LEFT .stNormal),
    .displayKeys 0 (longPress KEY_LEFT .stAlarmEdit), .own ⟨0, .radioKeys (shortPress KEY_LEFT .stNormal)⟩]

theorem idle_kitchen_leaves_nothing :
    NoResidue ((run House.step (boot ["kitchen", "bedroom"] [] none) kitchenUsed).detach 0) 0 "kitchen" := by
  obtain ⟨c, found, named, normal, off, balanced⟩ :
      ∃ c ∈ (run House.step (boot ["kitchen", "bedroom"] [] none) kitchenUsed).live 0,
        c.name = "kitchen" ∧ c.mClockState = .clkNormal ∧ c.mRadio.mState = .PwrOff ∧ c.mRadio.powerRefs = 0 := by
    decide +kernel
  have nobody : (run House.step (boot ["kitchen", "bedroom"] [] none) kitchenUsed).mAlarmManager.mCurrentEditor ≠ c.name := by
    rw [named]
    decide
  have clean := (detach_leaves_no_residue ["kitchen", "bedroom"] [] none kitchenUsed 0 c found).mpr
    ⟨Or.inl nobody, normal, off, balanced⟩
  rwa [named] at clean

def kitchenBusy : List Event :=
  [.attach "kitchen" 0, .own ⟨0, .radioKeys (shortPress KEY_LEFT .stNormal)⟩,
    .displayKeys 0 (longPress KEY_LEFT .stNormal)]

/-- The unit is gone, but nobody can edit and no alarm rings any more, and the receiver still
publishes to its display. -/
theorem busy_kitchen_stays_behind :
    let house := (run House.step (boot ["kitchen"] [] none) kitchenBusy).detach 0
    house.mAlarmManager.mCurrentEditor = "kitchen" ∧ 0 ∈ house.mDabReceiver.mRadioObservers ∧
      ¬ NoResidue house 0 "kitchen" :=
  ⟨by decide, by decide, fun clean => clean.editor (by decide)⟩

end House

end RgbClock
