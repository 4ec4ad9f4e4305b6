import RgbClock.House.Editing

/-! Snooze and off requests that are parked at the alarm manager, and the alarms that start after
them. -/

open RgbClock.Keys RgbClock.Alarms RgbClock.Devices RgbClock.Units Slots Runs

namespace RgbClock

def Ringing (c : AlarmClock) : Prop := c.mClockState = .clkAlarm ∧ c.mAlarmOff = false

structure Started (c : AlarmClock) : Prop where
  ringing : Ringing c
  running : c.mAlarmMaintenanceThreadRunning = true
  counter : c.mAlarmCounter ≤ 1

structure Doomed (c : AlarmClock) : Prop where
  state : c.mClockState = .clkAlarm
  off : c.mAlarmOff = true
  running : c.mAlarmMaintenanceThreadRunning = true
  counter : c.mAlarmCounter ≤ 1

theorem started_alarmNotify (c : AlarmClock) (dab : DABReceiver) (volume : Int) (smooth : Bool) :
    Started (c.handle dab (.alarmNotify volume smooth)).1 := by
  rw [AlarmClock.handle, AlarmClock.alarmNotify_eq]
  refine ⟨⟨rfl, rfl⟩, rfl, ?_⟩
  dsimp only
  split <;> decide

theorem ringing_maintenance {c : AlarmClock} (ringing : Ringing c) (limit : c.mAlarmCounter + 1 < ALARM_TIME)
    (dab : DABReceiver) : Ringing (c.handle dab .maintenance).1 := by
  obtain ⟨state, off⟩ := ringing
  have early : ¬ ALARM_TIME ≤ c.mAlarmCounter + 1 := by omega
  simp only [AlarmClock.handle, AlarmClock.tick]
  split
  · simp [AlarmClock.alarmMaintenanceThread, Ringing, state, off, early]
  · exact ⟨state, off⟩

theorem ringing_own {c : AlarmClock} (ringing : Ringing c) (dab : DABReceiver) {handler : Handler}
    (own : handler.called = false) (limit : handler = .maintenance → c.mAlarmCounter + 1 < ALARM_TIME) :
    Ringing (c.handle dab handler).1 := by
  cases handler with
  | alarmNotify | alarmSnooze | alarmOff => cases own
  | maintenance => exact ringing_maintenance ringing (limit rfl) dab
  | radioKeys | radioAutoOff | radioDimmer | lightKeys | lightAutoOff | lightDimmer => exact ringing

theorem snoozes {c : AlarmClock} (either : Started c ∨ c.mClockState = .clkSnooze) (dab : DABReceiver) :
    (c.handle dab .alarmSnooze).1.mClockState = .clkSnooze := by
  simp only [AlarmClock.handle, AlarmClock.alarmSnooze]
  rcases either with started | snoozing
  · rw [if_pos started.ringing.1]
  · rw [if_neg (by rw [snoozing]; decide)]
    exact snoozing

theorem dooms {c : AlarmClock} (either : Started c ∨ Doomed c) (dab : DABReceiver) :
    Doomed (c.handle dab .alarmOff).1 := by
  rcases either with started | doomed
  · exact ⟨started.ringing.1, rfl, started.running, started.counter⟩
  · exact ⟨doomed.state, rfl, doomed.running, doomed.counter⟩

theorem doomed_ends {c : AlarmClock} (doomed : Doomed c) (dab : DABReceiver) :
    (c.handle dab .maintenance).1.mClockState = .clkNormal := by
  simp [AlarmClock.handle, AlarmClock.tick, doomed.running, AlarmClock.alarmMaintenanceThread, doomed.state,
    doomed.off, AlarmClock.endAlarm]

/-! ### The calls of an iteration -/

namespace House

/-- The notifications come first, then the snoozes, then the offs. -/
theorem iterate_phases {h : House} (free : h.mAlarmManager.mCurrentEditor = "") (reads : Nat → Reads) :
    let observers := h.mAlarmManager.mAlarmObservers.inOrder
    let notified := (h.mAlarmManager.sweepAlarms reads).2.notified
    (h.iterate reads).toHome =
      ((if h.mAlarmManager.mSendAlarmOff then observers.map .alarmOff else []).map callStep).foldl Home.handle
        (((if h.mAlarmManager.mSendAlarmSnooze then observers.map .alarmSnooze else []).map callStep).foldl Home.handle
          ((notified.map callStep).foldl Home.handle h.toHome)) := by
  simp only [iterate, AlarmManager.alarmThread_calls free, AlarmManager.broadcasts, List.map_append, List.foldl_append]

theorem notify_free {m : AlarmManager} {reads : Nat → Reads} {call : Call} (made : call ∈ (m.alarmThread reads).2) :
    m.mCurrentEditor = "" := by
  by_contra edited
  rw [AlarmManager.alarmThread_edited edited] at made
  cases made

theorem notified_started {h : House} {reads : Nat → Reads} {i : Nat} {o : AlarmObserver} {volume : Int} {smooth : Bool}
    (made : .alarmNotify i o volume smooth ∈ (h.mAlarmManager.alarmThread reads).2)
    (present : ∃ c : AlarmClock, h.units[o.id]? = some c) :
    ∃ c, (((h.mAlarmManager.sweepAlarms reads).2.notified.map callStep).foldl Home.handle h.toHome).units[o.id]? =
      some c ∧ Started c := by
  have reached : Call.alarmNotify i o volume smooth ∈ (h.mAlarmManager.sweepAlarms reads).2.notified := by
    rw [AlarmManager.alarmThread_calls (notify_free made), List.mem_append] at made
    exact made.resolve_right h.mAlarmManager.alarmNotify_not_mem_broadcasts
  obtain ⟨c, found⟩ := present
  refine Home.foldl_turns (P := fun _ => True) ?_ ⟨_, List.mem_map_of_mem reached, rfl⟩ ⟨c, found, trivial⟩
  intro step member _ c dab _
  obtain ⟨call, called, rfl⟩ := List.mem_map.mp member
  obtain ⟨j, other, loud, soft, rfl⟩ := h.mAlarmManager.mem_sweepAlarms_notified reads called
  exact started_alarmNotify c dab loud soft

theorem iterate_ringing {h : House} (reads : Nat → Reads) {u : Nat}
    (quiet : h.mAlarmManager.mSendAlarmSnooze = false ∧ h.mAlarmManager.mSendAlarmOff = false)
    (start : ∃ c : AlarmClock, h.units[u]? = some c ∧ Ringing c) :
    ∃ c : AlarmClock, (h.iterate reads).units[u]? = some c ∧ Ringing c := by
  refine Home.foldl_keeps ?_ start
  intro step member _ c dab ringing
  obtain ⟨call, called, rfl⟩ := List.mem_map.mp member
  rw [AlarmManager.alarmThread_calls (notify_free called), AlarmManager.broadcasts, quiet.1, quiet.2] at called
  simp only [Bool.false_eq_true, if_false, List.append_nil] at called
  obtain ⟨j, other, loud, soft, rfl⟩ := h.mAlarmManager.mem_sweepAlarms_notified reads called
  exact (started_alarmNotify c dab loud soft).ringing

end House

/-! ### New requests -/

def Asks (c : AlarmClock) (info : KeyboardInfo) : Prop :=
  ((c.mClockState = .clkAlarm ∨ c.mClockState = .clkSnooze) ∧
      ((info.mKeyInfo KEY_LEFT).mShortPressed = true ∨ (info.mKeyInfo KEY_LEFT).mLongPress = true)) ∨
    (c.mClockState = .clkAlarm ∧
      ((info.mKeyInfo KEY_CENTRAL_L).mShortPressed = true ∨ (info.mKeyInfo KEY_CENTRAL_R).mShortPressed = true))

theorem keyboardPressed_of_not_asks {c : AlarmClock} {info : KeyboardInfo} (silent : ¬ Asks c info) (m : AlarmManager) :
    c.keyboardPressed m info = m := by
  unfold Asks at silent
  unfold AlarmClock.keyboardPressed
  grind

/-- Neither a new request nor the limit of the unit at index `u`. -/
def Undisturbed (u : Nat) (h : House) : Event → Prop
  | .clockKeys k info => ∀ c, h.live k = some c → ¬ Asks c info
  | .own step => step.unit = u → step.handler = .maintenance →
      ∀ c : AlarmClock, h.units[u]? = some c → c.mAlarmCounter + 1 < ALARM_TIME
  | _ => True

structure Unasked (u : Nat) (h : House) : Prop where
  ringing : ∃ c : AlarmClock, h.units[u]? = some c ∧ Ringing c
  snooze : h.mAlarmManager.mSendAlarmSnooze = false
  off : h.mAlarmManager.mSendAlarmOff = false

namespace Unasked
variable {u : Nat} {h : House}

theorem set {k : Nat} {c c' : AlarmClock} (ringing : ∃ c : AlarmClock, h.units[u]? = some c ∧ Ringing c)
    (found : h.units[k]? = some c) (state : c'.mClockState = c.mClockState) (off : c'.mAlarmOff = c.mAlarmOff) :
    ∃ c : AlarmClock, (h.units.set k c')[u]? = some c ∧ Ringing c := by
  obtain ⟨d, present, rings⟩ := ringing
  by_cases same : k = u
  · subst same
    rw [found] at present
    obtain rfl := Option.some.inj present
    refine ⟨c', List.getElem?_set_self (List.getElem?_eq_some_iff.mp found).1, ?_⟩
    exact ⟨state.trans rings.1, off.trans rings.2⟩
  · exact ⟨d, by rw [List.getElem?_set_ne same, present], rings⟩

theorem onDesk (safe : Unasked u h) (k : Nat) {step : Desk → Desk} (effect : ∀ s, Desk.Effect s (step s)) :
    Unasked u (h.onDesk k step) := by
  unfold House.onDesk
  cases live : h.live k with
  | none => exact safe
  | some c =>
    have requests := (effect ⟨c.mDisplay, c.mKeyboard, h.mAlarmManager⟩).requests
    exact ⟨set safe.ringing (House.live_eq_some.mp live).1 rfl rfl, requests.1.trans safe.snooze,
      requests.2.trans safe.off⟩

theorem changeUnit (safe : Unasked u h) (k : Nat) {change : AlarmClock → AlarmClock}
    (same : ∀ c, (change c).mClockState = c.mClockState ∧ (change c).mAlarmOff = c.mAlarmOff) :
    Unasked u (h.changeUnit k change) := by
  unfold House.changeUnit
  cases live : h.live k with
  | none => exact safe
  | some c => exact { safe with ringing := set safe.ringing (House.live_eq_some.mp live).1 (same c).1 (same c).2 }

theorem attach (safe : Unasked u h) (unitName : String) (place : Nat) : Unasked u (h.attach unitName place) := by
  unfold House.attach
  split
  · exact safe
  · obtain ⟨c, found, rings⟩ := safe.ringing
    refine ⟨⟨c, ?_, rings⟩, safe.snooze, safe.off⟩
    rw [List.getElem?_append_left (List.getElem?_eq_some_iff.mp found).1, found]

theorem detach (safe : Unasked u h) (k : Nat) : Unasked u (h.detach k) := by
  unfold House.detach
  cases live : h.live k with
  | none => exact safe
  | some c =>
    refine ⟨set safe.ringing (House.live_eq_some.mp live).1 rfl rfl, ?_, ?_⟩
    · exact (Desk.destroyDisplay_effect _).requests.1.trans safe.snooze
    · exact (Desk.destroyDisplay_effect _).requests.2.trans safe.off

theorem own (safe : Unasked u h) {step : Step} (undisturbed : Undisturbed u h (.own step)) : Unasked u (h.own step) := by
  unfold House.own
  split
  · split
    · rename_i guard
      have uncalled : step.handler.called = false := by simpa using (Bool.and_eq_true_iff.mp guard).2
      refine { safe with ringing := Home.handle_keeps (fun mine c dab found rings => ?_) safe.ringing }
      exact ringing_own rings dab uncalled fun ticks => undisturbed mine ticks c found
    · exact safe
  · exact safe

theorem step (safe : Unasked u h) {e : Event} (undisturbed : Undisturbed u h e) : Unasked u (h.step e) := by
  cases e with
  | attach unitName place => exact safe.attach unitName place
  | detach k => exact safe.detach k
  | registerLight k light => exact safe.changeUnit k fun _ => ⟨rfl, rfl⟩
  | unRegisterLight k => exact safe.changeUnit k fun _ => ⟨rfl, rfl⟩
  | clockKeys k info =>
    simp only [House.step, House.clockKeys]
    cases live : h.live k with
    | none => exact safe
    | some c =>
      dsimp only
      rw [keyboardPressed_of_not_asks (undisturbed c live)]
      exact safe
  | displayKeys k info => exact safe.onDesk k (·.keyboardPressed_effect info)
  | refresh k => exact safe.onDesk k Desk.refreshThread_effect
  | own step => exact safe.own undisturbed
  | iterate reads =>
    have ringing := House.iterate_ringing reads ⟨safe.snooze, safe.off⟩ safe.ringing
    by_cases free : h.mAlarmManager.mCurrentEditor = ""
    · exact ⟨ringing, (AlarmManager.alarmThread_requests free).1, (AlarmManager.alarmThread_requests free).2⟩
    · refine ⟨ringing, ?_, ?_⟩
      · simp only [House.step, House.iterate, AlarmManager.alarmThread_edited free, safe.snooze]
      · simp only [House.step, House.iterate, AlarmManager.alarmThread_edited free, safe.off]

end Unasked

/-! ### The observers are units -/

def Registered (h : House) : Prop := ∀ observer ∈ h.mAlarmManager.mAlarmObservers.inOrder, observer.id < h.units.length

theorem mem_insert {set : ObserverSet} {new observer : AlarmObserver} {place : Nat}
    (member : observer ∈ (set.insert new place).inOrder) : observer = new ∨ observer ∈ set.inOrder := by
  unfold ObserverSet.insert at member
  split at member
  · exact (List.mem_insertIdx (Nat.min_le_right _ _)).mp member
  · exact Or.inr member

namespace Registered

variable {h h' : House}

theorem keeps (registered : Registered h) (length : h'.units.length = h.units.length)
    (observers : h'.mAlarmManager.mAlarmObservers = h.mAlarmManager.mAlarmObservers) : Registered h' := by
  intro observer member
  rw [observers] at member
  rw [length]
  exact registered observer member

theorem onDesk (registered : Registered h) (k : Nat) {step : Desk → Desk} (effect : ∀ s, Desk.Effect s (step s)) :
    Registered (h.onDesk k step) := by
  unfold House.onDesk
  cases live : h.live k with
  | none => exact registered
  | some c => exact registered.keeps List.length_set (effect _).mAlarmObservers

theorem changeUnit (registered : Registered h) (k : Nat) (change : AlarmClock → AlarmClock) :
    Registered (h.changeUnit k change) := by
  unfold House.changeUnit
  cases live : h.live k with
  | none => exact registered
  | some c => exact registered.keeps List.length_set rfl

theorem attach (registered : Registered h) (unitName : String) (place : Nat) : Registered (h.attach unitName place) := by
  unfold House.attach
  split
  · exact registered
  · intro observer member
    simp only [List.length_append, List.length_singleton]
    obtain rfl | old := mem_insert member
    · apply Nat.lt_succ_self
    · exact Nat.lt_succ_of_lt (registered observer old)

theorem detach (registered : Registered h) (k : Nat) : Registered (h.detach k) := by
  cases live : h.live k with
  | none =>
    simp only [House.detach, live]
    exact registered
  | some c =>
    intro observer member
    rw [House.detach_mAlarmObservers live] at member
    rw [House.detach_eq live, List.length_set]
    exact registered observer (List.mem_of_mem_filter member)

theorem clockKeys (registered : Registered h) (k : Nat) (info : KeyboardInfo) : Registered (h.clockKeys k info) := by
  unfold House.clockKeys
  cases live : h.live k with
  | none => exact registered
  | some c =>
    refine registered.keeps rfl ?_
    unfold AlarmClock.keyboardPressed AlarmManager.sendAlarmOff AlarmManager.sendAlarmSnooze
    dsimp only
    split_ifs <;> rfl

theorem step (registered : Registered h) (e : Event) : Registered (h.step e) := by
  cases e with
  | attach unitName place => exact registered.attach unitName place
  | detach k => exact registered.detach k
  | registerLight k l => exact registered.changeUnit k _
  | unRegisterLight k => exact registered.changeUnit k _
  | clockKeys k info => exact registered.clockKeys k info
  | displayKeys k info => exact registered.onDesk k (·.keyboardPressed_effect info)
  | refresh k => exact registered.onDesk k Desk.refreshThread_effect
  | own step => exact registered.keeps (h.own_sameDesk step).length (congrArg _ (h.own_mAlarmManager step))
  | iterate reads =>
    exact registered.keeps (h.iterate_sameDesk reads).length (h.mAlarmManager.alarmThread_mAlarmObservers reads)

end Registered

/-! ### The unit that an iteration notifies -/

section
variable {P Q : AlarmClock → Prop} {h : Home} {observers : List AlarmObserver} (call : AlarmObserver → Call)
  {handler : Handler} (same : ∀ observer, callStep (call observer) = ⟨observer.id, handler⟩)
include same

theorem broadcast_turns {o : AlarmObserver} (registered : o ∈ observers)
    (turn : ∀ c dab, P c ∨ Q c → Q (c.handle dab handler).1) (start : ∃ c, h.units[o.id]? = some c ∧ P c) :
    ∃ c, (((observers.map call).map callStep).foldl Home.handle h).units[o.id]? = some c ∧ Q c := by
  refine Home.foldl_turns (fun step member _ => ?_) ⟨callStep (call o), ?_, ?_⟩ start
  · obtain ⟨_, called, rfl⟩ := List.mem_map.mp member
    obtain ⟨observer, -, rfl⟩ := List.mem_map.mp called
    rw [same]
    exact turn
  · exact List.mem_map_of_mem (List.mem_map_of_mem registered)
  · rw [same]

theorem broadcast_keeps {u : Nat} (flag : Bool) (keep : ∀ c dab, Q c → Q (c.handle dab handler).1)
    (start : ∃ c, h.units[u]? = some c ∧ Q c) :
    ∃ c, (((if flag = true then observers.map call else []).map callStep).foldl Home.handle h).units[u]? = some c ∧
      Q c := by
  refine Home.foldl_keeps (fun step member _ => ?_) start
  cases flag with
  | false => cases member
  | true =>
    obtain ⟨_, called, rfl⟩ := List.mem_map.mp member
    obtain ⟨observer, -, rfl⟩ := List.mem_map.mp called
    rw [same]
    exact keep

end

namespace House

theorem observer_registered {m : AlarmManager} {reads : Nat → Reads} {i : Nat} {o : AlarmObserver} {volume : Int}
    {smooth : Bool} (made : .alarmNotify i o volume smooth ∈ (m.alarmThread reads).2) :
    o ∈ m.mAlarmObservers.inOrder := by
  obtain ⟨alarm, -, -, registered, -⟩ := (AlarmManager.mem_alarmThread_notify (notify_free made)).mp made
  exact registered

section
variable {h : House} {reads : Nat → Reads} {i : Nat} {o : AlarmObserver} {volume : Int} {smooth : Bool}
  (made : .alarmNotify i o volume smooth ∈ (h.mAlarmManager.alarmThread reads).2)
  (present : ∃ c : AlarmClock, h.units[o.id]? = some c)
include made present

theorem iterate_started (snooze : h.mAlarmManager.mSendAlarmSnooze = false)
    (off : h.mAlarmManager.mSendAlarmOff = false) :
    ∃ c : AlarmClock, (h.iterate reads).units[o.id]? = some c ∧ Started c := by
  have phases := iterate_phases (notify_free made) reads
  simp only [snooze, off, Bool.false_eq_true, if_false, List.map_nil, List.foldl_nil] at phases
  rw [phases]
  exact notified_started made present

theorem iterate_snoozed (snooze : h.mAlarmManager.mSendAlarmSnooze = true) :
    ∃ c : AlarmClock, (h.iterate reads).units[o.id]? = some c ∧ c.mClockState = .clkSnooze := by
  have phases := iterate_phases (notify_free made) reads
  simp only [snooze, if_true] at phases
  rw [phases]
  have snoozed := broadcast_turns .alarmSnooze (fun _ => rfl) (observer_registered made)
    (fun _ dab either => snoozes either dab) (notified_started made present)
  -- an off that follows only sets a flag
  exact broadcast_keeps .alarmOff (fun _ => rfl) h.mAlarmManager.mSendAlarmOff (fun _ _ snoozing => snoozing) snoozed

theorem iterate_doomed (snooze : h.mAlarmManager.mSendAlarmSnooze = false)
    (off : h.mAlarmManager.mSendAlarmOff = true) :
    ∃ c : AlarmClock, (h.iterate reads).units[o.id]? = some c ∧ Doomed c := by
  have phases := iterate_phases (notify_free made) reads
  simp only [snooze, off, Bool.false_eq_true, if_false, if_true, List.map_nil, List.foldl_nil] at phases
  rw [phases]
  exact broadcast_turns .alarmOff (fun _ => rfl) (observer_registered made) (fun _ dab either => dooms either dab)
    (notified_started made present)

end

theorem doomed_own {h : House} {u : Nat} (doomed : ∃ c : AlarmClock, h.units[u]? = some c ∧ Doomed c) :
    Undisturbed u h (.own ⟨u, .maintenance⟩) ∧
      ∃ c : AlarmClock, (h.own ⟨u, .maintenance⟩).units[u]? = some c ∧ c.mClockState = .clkNormal := by
  obtain ⟨c, found, doomed⟩ := doomed
  constructor
  · intro _ _ d present
    rw [found] at present
    obtain rfl := Option.some.inj present
    have counter := doomed.counter
    unfold ALARM_TIME
    omega
  · have inside := (List.getElem?_eq_some_iff.mp found).1
    simp only [own, found, doomed.running, Handler.maintains, Handler.called, Bool.and_self, Bool.or_true,
      Bool.not_false, if_true, Home.handle]
    exact ⟨_, List.getElem?_set_self inside, doomed_ends doomed _⟩

theorem registered_run (mUnitList : List String) (alarms : List Alarm) (file : Option XMLDocument)
    (events : List Event) : Registered (run House.step (boot mUnitList alarms file) events) := by
  have keep : ∀ (h : House) (e : Event), Registered h → Registered (h.step e) := fun _ e registered => registered.step e
  have start : Registered (boot mUnitList alarms file) := fun _ member => (by cases member)
  exact run_invariant keep start

/-- An alarm that starts goes on ringing until its limit or a new request exactly when no request
is parked at the start of the iteration that notifies its unit. -/
theorem later_alarm_rings_on (mUnitList : List String) (alarms : List Alarm) (file : Option XMLDocument)
    (before : List Event) (reads : Nat → Reads) (i : Nat) (o : AlarmObserver) (volume : Int) (smooth : Bool)
    (made : .alarmNotify i o volume smooth ∈
      ((run House.step (boot mUnitList alarms file) before).mAlarmManager.alarmThread reads).2) :
    (∀ after : List Event,
        Meets House.step (Undisturbed o.id)
          (run House.step (boot mUnitList alarms file) (before ++ [.iterate reads])) after →
        ∃ c : AlarmClock,
          (run House.step (boot mUnitList alarms file) (before ++ [.iterate reads] ++ after)).units[o.id]? = some c ∧
            c.mClockState = .clkAlarm) ↔
      (run House.step (boot mUnitList alarms file) before).mAlarmManager.mSendAlarmSnooze = false ∧
        (run House.step (boot mUnitList alarms file) before).mAlarmManager.mSendAlarmOff = false := by
  have registered := registered_run mUnitList alarms file before
  simp only [run_append, run_cons, run_nil]
  generalize run House.step (boot mUnitList alarms file) before = h at made registered ⊢
  have present : ∃ c : AlarmClock, h.units[o.id]? = some c :=
    ⟨_, List.getElem?_eq_getElem (registered o (observer_registered made))⟩
  constructor
  · intro rings
    by_contra parked
    cases snooze : h.mAlarmManager.mSendAlarmSnooze with
    | true =>
      obtain ⟨c, found, snoozing⟩ := iterate_snoozed made present snooze
      obtain ⟨d, same, ringing⟩ := rings [] trivial
      rw [run_nil, House.step, found] at same
      obtain rfl := Option.some.inj same
      rw [snoozing] at ringing
      cases ringing
    | false =>
      have off : h.mAlarmManager.mSendAlarmOff = true := by
        rw [← Bool.not_eq_false]
        exact fun clear => parked ⟨snooze, clear⟩
      obtain ⟨undisturbed, c, found, ended⟩ := doomed_own (iterate_doomed made present snooze off)
      obtain ⟨d, same, ringing⟩ := rings [.own ⟨o.id, .maintenance⟩] ⟨undisturbed, trivial⟩
      rw [run_cons, run_nil, House.step, House.step, found] at same
      obtain rfl := Option.some.inj same
      rw [ended] at ringing
      cases ringing
  · rintro ⟨snooze, off⟩ after undisturbed
    have free := notify_free made
    obtain ⟨c, found, started⟩ := iterate_started made present snooze off
    have start : Unasked o.id (h.step (.iterate reads)) :=
      ⟨⟨c, found, started.ringing⟩, (AlarmManager.alarmThread_requests free).1, (AlarmManager.alarmThread_requests free).2⟩
    have keep : ∀ (h : House) (e : Event), Unasked o.id h → Undisturbed o.id h e → Unasked o.id (h.step e) :=
      fun _ _ safe undisturbed => safe.step undisturbed
    obtain ⟨d, last, ringing, -⟩ := (run_keeps keep start undisturbed).ringing
    exact ⟨d, last, ringing⟩

theorem undisturbed_maintenance {h : House} {u : Nat}
    (below : (h.units[u]?.all fun c => c.mAlarmCounter + 1 < ALARM_TIME) = true) :
    Undisturbed u h (.own ⟨u, .maintenance⟩) := by
  intro _ _ c found
  rw [found] at below
  exact of_decide_eq_true below

def sundayAlarms : List Alarm :=
  [{ mDays := 1, mUnit := "kitchen" }, { mDays := 1, mMinutes := 1, mUnit := "bedroom" }]

def sundayAt (minutes : Nat) (_ : Nat) : Reads := ⟨⟨.Sunday, 7, minutes⟩, ⟨.Sunday, 7, minutes⟩⟩

def kitchenTurnsOff : List Event :=
  [.attach "kitchen" 0, .attach "bedroom" 1, .iterate (sundayAt 0), .clockKeys 0 (shortPress KEY_LEFT .stAlarmActive)]

/-- The bedroom's alarm starts too, and its keys ask for nothing. -/
def bedroomWakes : List Event :=
  [.own ⟨0, .maintenance⟩, .iterate (sundayAt 1), .own ⟨1, .radioKeys (shortPress KEY_UP .stAlarmActive)⟩,
    .clockKeys 1 (shortPress KEY_UP .stAlarmActive), .own ⟨1, .maintenance⟩, .iterate (sundayAt 2), .own ⟨0, .maintenance⟩]

theorem bedroomWakes_undisturbed :
    Meets House.step (Undisturbed 0)
      (run House.step (boot ["kitchen", "bedroom"] sundayAlarms none)
        ([.attach "kitchen" 0, .attach "bedroom" 1] ++ [.iterate (sundayAt 0)])) bedroomWakes := by
  refine ⟨undisturbed_maintenance (by decide +kernel), trivial, nofun, fun c _ => ?_, nofun, trivial,
    undisturbed_maintenance (by decide +kernel), trivial⟩
  simp [Asks, shortPress, KEY_LEFT, KEY_CENTRAL_L, KEY_CENTRAL_R, KEY_UP]

theorem kitchen_rings_on :
    ∃ c : AlarmClock, (run House.step (boot ["kitchen", "bedroom"] sundayAlarms none)
        ([.attach "kitchen" 0, .attach "bedroom" 1] ++ [.iterate (sundayAt 0)] ++ bedroomWakes)).units[0]? = some c ∧
      c.mClockState = .clkAlarm :=
  (later_alarm_rings_on ["kitchen", "bedroom"] sundayAlarms none [.attach "kitchen" 0, .attach "bedroom" 1]
    (sundayAt 0) 0 ⟨0, "kitchen"⟩ 40 true (by decide)).mpr ⟨rfl, rfl⟩ bedroomWakes bedroomWakes_undisturbed

/-- The kitchen's request silences the bedroom, which only starts to ring after it. -/
theorem kitchen_request_silences_bedroom :
    let start := boot ["kitchen", "bedroom"] sundayAlarms none
    let asked := run House.step start kitchenTurnsOff
    let silenced := run House.step asked [.iterate (sundayAt 1), .own ⟨1, .maintenance⟩]
    .alarmNotify 1 ⟨1, "bedroom"⟩ 40 true ∈ (asked.mAlarmManager.alarmThread (sundayAt 1)).2 ∧
      Meets House.step (Undisturbed 1) (asked.step (.iterate (sundayAt 1))) [.own ⟨1, .maintenance⟩] ∧
      silenced.units[1]?.map AlarmClock.mClockState = some .clkNormal :=
  ⟨by decide, ⟨undisturbed_maintenance (by decide +kernel), trivial⟩, by decide⟩

end House

end RgbClock
