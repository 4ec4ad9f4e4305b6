import RgbClock.House.Editing
import RgbClock.Alarms.Firing

/-! Alarms that are due while somebody edits. -/

open RgbClock.Keys RgbClock.Alarms RgbClock.Devices RgbClock.Units Slots Runs

namespace RgbClock

def setting (alarm : Alarm) : Alarm := { alarm with mSignalled := false, mEnabled := true }

theorem setting_passed (alarm : Alarm) (reads : Reads) : setting (alarm.passed reads) = setting alarm := by
  rw [Alarm.passed_eq]
  rfl

theorem shows_of_setting {a b : Alarm} (same : setting a = setting b) (time : LocalTime) :
    a.Shows time ↔ b.Shows time := by
  have shown : (setting a).Shows time ↔ (setting b).Shows time := by rw [same]
  exact shown

theorem signalled_before {h : House} {e : Event} (other : ∀ reads, e ≠ .iterate reads) {alarm : Alarm}
    (member : alarm ∈ (h.step e).mAlarmManager.mAlarmList) (signalled : alarm.mSignalled = true) :
    alarm ∈ h.mAlarmManager.mAlarmList := by
  rcases h.step_touch e with same | ⟨reads, event, -⟩ | ⟨_, _, _, _, _, alarms, edited, same⟩ | ⟨_, _, _, _, _, same⟩
  · rwa [same.mAlarmList] at member
  · exact absurd event (other reads)
  · rw [same.mAlarmList] at member
    rcases edited with rfl | ⟨d, info, rfl⟩
    · exact member
    · rcases ClockDisplay.mem_editKeys member with old | rfl | ⟨old, -, pos, down, up, rfl⟩
      · exact old
      · cases signalled
      · rw [ClockDisplay.worked_mSignalled] at signalled
        cases signalled
  · rwa [same.mAlarmList] at member

/-- The minutes that the iterations of a run read, by position. The clock does not go back. -/
structure Ticking (clock : Nat → Iteration) (events : List Event) : Prop where
  reads : ∀ n reads, events[n]? = some (.iterate reads) → reads = fun i => readsAt (clock n i)
  pass : ∀ n i, (clock n i).1 ≤ (clock n i).2
  forward : ∀ m n, m < n → ∀ i j, (clock m i).2 ≤ (clock n j).1

section
variable (start : House) (events : List Event) (clock : Nat → Iteration)

def managerAt (n : Nat) : AlarmManager := (stateAt House.step start events n).mAlarmManager

def SweepsAt (n : Nat) : Prop := (∃ reads, events[n]? = some (.iterate reads)) ∧ (managerAt start events n).mCurrentEditor = ""

structure RingsAt (n i : Nat) (alarm : Alarm) : Prop where
  sweeps : SweepsAt start events n
  fires : ∃ found, (managerAt start events n).mAlarmList[i]? = some found ∧ setting found = setting alarm ∧
    found.fires (localTimeAt (clock n i).1) = true

/-- The iteration finds the alarm in the list, and at its end reads the minute of the alarm for it. -/
def ReadsMinute (n : Nat) (alarm : Alarm) : Prop :=
  ∃ j found, (managerAt start events n).mAlarmList[j]? = some found ∧ setting found = setting alarm ∧
    alarm.Shows (localTimeAt (clock n j).2)

/-- The alarm rang at position `i` of iteration `m`, and every iteration outside the sessions since then has read its
minute. -/
def RangLast (n m i : Nat) (alarm : Alarm) : Prop :=
  m < n ∧ RingsAt start events clock m i alarm ∧
    ∀ p, m < p → p < n → SweepsAt start events p → ReadsMinute start events clock p alarm

def Remembers (n : Nat) (alarm : Alarm) : Prop := ∃ m i, RangLast start events clock n m i alarm

/-- A ring of an earlier day still counts: the alarm is signalled since it rang then. -/
def StillSignalled (n : Nat) (alarm : Alarm) (minute : Nat) : Prop :=
  alarm.mSignalled = true ∧ ∃ m i, (clock m i).1 + DAY_MINUTES ≤ minute ∧ RangLast start events clock n m i alarm

end

section
variable {start : House} {events : List Event} {clock : Nat → Iteration}

theorem Remembers.quiet {n : Nat} {alarm : Alarm} (remembers : Remembers start events clock n alarm)
    (quiet : ¬ SweepsAt start events n) : Remembers start events clock (n + 1) alarm := by
  obtain ⟨m, i, earlier, rings, since⟩ := remembers
  refine ⟨m, i, Nat.lt_succ_of_lt earlier, rings, fun p later before sweeps => ?_⟩
  rcases Nat.lt_succ_iff_lt_or_eq.mp before with inside | rfl
  · exact since p later inside sweeps
  · exact absurd sweeps quiet

theorem RingsAt.of_setting {n i : Nat} {alarm after : Alarm} (rings : RingsAt start events clock n i alarm)
    (same : setting after = setting alarm) : RingsAt start events clock n i after := by
  obtain ⟨sweeps, found, present, setting, fires⟩ := rings
  exact ⟨sweeps, found, present, setting.trans same.symm, fires⟩

theorem ReadsMinute.of_setting {n : Nat} {alarm after : Alarm} (reads : ReadsMinute start events clock n alarm)
    (same : setting after = setting alarm) : ReadsMinute start events clock n after := by
  obtain ⟨j, found, present, setting, shows⟩ := reads
  exact ⟨j, found, present, setting.trans same.symm, (shows_of_setting same _).mpr shows⟩

theorem Remembers.swept {n : Nat} {alarm : Alarm} (remembers : Remembers start events clock n alarm)
    (reads : ReadsMinute start events clock n alarm) {after : Alarm} (same : setting after = setting alarm) :
    Remembers start events clock (n + 1) after := by
  obtain ⟨m, i, earlier, rings, since⟩ := remembers
  refine ⟨m, i, Nat.lt_succ_of_lt earlier, rings.of_setting same, ?_⟩
  intro p later before sweeps
  rcases Nat.lt_succ_iff_lt_or_eq.mp before with inside | rfl
  · exact (since p later inside sweeps).of_setting same
  · exact reads.of_setting same

theorem Remembers.of_sweep {n : Nat} (sweeps : SweepsAt start events n)
    (before : ∀ alarm ∈ (managerAt start events n).mAlarmList, alarm.mSignalled = true →
      Remembers start events clock n alarm) {alarm : Alarm}
    (member : alarm ∈ ((managerAt start events n).iterate (clock n)).mAlarmList) (signalled : alarm.mSignalled = true) :
    Remembers start events clock (n + 1) alarm := by
  obtain ⟨j, present⟩ := List.mem_iff_getElem?.mp member
  have passed : ((managerAt start events n).iterate (clock n)).mAlarmList[j]? = _ :=
    AlarmManager.alarmThread_alarm sweeps.2 j
  obtain ⟨old, known, rfl⟩ := Option.map_eq_some_iff.mp (passed.symm.trans present)
  have same := setting_passed old (readsAt (clock n j))
  rw [Alarm.passed_mSignalled, Bool.and_eq_true, Bool.or_eq_true, decide_eq_true_eq] at signalled
  obtain ⟨shows, fires | already⟩ := signalled
  · refine ⟨n, j, Nat.lt_succ_self n, ⟨sweeps, old, known, same.symm, fires⟩, fun p later before => ?_⟩
    omega
  · exact (before old (List.mem_of_getElem? known) already).swept ⟨j, old, known, rfl, shows⟩ same

theorem not_sweepsAt {n : Nat} {e : Event} (found : events[n]? = some e) (other : ∀ reads, e ≠ .iterate reads) :
    ¬ SweepsAt start events n := by
  intro given
  obtain ⟨⟨reads, event⟩, -⟩ := given
  rw [found] at event
  exact other reads (Option.some.inj event)

theorem remembers_of_signalled (fresh : ∀ alarm ∈ start.mAlarmManager.mAlarmList, alarm.mSignalled = false)
    (ticking : Ticking clock events) (n : Nat) :
    ∀ alarm ∈ (managerAt start events n).mAlarmList, alarm.mSignalled = true → Remembers start events clock n alarm := by
  induction n with
  | zero =>
    intro alarm member signalled
    rw [fresh alarm member] at signalled
    cases signalled
  | succ n ih =>
    intro alarm member signalled
    unfold managerAt at member
    cases found : events[n]? with
    | none =>
      rw [stateAt_end found] at member
      refine (ih alarm member signalled).quiet ?_
      intro given
      obtain ⟨⟨reads, event⟩, -⟩ := given
      rw [found] at event
      cases event
    | some e =>
      rw [stateAt_succ found] at member
      by_cases other : ∀ reads, e ≠ .iterate reads
      · exact (ih alarm (signalled_before other member signalled) signalled).quiet (not_sweepsAt found other)
      · push Not at other
        obtain ⟨reads, rfl⟩ := other
        obtain rfl := ticking.reads n reads found
        by_cases free : (managerAt start events n).mCurrentEditor = ""
        · exact Remembers.of_sweep ⟨⟨_, found⟩, free⟩ ih member signalled
        · have unchanged : (managerAt start events n).iterate (clock n) = managerAt start events n :=
            congrArg Prod.fst (AlarmManager.alarmThread_edited free)
          have old : alarm ∈ ((managerAt start events n).iterate (clock n)).mAlarmList := member
          rw [unchanged] at old
          exact (ih alarm old signalled).quiet fun sweeps => free sweeps.2

theorem clocked_of_shows {alarm : Alarm} {minute : Nat} (shows : alarm.Shows (localTimeAt minute)) : alarm.Clocked := by
  obtain ⟨hour, minutes⟩ := shows
  simp only [localTimeAt, DAY_MINUTES] at hour minutes
  unfold Alarm.Clocked
  omega

theorem clocked_of_setting {a b : Alarm} (same : setting a = setting b) (clocked : a.Clocked) : b.Clocked := by
  have both : (setting b).Clocked := same ▸ clocked
  exact both

/-- An enabled alarm that is due has rung in this minute or rings now, unless a ring of an earlier day still counts. -/
theorem rings_in_minute (fresh : ∀ alarm ∈ start.mAlarmManager.mAlarmList, alarm.mSignalled = false)
    (ticking : Ticking clock events) {n i : Nat} {alarm : Alarm} (sweeps : SweepsAt start events n)
    (found : (managerAt start events n).mAlarmList[i]? = some alarm) (enabled : alarm.mEnabled = true)
    (due : alarm.DueAt (clock n i).1) (reset : ¬ StillSignalled start events clock n alarm (clock n i).1) :
    ∃ m j, m ≤ n ∧ RingsAt start events clock m j alarm ∧ (clock m j).1 = (clock n i).1 := by
  have clocked := clocked_of_shows due.1
  cases signalled : alarm.mSignalled with
  | false =>
    have fires := (fires_iff clocked _).mpr ⟨enabled, due, signalled⟩
    exact ⟨n, i, le_rfl, ⟨sweeps, alarm, found, rfl, fires⟩, rfl⟩
  | true =>
    obtain ⟨m, j, rang⟩ := remembers_of_signalled fresh ticking n alarm (List.mem_of_getElem? found) signalled
    have earlier := rang.1
    have rings := rang.2.1
    by_cases sameMinute : (clock m j).1 = (clock n i).1
    · exact ⟨m, j, earlier.le, rings, sameMinute⟩
    · obtain ⟨-, old, -, same, fires⟩ := rings
      have oldDue := ((fires_iff (clocked_of_setting same.symm clocked) _).mp fires).2.1
      have shows := (shows_of_setting same _).mp oldDue.1
      have order := ticking.forward m n earlier j i
      have pass := ticking.pass m j
      -- the clock shows the minute of an alarm once a day
      have apart := shows_apart clocked shows due.1 (by omega)
      exact absurd ⟨signalled, m, j, apart, rang⟩ reset

theorem RingsAt.notifies {n i : Nat} {alarm : Alarm} (rings : RingsAt start events clock n i alarm)
    {o : AlarmObserver} (registered : o ∈ (managerAt start events n).mAlarmObservers.inOrder)
    (reaches : alarm.reaches o = true) :
    .alarmNotify i o alarm.mVolume alarm.smooth ∈ (managerAt start events n).calls (clock n) := by
  obtain ⟨⟨-, free⟩, found, present, same, fires⟩ := rings
  simp only [setting, Alarm.mk.injEq] at same
  obtain ⟨-, -, -, type, -, unit, volume, -⟩ := same
  refine (AlarmManager.mem_alarmThread_notify free).mpr ⟨found, present, fires, registered, ?_, volume.symm, ?_⟩
  · unfold Alarm.reaches
    rw [unit]
    exact reaches
  · unfold Alarm.smooth
    rw [type]

end

section
variable (mUnitList : List String) (alarms : List Alarm) (file : Option XMLDocument) (events : List Event)
  (clock : Nat → Iteration)

structure EditingGates : Prop where
  /-- A due minute that an iteration without an editor reads for an alarm is rung in that minute, unless this alarm has
  been signalled since a ring of an earlier day. -/
  rings : ∀ n i alarm, SweepsAt (House.boot mUnitList alarms file) events n →
    (managerAt (House.boot mUnitList alarms file) events n).mAlarmList[i]? = some alarm →
    alarm.mEnabled = true → alarm.DueAt (clock n i).1 →
    ¬ StillSignalled (House.boot mUnitList alarms file) events clock n alarm (clock n i).1 →
    ∃ m j, m ≤ n ∧ (clock m j).1 = (clock n i).1 ∧ SweepsAt (House.boot mUnitList alarms file) events m ∧
      ∀ o ∈ (managerAt (House.boot mUnitList alarms file) events m).mAlarmObservers.inOrder, alarm.reaches o = true →
        .alarmNotify j o alarm.mVolume alarm.smooth ∈
          (managerAt (House.boot mUnitList alarms file) events m).calls (clock m)
  /-- No minute is made up for later. -/
  due : ∀ n i o volume smooth,
    .alarmNotify i o volume smooth ∈ (managerAt (House.boot mUnitList alarms file) events n).calls (clock n) →
    ∃ alarm, (managerAt (House.boot mUnitList alarms file) events n).mAlarmList[i]? = some alarm ∧
      (alarm.Clocked → alarm.mEnabled = true ∧ alarm.DueAt (clock n i).1)
  edited : ∀ n, (managerAt (House.boot mUnitList alarms file) events n).mCurrentEditor ≠ "" →
    (managerAt (House.boot mUnitList alarms file) events n).alarmThread (fun i => readsAt (clock n i)) =
      (managerAt (House.boot mUnitList alarms file) events n, [])

theorem due_alarm_rings_unless_edited (fresh : ∀ alarm ∈ alarms, alarm.mSignalled = false)
    (ticking : Ticking clock events) : EditingGates mUnitList alarms file events clock where
  rings n i alarm sweeps found enabled due reset := by
    obtain ⟨m, j, earlier, rings, minute⟩ := rings_in_minute fresh ticking sweeps found enabled due reset
    exact ⟨m, j, earlier, minute, rings.sweeps, fun o registered reaches => rings.notifies registered reaches⟩
  due n i o volume smooth made := by
    have free : (managerAt (House.boot mUnitList alarms file) events n).mCurrentEditor = "" := by
      by_contra edited
      rw [AlarmManager.calls, AlarmManager.alarmThread_edited edited] at made
      cases made
    obtain ⟨alarm, found, fires, -⟩ := (AlarmManager.mem_alarmThread_notify free).mp made
    refine ⟨alarm, found, fun clocked => ?_⟩
    obtain ⟨enabled, due, -⟩ := (fires_iff clocked _).mp fires
    exact ⟨enabled, due⟩
  edited n edited := AlarmManager.alarmThread_edited edited

end

def kitchenAlarm : Alarm := { mDays := 1, mUnit := "kitchen" }

def minuteOf (minute : Nat) : Iteration := fun _ => (minute, minute)

def opens : Event := .displayKeys 0 (longPress KEY_LEFT .stNormal)
def closes : Event := .displayKeys 0 (longPress KEY_LEFT .stAlarmEdit)
def iterationIn (minute : Nat) : Event := .iterate fun i => readsAt (minuteOf minute i)

def editedEarly : List Event := [.attach "kitchen" 0, opens, iterationIn 418, closes, iterationIn 420]

theorem editedEarly_ticking : Ticking (fun n => minuteOf (416 + n)) editedEarly where
  reads n reads found := by
    match n, found with
    | 2, found => exact (Event.iterate.inj (Option.some.inj found)).symm
    | 4, found => exact (Event.iterate.inj (Option.some.inj found)).symm
  pass _ _ := le_rfl
  forward m n later _ _ := by
    simp only [minuteOf]
    omega

theorem kitchen_rings_after_editing :
    SweepsAt (House.boot ["kitchen"] [kitchenAlarm] none) editedEarly 4 ∧ kitchenAlarm.DueAt 420 ∧
      EditingGates ["kitchen"] [kitchenAlarm] none editedEarly (fun n => minuteOf (416 + n)) :=
  ⟨⟨⟨_, rfl⟩, by decide⟩, by decide,
    due_alarm_rings_unless_edited ["kitchen"] [kitchenAlarm] none editedEarly _ (by decide) editedEarly_ticking⟩

def everyDay : Alarm := { kitchenAlarm with mDays := 0b1111111 }

/-- The kitchen opens the editor before seven and closes it after the iteration of that minute. And where it edits from
one ring of a daily alarm to the next minute that it is due, the alarm still counts as signalled in that minute. -/
theorem edited_minute_is_missed :
    let edited := run House.step (House.boot ["kitchen"] [kitchenAlarm] none)
      [.attach "kitchen" 0, iterationIn 419, opens]
    let closed := run House.step edited [iterationIn 420, closes]
    let daily := run House.step (House.boot ["kitchen"] [everyDay] none)
      [.attach "kitchen" 0, iterationIn 420, opens, iterationIn 421, closes]
    (kitchenAlarm.mEnabled = true ∧ kitchenAlarm.DueAt 420 ∧
      edited.mAlarmManager.mAlarmList = [kitchenAlarm] ∧ closed.mAlarmManager.mAlarmList = [kitchenAlarm] ∧
      edited.mAlarmManager.mCurrentEditor = "kitchen" ∧ closed.mAlarmManager.mCurrentEditor = "" ∧
      edited.mAlarmManager.calls (minuteOf 420) = [] ∧ closed.mAlarmManager.calls (minuteOf 421) = []) ∧
    everyDay.DueAt 1860 ∧ daily.mAlarmManager.mAlarmList = [{ everyDay with mSignalled := true }] ∧
      daily.mAlarmManager.mCurrentEditor = "" ∧ daily.mAlarmManager.calls (minuteOf 1860) = [] := by
  decide

end RgbClock
