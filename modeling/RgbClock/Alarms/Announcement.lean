import RgbClock.Alarms.Firing

/-! The next alarm that a unit announces is the next one that rings there: the entry of
`mNextAlarmMap` is the least of the minutes left, and the firing path reaches that minute with
nothing in between. -/

namespace RgbClock.Alarms
open Runs

/-! ### The next alarm map -/

def better (known : Option NextAlarm) (entry : NextAlarm) : Option NextAlarm :=
  match known with
  | some other => if other.mIntervalMinutes > entry.mIntervalMinutes then some entry else some other
  | none => if entry.mIntervalMinutes < 23 * 60 then some entry else none

theorem storeNext_at (alarm : Alarm) (minutesLeft : Int) (nextMap : NextAlarmMap) (o : AlarmObserver) (u : String) :
    storeNext alarm minutesLeft nextMap o u =
      if o.name = u then better (nextMap u) ⟨minutesLeft, alarm.mHour, alarm.mMinutes⟩ else nextMap u := by
  by_cases same : o.name = u
  · subst same
    simp only [storeNext, better, if_true]
    cases found : nextMap o.name with
    | some other =>
      dsimp only
      split
      · apply Function.update_self
      · exact found
    | none =>
      dsimp only
      split
      · apply Function.update_self
      · exact found
  · have other : u ≠ o.name := fun equal => same equal.symm
    rw [if_neg same]
    unfold storeNext
    cases nextMap o.name with
    | some known =>
      dsimp only
      split
      · exact Function.update_of_ne other _ _
      · rfl
    | none =>
      dsimp only
      split
      · exact Function.update_of_ne other _ _
      · rfl

def offers (observers : List AlarmObserver) (time : LocalTime) (u : String) (alarm : Alarm) : List NextAlarm :=
  if minutesUntilFired alarm time > 0 then
    ((observers.filter alarm.reaches).filter (·.name = u)).map
      fun _ => ⟨minutesUntilFired alarm time, alarm.mHour, alarm.mMinutes⟩
  else []

section
variable {observers : List AlarmObserver}

theorem foldl_storeNext_at (alarm : Alarm) (minutesLeft : Int) (reached : List AlarmObserver)
    (nextMap : NextAlarmMap) (u : String) :
    reached.foldl (storeNext alarm minutesLeft) nextMap u =
      ((reached.filter (·.name = u)).map fun _ => (⟨minutesLeft, alarm.mHour, alarm.mMinutes⟩ : NextAlarm)).foldl
        better (nextMap u) := by
  induction reached generalizing nextMap with
  | nil => rfl
  | cons o rest ih =>
    rw [List.foldl_cons, ih, storeNext_at]
    by_cases same : o.name = u <;> simp [same]

theorem checkAlarm_mNextAlarmMap (reads : Reads) (i : Nat) (alarm : Alarm) (sweep : Sweep) (u : String) :
    (checkAlarm observers reads i alarm sweep).2.mNextAlarmMap u =
      (offers observers reads.first u alarm).foldl better (sweep.mNextAlarmMap u) := by
  unfold checkAlarm offers
  dsimp only
  by_cases fires : alarm.fires reads.first = true
  · have due : minutesUntilFired alarm reads.first = 0 := by
      simp only [Alarm.fires, Bool.and_eq_true, decide_eq_true_eq] at fires
      exact fires.1
    simp [fires, due]
  · by_cases ahead : minutesUntilFired alarm reads.first > 0
    · simp only [fires, ahead, if_true]
      apply foldl_storeNext_at
    · simp [fires, ahead]

theorem alarmLoop_mNextAlarmMap (reads : Nat → Reads) (i : Nat) (alarms : List Alarm) (sweep : Sweep) (u : String) :
    (alarmLoop observers reads i alarms sweep).2.mNextAlarmMap u =
      ((alarms.zipIdx i).flatMap fun entry => offers observers (reads entry.2).first u entry.1).foldl better
        (sweep.mNextAlarmMap u) := by
  induction alarms generalizing i sweep with
  | nil => rfl
  | cons alarm rest ih =>
    simp only [alarmLoop, ih, checkAlarm_mNextAlarmMap, List.zipIdx_cons, List.flatMap_cons, List.foldl_append]

/-- The entry is one of those offered and none is nearer; without an entry none is within 23 hours. -/
def Nearest (entries : List NextAlarm) : Option NextAlarm → Prop
  | some entry => entry ∈ entries ∧ entry.mIntervalMinutes < 23 * 60 ∧
      ∀ other ∈ entries, entry.mIntervalMinutes ≤ other.mIntervalMinutes
  | none => ∀ other ∈ entries, 23 * 60 ≤ other.mIntervalMinutes

theorem nearest_better {front : List NextAlarm} {known : Option NextAlarm} (nearest : Nearest front known)
    (last : NextAlarm) : Nearest (front ++ [last]) (better known last) := by
  cases known with
  | some other =>
    obtain ⟨member, near, lowest⟩ := nearest
    unfold better
    dsimp only
    split
    · refine ⟨by simp, by omega, List.forall_mem_append.mpr ⟨fun candidate inside => ?_, by simp⟩⟩
      have below := lowest candidate inside
      omega
    · refine ⟨List.mem_append_left _ member, near, List.forall_mem_append.mpr ⟨lowest, ?_⟩⟩
      simp only [List.mem_singleton, forall_eq]
      omega
  | none =>
    unfold better
    dsimp only
    split
    · refine ⟨by simp, by omega, List.forall_mem_append.mpr ⟨fun candidate inside => ?_, by simp⟩⟩
      have above := nearest candidate inside
      omega
    · refine List.forall_mem_append.mpr ⟨nearest, ?_⟩
      simp only [List.mem_singleton, forall_eq]
      omega

theorem nearest_foldl (entries : List NextAlarm) : Nearest entries (entries.foldl better none) := by
  induction entries using List.reverseRecOn with
  | nil => exact fun _ member => by cases member
  | append_singleton front last ih =>
    rw [List.foldl_append]
    exact nearest_better ih last

theorem mem_offers {time : LocalTime} {u : String} {alarm : Alarm} {entry : NextAlarm} :
    entry ∈ offers observers time u alarm ↔ 0 < minutesUntilFired alarm time ∧
      (∃ o ∈ observers, alarm.reaches o = true ∧ o.name = u) ∧
      entry = ⟨minutesUntilFired alarm time, alarm.mHour, alarm.mMinutes⟩ := by
  unfold offers
  split
  · rename_i ahead
    simp only [List.mem_map, List.mem_filter, decide_eq_true_eq]
    constructor
    · intro given
      obtain ⟨o, ⟨⟨registered, reaches⟩, name⟩, rfl⟩ := given
      exact ⟨ahead, ⟨o, registered, reaches, name⟩, rfl⟩
    · intro given
      obtain ⟨_, ⟨o, registered, reaches, name⟩, rfl⟩ := given
      exact ⟨o, ⟨⟨registered, reaches⟩, name⟩, rfl⟩
  · rename_i now
    constructor
    · intro member
      cases member
    · intro given
      obtain ⟨ahead, _⟩ := given
      exact absurd ahead now

end

/-! ### An iteration whose reads are all in one minute -/

def inMinute (minute : Nat) : Iteration := fun _ => (minute, minute)

def ReachesUnit (m : AlarmManager) (u : String) (alarm : Alarm) : Prop :=
  ∃ o ∈ m.mAlarmObservers.inOrder, alarm.reaches o = true ∧ o.name = u

section
variable {m : AlarmManager} {u : String} {minute : Nat}

theorem nextAlarmMap_spec (free : m.mCurrentEditor = "") (minute : Nat) (u : String) :
    (∀ entry, (m.iterate (inMinute minute)).mNextAlarmMap u = some entry →
      ∃ (i : Nat) (alarm : Alarm), m.mAlarmList[i]? = some alarm ∧ ReachesUnit m u alarm ∧
        entry = ⟨minutesUntilFired alarm (localTimeAt minute), alarm.mHour, alarm.mMinutes⟩ ∧
        0 < entry.mIntervalMinutes ∧ entry.mIntervalMinutes < 23 * 60 ∧
        ∀ (j : Nat) (other : Alarm), m.mAlarmList[j]? = some other → ReachesUnit m u other →
          0 < minutesUntilFired other (localTimeAt minute) →
          entry.mIntervalMinutes ≤ minutesUntilFired other (localTimeAt minute)) ∧
    ((m.iterate (inMinute minute)).mNextAlarmMap u = none →
      ∀ (j : Nat) (other : Alarm), m.mAlarmList[j]? = some other → ReachesUnit m u other →
        0 < minutesUntilFired other (localTimeAt minute) →
        23 * 60 ≤ minutesUntilFired other (localTimeAt minute)) := by
  have value : (m.iterate (inMinute minute)).mNextAlarmMap u =
      ((m.mAlarmList.zipIdx 0).flatMap fun entry =>
        offers m.mAlarmObservers.inOrder (localTimeAt minute) u entry.1).foldl better none := by
    rw [AlarmManager.iterate, AlarmManager.alarmThread_mNextAlarmMap free, AlarmManager.sweepAlarms,
      alarmLoop_mNextAlarmMap]
    rfl
  have offered : ∀ (j : Nat) (other : Alarm), m.mAlarmList[j]? = some other → ReachesUnit m u other →
      0 < minutesUntilFired other (localTimeAt minute) →
      (⟨minutesUntilFired other (localTimeAt minute), other.mHour, other.mMinutes⟩ : NextAlarm) ∈
        (m.mAlarmList.zipIdx 0).flatMap fun entry =>
          offers m.mAlarmObservers.inOrder (localTimeAt minute) u entry.1 := by
    intro j other found reached ahead
    exact List.mem_flatMap.mpr ⟨(other, j), List.mem_zipIdx_iff_getElem?.mpr found, mem_offers.mpr ⟨ahead, reached, rfl⟩⟩
  have nearest := nearest_foldl ((m.mAlarmList.zipIdx 0).flatMap fun entry =>
    offers m.mAlarmObservers.inOrder (localTimeAt minute) u entry.1)
  rw [← value] at nearest
  constructor
  · intro entry known
    rw [known] at nearest
    obtain ⟨member, near, lowest⟩ := nearest
    obtain ⟨⟨alarm, i⟩, present, offer⟩ := List.mem_flatMap.mp member
    obtain ⟨ahead, reached, rfl⟩ := mem_offers.mp offer
    refine ⟨i, alarm, List.mem_zipIdx_iff_getElem?.mp present, reached, rfl, ahead, near, ?_⟩
    intro j other found reachedToo positive
    exact lowest _ (offered j other found reachedToo positive)
  · intro absent j other found reached ahead
    rw [absent] at nearest
    exact nearest _ (offered j other found reached ahead)

end

/-! ### What the clock shows -/

def clockText (time : LocalTime) : String := hourMinutes time.mHour time.mMin

theorem hourMinutes_inj {h m h' m' : Nat} (hour : h < 100) (minutes : m < 100) (hour' : h' < 100)
    (minutes' : m' < 100) (same : hourMinutes h m = hourMinutes h' m') : h = h' ∧ m = m' := by
  have chars := congrArg String.toList same
  simp only [hourMinutes, String.toList_ofList] at chars
  have width : (Decimal.padded h).length = (Decimal.padded h').length := by
    rw [Decimal.padded_length hour, Decimal.padded_length hour']
  obtain ⟨front, back⟩ := List.append_inj chars width
  exact ⟨Decimal.padded_inj hour hour' front, Decimal.padded_inj minutes minutes' (List.cons.inj back).2⟩

theorem clockText_eq_iff {alarm : Alarm} (clocked : alarm.Clocked) (minute : Nat) :
    clockText (localTimeAt minute) = hourMinutes alarm.mHour alarm.mMinutes ↔ alarm.Shows (localTimeAt minute) := by
  obtain ⟨hourLow, hourHigh, minutesLow, minutesHigh⟩ := clocked
  obtain ⟨h, hour⟩ := Int.eq_ofNat_of_zero_le hourLow
  obtain ⟨n, minutes⟩ := Int.eq_ofNat_of_zero_le minutesLow
  have clock : (localTimeAt minute).mHour < 24 ∧ (localTimeAt minute).mMin < 60 := by
    simp only [localTimeAt, DAY_MINUTES]
    omega
  rw [Alarm.Shows, hour, minutes, clockText]
  constructor
  · intro same
    obtain ⟨rfl, rfl⟩ := hourMinutes_inj (by omega) (by omega) (by omega) (by omega) same
    exact ⟨rfl, rfl⟩
  · intro given
    obtain ⟨sameHour, sameMinutes⟩ := given
    rw [sameHour, sameMinutes]

theorem hourMinutes_ne_empty (hour minutes : Int) : hourMinutes hour minutes ≠ "" := by
  intro empty
  have chars := congrArg String.toList empty
  simp [hourMinutes] at chars

/-! ### From the announcement to the notification -/

/-- The clock moves on minute by minute, with an iteration in every minute. -/
def MinuteByMinute (minutes : List Nat) : Prop := minutes.IsChain fun now next => now ≤ next ∧ next ≤ now + 1

def NotifiesUnit (m : AlarmManager) (minute : Nat) (u : String) : Prop :=
  ∃ i o volume smooth, Call.alarmNotify i o volume smooth ∈ m.calls (inMinute minute) ∧ o.name = u

def AlarmManager.through (m : AlarmManager) (minutes : List Nat) : AlarmManager :=
  run AlarmManager.iterate m (minutes.map inMinute)

section
variable {m : AlarmManager} {start minute : Nat} {minutes : List Nat} {alarm : Alarm} {i : Nat} {u : String}

theorem MinuteByMinute.not_before (steady : MinuteByMinute (start :: minutes)) : ∀ t ∈ minutes, start ≤ t := by
  have mono := List.isChain_iff_pairwise.mp (List.IsChain.imp (fun _ _ step => step.1) steady)
  exact (List.pairwise_cons.mp mono).1

/-- A clock that goes minute by minute does not get past a minute that it has not shown. -/
theorem MinuteByMinute.below {bound : Nat} (steady : MinuteByMinute (start :: minutes)) (early : start < bound)
    (missed : ∀ t ∈ minutes, t ≠ bound) : ∀ t ∈ minutes, t < bound := by
  induction minutes generalizing start with
  | nil => exact fun _ member => by cases member
  | cons first rest ih =>
    obtain ⟨⟨_, close⟩, later⟩ := List.isChain_cons_cons.mp steady
    have different := missed first List.mem_cons_self
    have firstBelow : first < bound := by omega
    intro t member
    rcases List.mem_cons.mp member with rfl | inside
    · exact firstBelow
    · exact ih later firstBelow (fun t member => missed t (List.mem_cons_of_mem _ member)) t inside

/-- Nor does it with the minute after those that have missed it. -/
theorem MinuteByMinute.up_to {bound : Nat} (steady : MinuteByMinute (start :: (minutes ++ [minute])))
    (early : start < bound) (missed : ∀ t ∈ minutes, t ≠ bound) : (∀ t ∈ minutes, t < bound) ∧ minute ≤ bound := by
  have front : MinuteByMinute (start :: minutes) := by
    have whole : MinuteByMinute ((start :: minutes) ++ [minute]) := steady
    exact List.IsChain.left_of_append whole
  refine ⟨front.below early missed, ?_⟩
  by_cases same : minute = bound
  · omega
  · have all : ∀ t ∈ minutes ++ [minute], t ≠ bound := by
      intro t member
      rcases List.mem_append.mp member with inside | final
      · exact missed t inside
      · rwa [List.mem_singleton.mp final]
    exact Nat.le_of_lt (steady.below early all minute (by simp))

theorem through_alarm (free : m.mCurrentEditor = "") (found : m.mAlarmList[i]? = some alarm) (minutes : List Nat) :
    (m.through minutes).mAlarmList[i]? = some (alarm.after (minutes.map fun t => (t, t))) := by
  have passes : (minutes.map inMinute).map (· i) = minutes.map fun t => (t, t) := by
    rw [List.map_map]
    rfl
  rw [AlarmManager.through, AlarmManager.run_alarm free found, passes]

theorem after_unchanged (alarm : Alarm) (clocked : alarm.Clocked) (fresh : alarm.mSignalled = false)
    (elsewhere : ∀ t ∈ minutes, ¬ alarm.Shows (localTimeAt t)) :
    alarm.after (minutes.map fun t => (t, t)) = alarm := by
  induction minutes using List.reverseRecOn with
  | nil => rfl
  | append_singleton front last ih =>
    have same := ih fun t member => elsewhere t (List.mem_append_left _ member)
    have quiet : alarm.fires (localTimeAt last) = false := by
      rw [Bool.eq_false_iff]
      intro fires
      exact elsewhere last (by simp) ((fires_iff clocked last).mp fires).2.1.1
    rw [List.map_append, List.map_singleton, Alarm.after_concat, same, Alarm.passed_eq]
    simp only [readsAt, quiet, fresh, Bool.false_and, Bool.or_false, Bool.and_false, Bool.not_false, Bool.and_true]
    rw [← fresh]

theorem after_signalled_stays (signalled : alarm.mSignalled = true)
    (shown : ∀ t ∈ minutes, alarm.Shows (localTimeAt t)) :
    (alarm.after (minutes.map fun t => (t, t))).mSignalled = true := by
  induction minutes using List.reverseRecOn with
  | nil => exact signalled
  | append_singleton front last ih =>
    have same := ih fun t member => shown t (List.mem_append_left _ member)
    have shows : (alarm.after (front.map fun t => (t, t))).Shows (readsAt (last, last)).second :=
      (Alarm.after_shows _ _ _).mpr (shown last (by simp))
    rw [List.map_append, List.map_singleton, Alarm.after_concat, Alarm.passed_mSignalled, same, Bool.or_true,
      Bool.and_true, decide_eq_true shows]

theorem after_enabled_before (passes : List Pass) (enabled : (alarm.after passes).mEnabled = true) :
    alarm.mEnabled = true := by
  induction passes using List.reverseRecOn with
  | nil => exact enabled
  | append_singleton front last ih =>
    rw [Alarm.after_concat, Alarm.passed_mEnabled, Bool.and_eq_true] at enabled
    exact ih enabled.1

/-- After an iteration in minute `start`, what fires later was enabled and not due then, and is due
later than `start`. -/
theorem fires_later (clocked : alarm.Clocked) (steady : MinuteByMinute (start :: (minutes ++ [minute])))
    (fires : ((alarm.passed (readsAt (start, start))).after (minutes.map fun t => (t, t))).fires
      (localTimeAt minute) = true) :
    alarm.mEnabled = true ∧ alarm.DueAt minute ∧ start < minute := by
  have shift : (alarm.passed (readsAt (start, start))).after (minutes.map fun t => (t, t)) =
      alarm.after ((start :: minutes).map fun t => (t, t)) := rfl
  rw [shift] at fires
  obtain ⟨enabled, due, quiet⟩ := (after_fires_iff clocked _ _).mp fires
  refine ⟨after_enabled_before _ enabled, due, ?_⟩
  have order := steady.not_before
  rcases Nat.lt_or_eq_of_le (order minute (by simp)) with later | same
  · exact later
  · -- in the minute of the first iteration the alarm is signalled, and every read since shows it
    exfalso
    subst same
    have shown : ∀ t ∈ minutes, alarm.Shows (localTimeAt t) := by
      intro t member
      have low := order t (List.mem_append_left _ member)
      have mono := List.isChain_iff_pairwise.mp (List.IsChain.imp (fun _ _ step => step.1) steady)
      have high := (List.pairwise_append.mp (List.pairwise_cons.mp mono).2).2.2 t member start List.mem_cons_self
      obtain rfl : t = start := by omega
      exact due.1
    have first : (alarm.passed (readsAt (start, start))).mSignalled = true := by
      rw [Alarm.passed_mSignalled, Bool.and_eq_true, Bool.or_eq_true]
      refine ⟨decide_eq_true due.1, ?_⟩
      cases signalled : alarm.mSignalled with
      | true => exact Or.inr rfl
      | false => exact Or.inl ((fires_iff clocked start).mpr ⟨after_enabled_before _ enabled, due, signalled⟩)
    have stays := after_signalled_stays first
      (fun t member => (Alarm.after_shows alarm [(start, start)] _).mpr (shown t member))
    rw [← shift] at quiet
    rw [stays] at quiet
    cases quiet

theorem notifiesUnit_iff (free : m.mCurrentEditor = "") (minute : Nat) (u : String) :
    NotifiesUnit m minute u ↔ ∃ (i : Nat) (alarm : Alarm), m.mAlarmList[i]? = some alarm ∧
      alarm.fires (localTimeAt minute) = true ∧ ReachesUnit m u alarm := by
  constructor
  · intro given
    obtain ⟨i, o, volume, smooth, called, name⟩ := given
    obtain ⟨alarm, found, fires, registered, reaches, _⟩ := (AlarmManager.mem_alarmThread_notify free).mp called
    exact ⟨i, alarm, found, fires, o, registered, reaches, name⟩
  · intro given
    obtain ⟨i, alarm, found, fires, o, registered, reaches, name⟩ := given
    refine ⟨i, o, alarm.mVolume, alarm.smooth, (AlarmManager.mem_alarmThread_notify free).mpr ?_, name⟩
    exact ⟨alarm, found, fires, registered, reaches, rfl, rfl⟩

theorem through_free (free : m.mCurrentEditor = "") (minutes : List Nat) : (m.through minutes).mCurrentEditor = "" :=
  AlarmManager.run_free free _

theorem reachesUnit_through (minutes : List Nat) (alarm : Alarm) :
    ReachesUnit (m.through minutes) u alarm ↔ ReachesUnit m u alarm := by
  rw [ReachesUnit, AlarmManager.through, AlarmManager.run_observers]
  rfl

theorem through_cons (m : AlarmManager) (minute : Nat) (minutes : List Nat) :
    (m.iterate (inMinute minute)).through minutes = m.through (minute :: minutes) := rfl

/-- A unit that is notified after the iteration in minute `start`, and within a day, had an alarm
that was that many minutes away. -/
theorem minutes_left_of_notified (free : m.mCurrentEditor = "") (clocked : ∀ a ∈ m.mAlarmList, a.Clocked)
    (steady : MinuteByMinute (start :: (minutes ++ [minute]))) (soon : minute < start + 1440)
    (notified : NotifiesUnit ((m.iterate (inMinute start)).through minutes) minute u) :
    ∃ (j : Nat) (other : Alarm), m.mAlarmList[j]? = some other ∧ ReachesUnit m u other ∧ start < minute ∧
      minutesUntilFired other (localTimeAt start) = (minute - start : Nat) := by
  rw [through_cons] at notified
  obtain ⟨j, late, found, fires, reached⟩ := (notifiesUnit_iff (through_free free _) _ _).mp notified
  have size : j < m.mAlarmList.length := by
    have inside := (List.getElem?_eq_some_iff.mp found).1
    rwa [AlarmManager.through, AlarmManager.run_length free] at inside
  obtain ⟨other, present⟩ : ∃ other, m.mAlarmList[j]? = some other := ⟨_, List.getElem?_eq_getElem size⟩
  rw [through_alarm free present] at found
  obtain rfl := Option.some.inj found
  have clock := clocked other (List.mem_of_getElem? present)
  obtain ⟨enabled, due, later⟩ := fires_later clock steady fires
  refine ⟨j, other, present, ?_, later, ?_⟩
  · obtain ⟨o, registered, reaches, name⟩ := (reachesUnit_through _ _).mp reached
    exact ⟨o, registered, by rwa [Alarm.after_reaches] at reaches, name⟩
  · refine (minutesUntilFired_iff clock start (by omega)).mpr ⟨enabled, ?_⟩
    rwa [show start + (minute - start) = minute by omega]

/-- An enabled alarm notifies its unit in its minute if the iterations before it come within the day before. -/
theorem notified_when_due {d : Nat} (free : m.mCurrentEditor = "") (clock : alarm.Clocked)
    (found : m.mAlarmList[i]? = some alarm) (reached : ReachesUnit m u alarm) (enabled : alarm.mEnabled = true)
    (due : alarm.DueAt (start + d)) (ahead : 0 < d) (soon : d < 1440)
    (times : ∀ t ∈ minutes, start ≤ t ∧ t < start + d) :
    NotifiesUnit ((m.iterate (inMinute start)).through minutes) (start + d) u := by
  have elsewhere : ∀ t, start ≤ t → t < start + d → ¬ alarm.Shows (localTimeAt t) := by
    intro t begun sooner shows
    have gap := shows_apart clock shows due.1 sooner
    omega
  have silent : alarm.fires (localTimeAt start) = false := by
    rw [Bool.eq_false_iff]
    intro fires
    exact elsewhere start (by omega) (by omega) ((fires_iff clock start).mp fires).2.1.1
  have reset : alarm.passed (readsAt (start, start)) = { alarm with mSignalled := false } := by
    have gone : decide (alarm.Shows (readsAt (start, start)).second) = false :=
      decide_eq_false (elsewhere start (by omega) (by omega))
    rw [Alarm.passed_eq, gone, show alarm.fires (readsAt (start, start)).first = false from silent]
    simp
  have waiting := after_unchanged { alarm with mSignalled := false } clock rfl
    (fun t member => elsewhere t (times t member).1 (times t member).2)
  rw [through_cons, notifiesUnit_iff (through_free free _)]
  refine ⟨i, { alarm with mSignalled := false }, ?_, ?_, ?_⟩
  · rw [through_alarm free found]
    change some ((alarm.passed (readsAt (start, start))).after _) = _
    rw [reset, waiting]
  · have waits : ({ alarm with mSignalled := false } : Alarm).Clocked := clock
    exact (fires_iff waits _).mpr ⟨enabled, due, rfl⟩
  · exact (reachesUnit_through _ _).mpr reached

/-- Up to the minute in which an alarm is due, within a day, no other minute reads like it. -/
theorem minute_of_reading {d : Nat} (clock : alarm.Clocked) (due : alarm.DueAt (start + d)) (soon : d < 1440)
    (begun : start ≤ minute) (reach : minute ≤ start + d)
    (reads : clockText (localTimeAt minute) = hourMinutes alarm.mHour alarm.mMinutes) : minute = start + d := by
  obtain sooner | same := Nat.lt_or_eq_of_le reach
  · have gap := shows_apart clock ((clockText_eq_iff clock _).mp reads) due.1 sooner
    omega
  · exact same

/-- What `nextAlarm` announces after an iteration in minute `start` is what rings next: a time is
that of the first notification, and no text means none for 1379 minutes. -/
theorem announced_alarm_rings_next (free : m.mCurrentEditor = "") (clocked : ∀ a ∈ m.mAlarmList, a.Clocked)
    (start : Nat) (u : String) :
    (∀ text, (m.iterate (inMinute start)).nextAlarm u = text → text ≠ "" →
      (∃ minute, start < minute ∧ clockText (localTimeAt minute) = text) ∧
      ∀ minutes minute, MinuteByMinute (start :: (minutes ++ [minute])) →
        (∀ t ∈ minutes, clockText (localTimeAt t) ≠ text) →
        (clockText (localTimeAt minute) = text ↔
          NotifiesUnit ((m.iterate (inMinute start)).through minutes) minute u)) ∧
    ((m.iterate (inMinute start)).nextAlarm u = "" →
      ∀ minutes minute, MinuteByMinute (start :: (minutes ++ [minute])) → minute ≤ start + 1379 →
        ¬ NotifiesUnit ((m.iterate (inMinute start)).through minutes) minute u) := by
  have freeAfter : (m.iterate (inMinute start)).mCurrentEditor = "" := by
    rw [AlarmManager.iterate, AlarmManager.alarmThread_mCurrentEditor, free]
  obtain ⟨least, far⟩ := nextAlarmMap_spec free start u
  unfold AlarmManager.nextAlarm
  cases known : (m.iterate (inMinute start)).mNextAlarmMap u with
  | none =>
    refine ⟨fun text same nonempty => absurd same.symm nonempty, ?_⟩
    intro _ minutes minute steady soon notified
    obtain ⟨j, other, present, reached, later, left⟩ :=
      minutes_left_of_notified free clocked steady (by omega) notified
    have away := far known j other present reached (by rw [left]; omega)
    rw [left] at away
    omega
  | some entry =>
    dsimp only
    rw [if_pos freeAfter]
    obtain ⟨i, alarm, found, reached, rfl, ahead, near, lowest⟩ := least entry known
    refine ⟨?_, fun empty => absurd empty (hourMinutes_ne_empty _ _)⟩
    rintro text rfl _
    have clock := clocked alarm (List.mem_of_getElem? found)
    -- the entry names the minute `start + d`
    obtain ⟨d, left⟩ := Int.eq_ofNat_of_zero_le (Int.le_of_lt ahead)
    dsimp only at ahead near left lowest
    rw [left] at ahead near lowest
    obtain ⟨enabled, due⟩ := (minutesUntilFired_iff clock start (show d < 1440 by omega)).mp left
    have shown : clockText (localTimeAt (start + d)) = hourMinutes alarm.mHour alarm.mMinutes :=
      (clockText_eq_iff clock _).mpr due.1
    refine ⟨⟨start + d, by omega, shown⟩, ?_⟩
    intro minutes minute steady early
    have missed : ∀ t ∈ minutes, t ≠ start + d := fun t member same => early t member (same ▸ shown)
    obtain ⟨before, reach⟩ := steady.up_to (by omega) missed
    constructor
    · intro reads
      obtain rfl := minute_of_reading clock due (by omega) (steady.not_before minute (by simp)) reach reads
      have times : ∀ t ∈ minutes, start ≤ t ∧ t < start + d := by
        intro t member
        exact ⟨steady.not_before t (List.mem_append_left _ member), before t member⟩
      exact notified_when_due free clock found reached enabled due (by omega) (by omega) times
    · intro notified
      obtain ⟨j, other, present, reachedToo, later, leftToo⟩ :=
        minutes_left_of_notified free clocked steady (by omega) notified
      have away := lowest j other present reachedToo (by rw [leftToo]; omega)
      rw [leftToo] at away
      obtain rfl : minute = start + d := by omega
      exact shown

end

theorem bedroom_announces_and_rings :
    (bedroom.iterate (inMinute 0)).nextAlarm "Bedroom" = "00:01" ∧
      NotifiesUnit ((bedroom.iterate (inMinute 0)).through []) 1 "Bedroom" := by
  have announced : (bedroom.iterate (inMinute 0)).nextAlarm "Bedroom" = "00:01" := by decide +kernel
  have clocked : ∀ a ∈ bedroom.mAlarmList, a.Clocked := by decide
  have rings := ((announced_alarm_rings_next rfl clocked 0 "Bedroom").1 "00:01" announced (by decide)).2 [] 1
  refine ⟨announced, (rings ?_ (by simp)).mp (by decide +kernel)⟩
  exact List.isChain_pair.mpr ⟨by decide, by decide⟩

end RgbClock.Alarms
